import ScriptLint.Lint.Rule
import ScriptLint.Reordering

/-!
The keys of an object pattern should be sorted.

Each pair of neighbours in the wrong order is reported, up to the first entry without an identifier
as key. The first report of a pattern carries the edit that sorts the whole pattern.
-/
namespace ScriptLint.Destructuring

def identifierKey? (t : Tree) (entry : NodeId) : Option Text :=
  match t.kind entry with
  | .property key _ _ _ => match t.kind key with
    | .identifier name => some name
    | _ => none
  | _ => none

def leadingNames (t : Tree) : List NodeId → List Text
  | [] => []
  | entry :: entries => match identifierKey? t entry with
    | some name => name :: leadingNames t entries
    | none => []

def inversions (c : Collation) : List Text → List (Text × Text)
  | a :: b :: names =>
    if c.isAfter a b then (a, b) :: inversions c (b :: names) else inversions c (b :: names)
  | _ => []

def movingEntries (t : Tree) (entries : List NodeId) : List NodeId :=
  (entries.reverse.dropWhile fun entry => t.tag entry = .restElement).reverse

def sortKey (file : SourceFile) (entry : NodeId) : Except LintError SortKey :=
  match file.tree.place entry with
  | .error e => .error e
  | .ok span => match file.tree.kind entry with
    | .property key _ _ _ => match file.tree.name? key with
      | some name => .ok ⟨span, name⟩
      | none => match file.tree.place key with
        | .ok keySpan => .ok ⟨span, file.slice keySpan⟩
        | .error e => .error e
    | _ => .ok ⟨span, file.slice span⟩

def edit (c : Collation) (file : SourceFile) (entries : List NodeId) :
    Except LintError (Option Edit) :=
  match (movingEntries file.tree entries).mapM (sortKey file) with
  | .error e => .error e
  | .ok keys => file.carryingEdit c keys

def finding (span : Span) (pair : Text × Text) (suggestion : Option Suggestion) : Finding :=
  { lint := .orderedDestructuring
    span
    messageId := "sortPropsInObjectPattern"
    data := [("current", pair.1), ("next", pair.2)]
    suggestion }

def suggest (edit : Edit) : Suggestion :=
  ⟨"Sort destructured keys".toList, edit, .machineApplicable⟩

def visit (c : Collation) (file : SourceFile) (id : NodeId) : Step Unit :=
  match file.tree.kind id with
  | .objectPattern entries => match file.tree.place id with
    | .error e => .fail e
    | .ok span => match inversions c (leadingNames file.tree entries) with
      | [] => .quiet ()
      | pair :: pairs => match edit c file entries with
        | .error e => .fail e
        | .ok edit =>
          ⟨finding span pair (edit.map suggest) :: pairs.map (finding span · none), .ok ()⟩
  | _ => .quiet ()

def rule (c : Collation) : Rule :=
  { lint := .orderedDestructuring
    State := Unit
    start := fun _ => ()
    selectors := [⟨.objectPattern, none⟩]
    visit := fun file _ id => visit c file id }

end ScriptLint.Destructuring
