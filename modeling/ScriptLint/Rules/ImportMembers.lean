import ScriptLint.Lint.Rule
import ScriptLint.Reordering

/-!
The members that an import names in braces should be sorted by their local names.

The last pair in the wrong order is reported. Members without comments around them are sorted in
place; members with comments only when the options ask for it, and then the comments move along.
-/
namespace ScriptLint

structure ImportMembersOptions where
  collation : Collation := {}
  sortWithComments : Bool := false
  deriving DecidableEq, Repr

namespace ImportMembers

structure Member where
  node : NodeId
  name : Text
  deriving DecidableEq, Repr

def members (t : Tree) (specifiers : List NodeId) : List Member :=
  specifiers.filterMap fun specifier =>
    match t.kind specifier with
    | .importSpecifier _ binding => (t.name? binding).map fun name => ⟨specifier, name⟩
    | _ => none

def lastInversion? (c : Collation) : List Member → Option (Member × Member)
  | a :: b :: ms => match lastInversion? c (b :: ms) with
    | some pair => some pair
    | none => if c.isAfter a.name b.name then some (a, b) else none
  | _ => none

def sortKey (t : Tree) (m : Member) : Except LintError SortKey :=
  match t.place m.node with
  | .ok span => .ok ⟨span, m.name⟩
  | .error e => .error e

def haveComments (file : SourceFile) (keys : List SortKey) : Bool :=
  keys.any fun key =>
    !(file.commentsBefore key.span).isEmpty || !(file.commentsAfter key.span).isEmpty

def edit (o : ImportMembersOptions) (file : SourceFile) (keys : List SortKey) :
    Except LintError (Option Edit) :=
  if !haveComments file keys then .ok (file.inPlaceEdit? o.collation keys)
  else if o.sortWithComments then file.carryingEdit o.collation keys
  else .ok none

def suggest (edit : Edit) : Suggestion :=
  ⟨"Sort import members".toList, edit, .machineApplicable⟩

def report (o : ImportMembersOptions) (file : SourceFile) (ms : List Member) (a b : Member) :
    Except LintError Finding :=
  match ms.mapM (sortKey file.tree) with
  | .error e => .error e
  | .ok keys => match edit o file keys with
    | .error e => .error e
    | .ok edit => match file.tree.place b.node with
      | .error e => .error e
      | .ok span => .ok
        { lint := .orderedImportMembers
          span
          messageId := "sortMembersAlphabetically"
          data := [("specifierA", b.name), ("specifierB", a.name)]
          suggestion := edit.map suggest }

def visit (o : ImportMembersOptions) (file : SourceFile) (id : NodeId) : Step Unit :=
  match file.tree.kind id with
  | .importDeclaration specifiers _ _ =>
    let ms := members file.tree specifiers
    match lastInversion? o.collation ms with
    | none => .quiet ()
    | some (a, b) => match report o file ms a b with
      | .error e => .fail e
      | .ok found => ⟨[found], .ok ()⟩
  | _ => .quiet ()

def rule (o : ImportMembersOptions) : Rule :=
  { lint := .orderedImportMembers
    State := Unit
    start := fun _ => ()
    selectors := [⟨.importDeclaration, none⟩]
    visit := fun file _ id => visit o file id }

end ImportMembers

end ScriptLint
