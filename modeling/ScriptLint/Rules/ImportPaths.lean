import ScriptLint.Lint.Rule
import ScriptLint.Reordering
import ScriptLint.Rules.ImportGroups

/-!
Import declarations should be sorted by the paths that they import.

A plan of the top-level imports says which runs they form and, when groups are in use, which group
each import belongs to. Every import is then checked against the plan and against the import before
it. An edit that moves imports is offered once for all groups, or else once for each run.
-/
namespace ScriptLint

namespace ImportPaths

structure Grouping where
  labels : List Text
  correct : List Nat
  deriving DecidableEq, Repr

structure Plan where
  imports : List ImportEntry
  /-- The other statements. No edit goes across one of them. -/
  statements : List Span
  runs : List (List Nat)
  grouping : Option Grouping
  deriving DecidableEq, Repr

def statement (t : Tree) (id : NodeId) : Except LintError (ImportEntry ⊕ Span) :=
  match t.place id with
  | .error e => .error e
  | .ok span => match t.kind id with
    | .importDeclaration specifiers source kind =>
      .ok (.inl ⟨id, span, source, kind, specifiers.isEmpty⟩)
    | _ => .ok (.inr span)

def groupingOf (r : ImportOrder) (imports : List ImportEntry) :
    Except LintError (Option Grouping) :=
  if r.usesGroups then
    let needed := r.neededGroups imports
    match imports.mapM fun i => match r.groupOf? needed i with
      | some n => Except.ok n
      | none => .error (LintError.ungroupedImport i.path) with
    | .error e => .error e
    | .ok correct => .ok (some ⟨needed.map (·.label), correct⟩)
  else .ok none

def planOf (r : ImportOrder) (file : SourceFile) : Except LintError Plan :=
  match file.tree.kind file.tree.root with
  | .program body => match body.mapM (statement file.tree) with
    | .error e => .error e
    | .ok statements =>
      let imports := statements.filterMap Sum.getLeft?
      match groupingOf r imports with
      | .error e => .error e
      | .ok grouping => .ok
        { imports
          statements := statements.filterMap Sum.getRight?
          runs := file.adjacentRuns (imports.map (·.span))
          grouping }
  | _ => .error .rootNotProgram

namespace Plan

def runOf (p : Plan) (i : Nat) : Nat := p.runs.findIdx (·.contains i)

def misplaced (p : Plan) : Bool :=
  match p.grouping with
  | none => false
  | some g => g.correct.zipIdx.any fun (n, i) => n != p.runOf i

/-- The text of an import with the comments after it. The last import of an edit leaves those
comments behind, since they may belong to the code below. -/
def movingSpan (file : SourceFile) (last : Nat) (entry : ImportEntry × Nat) : Span :=
  let span := entry.1.span
  if entry.2 = last then span
  else match (file.commentsAfter span).getLast? with
    | some comment => ⟨span.start, comment.span.stop⟩
    | none => span

def entries (p : Plan) (members : List Nat) : List (ImportEntry × Nat) :=
  members.filterMap fun i => (p.imports[i]?).map fun entry => (entry, i)

def editSpan? (p : Plan) (members : List (ImportEntry × Nat)) : Option Span :=
  match members.head?, members.getLast? with
  | some first, some last =>
    let span : Span := ⟨first.1.span.start, last.1.span.stop⟩
    if p.statements.any span.contains then none else some span
  | _, _ => none

def sortEntries (r : ImportOrder) (members : List (ImportEntry × Nat)) : List (ImportEntry × Nat) :=
  members.mergeSort fun a b => !r.isAfter a.1 b.1

/-- The texts between neighbours; one that has a line break becomes a single line break. -/
def joints (file : SourceFile) (last : Nat) : List (ImportEntry × Nat) → List Text
  | a :: b :: members =>
    let gap := file.slice ⟨(movingSpan file last a).stop, b.1.span.start⟩
    (if gap.contains '\n' then ['\n'] else gap) :: joints file last (b :: members)
  | _ => []

def orderEdit? (p : Plan) (r : ImportOrder) (file : SourceFile) (members : List Nat) :
    Option Edit :=
  let entries := p.entries members
  match p.editSpan? entries, members.getLast? with
  | some span, some last =>
    let texts := (sortEntries r entries).map fun entry => file.slice (movingSpan file last entry)
    some ⟨span, SourceFile.weave texts (joints file last entries)⟩
  | _, _ => none

def buckets (p : Plan) (r : ImportOrder) (g : Grouping) : List (List (ImportEntry × Nat)) :=
  (List.range g.labels.length).map fun n =>
    sortEntries r (((p.imports.zipIdx.zip g.correct).filter (·.2 == n)).map Prod.fst)

def regroupEdit? (p : Plan) (r : ImportOrder) (file : SourceFile) : Option Edit :=
  match p.grouping, p.editSpan? p.imports.zipIdx with
  | some g, some span =>
    let last := p.imports.length - 1
    let texts := ((p.buckets r g).filter (!·.isEmpty)).map fun bucket =>
      Text.joinWith ['\n'] (bucket.map fun entry => file.slice (movingSpan file last entry))
    some ⟨span, Text.joinWith ['\n', '\n'] texts⟩
  | _, _ => none

end Plan

/-- The import before, whether the regrouping edit was offered, and the runs whose edit was; `none`
stands for the single run of all imports. -/
structure State where
  plan : Except LintError Plan
  previous : Option Nat := none
  regroupOffered : Bool := false
  sortedRuns : List (Option Nat) := []

def report (span : Span) (messageId : String) (data : MessageData) (help : String)
    (edit : Option Edit) : Finding :=
  { lint := .orderedImportsByPath
    span
    messageId
    data
    suggestion := edit.map fun edit => ⟨help.toList, edit, .machineApplicable⟩ }

def checkGroup (r : ImportOrder) (file : SourceFile) (p : Plan) (regroupOffered : Bool) (i : Nat)
    (entry : ImportEntry) : List Finding × Bool :=
  match p.grouping with
  | none => ([], regroupOffered)
  | some g =>
    let correct := (g.correct[i]?).getD 0
    let actual := p.runOf i
    if correct = actual then ([], regroupOffered)
    else
      let edit := if regroupOffered then none else p.regroupEdit? r file
      ([report entry.span "wrongGroup"
        [("declaration", entry.path),
          ("correctGroupLabel", (g.labels[correct]?).getD []),
          ("correctGroupIndex", Text.ofNat correct),
          ("actualGroupLabel", (g.labels[actual]?).getD "<out of bounds>".toList),
          ("actualGroupIndex", Text.ofNat actual)]
        "Move imports to their groups" edit], true)

def orderMessage (r : ImportOrder) (file : SourceFile) (previous entry : ImportEntry) :
    String × Text × Text :=
  if previous.path = entry.path ∧ previous.kind ≠ entry.kind then
    ("sortTypeImports", file.slice entry.span, file.slice previous.span)
  else if r.sideEffectsFirst && previous.sideEffect != entry.sideEffect then
    ("sortSideEffectsFirst", file.slice entry.span, file.slice previous.span)
  else ("sortImportsByPath", entry.path, previous.path)

def neighbour? (r : ImportOrder) (p : Plan) (previous : Option Nat) (i : Nat) : Option Nat :=
  previous.filter fun j => !(r.allowSeparateGroups && p.runOf j != p.runOf i)

def checkOrder (r : ImportOrder) (file : SourceFile) (p : Plan) (s : State) (i : Nat)
    (entry : ImportEntry) : List Finding × List (Option Nat) :=
  match (neighbour? r p s.previous i).bind fun j => p.imports[j]? with
  | none => ([], s.sortedRuns)
  | some previous =>
    if !r.isAfter previous entry then ([], s.sortedRuns)
    else
      let (messageId, a, b) := orderMessage r file previous entry
      let run := if r.allowSeparateGroups then some (p.runOf i) else none
      let members := match run with
        | some n => (p.runs[n]?).getD []
        | none => List.range p.imports.length
      let edit :=
        if p.misplaced || s.sortedRuns.contains run then none else p.orderEdit? r file members
      ([report entry.span messageId
        [("declarationA", a), ("declarationB", b),
          ("typeStyle", (if r.typeImportsFirst = some true then "before" else "after").toList)]
        "Sort imports by path" edit],
        if p.misplaced || s.sortedRuns.contains run then s.sortedRuns else run :: s.sortedRuns)

def visit (r : ImportOrder) (file : SourceFile) (s : State) (id : NodeId) : Step State :=
  match s.plan with
  | .error e => .fail e
  | .ok p => match p.imports.zipIdx.find? (·.1.node == id) with
    | none => .quiet s
    | some (entry, i) =>
      let (group, regroupOffered) := checkGroup r file p s.regroupOffered i entry
      let (order, sortedRuns) := checkOrder r file p s i entry
      ⟨group ++ order, .ok { s with previous := some i, regroupOffered, sortedRuns }⟩

def rule (r : ImportOrder) : Rule :=
  { lint := .orderedImportsByPath
    State
    start := fun file => { plan := planOf r file }
    selectors := [⟨.importDeclaration, some .program⟩]
    visit := visit r }

def rule? (o : ImportPathsOptions) : Except OptionError Rule :=
  match ImportOrder.ofOptions o with
  | .error cause => .error cause
  | .ok r => .ok (rule r)

end ImportPaths

end ScriptLint
