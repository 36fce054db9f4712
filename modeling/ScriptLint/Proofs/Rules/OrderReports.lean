import Mathlib
import ScriptLint.Proofs.Rules.ImportOffers
import ScriptLint.Proofs.Rules.OrderFixedPoint

/-!
Where the order of imports is reported.

The rule meets the imports one by one. It remembers the last one and the runs whose edit it has
offered. Here its reports are described without a state, by the list of the imports: one report for
each import that is compared with its neighbour and has to come before it, and one edit for each
run, with the first report.
-/
namespace ScriptLint

namespace Tree

def importEntry? (t : Tree) (id : NodeId) : Option ImportEntry :=
  match t.kind id, t.span? id with
  | .importDeclaration specifiers source kind, some span =>
    some ⟨id, span, source, kind, specifiers.isEmpty⟩
  | _, _ => none

def topImports (t : Tree) : List ImportEntry :=
  if t.tag t.root = .program then (t.children t.root).filterMap t.importEntry? else []

def otherStatements (t : Tree) : List Span :=
  if t.tag t.root = .program then
    ((t.children t.root).filter (t.tag · ≠ .importDeclaration)).filterMap t.span?
  else []

theorem importEntry?_some {t : Tree} {id : NodeId} {entry : ImportEntry}
    (found : t.importEntry? id = some entry) :
    entry.node = id ∧ t.tag id = .importDeclaration := by
  unfold importEntry? at found
  split at found
  · rename_i shape _
    cases found
    exact ⟨rfl, by rw [tag, shape]; rfl⟩
  · cases found

end Tree

namespace ImportPaths

section Meaning

variable (r : ImportOrder) (file : SourceFile)

def isCompared (a b : ImportEntry) : Bool :=
  !r.allowSeparateGroups || file.areAdjacent a.span b.span

def isInverted (i : Nat) : Bool :=
  match file.tree.topImports[i - 1]?, file.tree.topImports[i]? with
  | some a, some b => 0 < i && isCompared r file a b && r.compare a b == .gt
  | _, _ => false

def inversions : List Nat :=
  (List.range file.tree.topImports.length).filter (isInverted r file)

def Joined (i j : Nat) : Prop :=
  ∀ k a b, min i j ≤ k → k < max i j → file.tree.topImports[k]? = some a →
    file.tree.topImports[k + 1]? = some b → isCompared r file a b = true

/-- The numbers of the imports in the run of import number `i`. -/
structure IsRunOf (i : Nat) (run : List Nat) : Prop where
  increasing : run.Pairwise (· < ·)
  mem_iff : ∀ j, j ∈ run ↔ j < file.tree.topImports.length ∧ Joined r file i j

/-- Another statement stands between the first and the last of some imports. -/
def Interrupted (run : List Nat) : Prop :=
  ∃ i j first last, run.head? = some i ∧ run.getLast? = some j ∧
    file.tree.topImports[i]? = some first ∧ file.tree.topImports[j]? = some last ∧
    ∃ s ∈ file.tree.otherStatements, Span.contains ⟨first.span.start, last.span.stop⟩ s = true

/-- A report on import number `i`. No edit is offered where an import is misplaced. Otherwise the
first report of a run offers to sort the run. -/
structure OrderReport (p : Plan) (i : Nat) (d : Diagnostic) : Prop where
  pair : ∃ previous entry, file.tree.topImports[i - 1]? = some previous ∧
    file.tree.topImports[i]? = some entry ∧ d.span = entry.span ∧
    d.messageId = (orderMessage r file previous entry).1
  misplaced : p.misplaced = true → d.suggestion = none
  sorts : p.misplaced = false → ∃ run, IsRunOf r file i run ∧
    (d.suggestion.isSome = true ↔
      (∀ j ∈ inversions r file, j ∈ run → i ≤ j) ∧ ¬ Interrupted file run) ∧
    ∀ x, d.suggestion = some x → p.orderEdit? r file run = some x.edit

end Meaning

theorem statement_left {t : Tree} {id : NodeId} {x : ImportEntry ⊕ Span}
    (made : statement t id = .ok x) : x.getLeft? = t.importEntry? id := by
  obtain ⟨span, placed⟩ : ∃ span, t.span? id = some span := ⟨_, statement_span made⟩
  unfold statement at made
  rw [place_eq_ok.mpr placed] at made
  unfold Tree.importEntry?
  rw [placed]
  dsimp only at made
  split at made
  · rename_i specifiers source kind shape
    cases made
    rw [shape]
    rfl
  · rename_i other
    cases made
    split
    · rename_i shape _
      exact absurd shape (other _ _ _)
    · rfl

theorem statement_right {t : Tree} {id : NodeId} {x : ImportEntry ⊕ Span}
    (made : statement t id = .ok x) :
    x.getRight? = if t.tag id ≠ .importDeclaration then t.span? id else none := by
  cases x with
  | inl entry =>
    rw [if_neg (not_not.mpr (statement_import made).2)]
    rfl
  | inr span =>
    rw [if_pos (statement_other made), statement_span made]
    rfl

section Plans

variable {r : ImportOrder} {file : SourceFile} {p : Plan} (planned : planOf r file = .ok p)
include planned

theorem planOf_imports : p.imports = file.tree.topImports := by
  obtain ⟨statements, program, placed, imports, -⟩ := planOf_ok planned
  rw [imports, Tree.topImports, if_pos program]
  exact filterMap_of_mapM placed fun _ _ made => statement_left made

theorem planOf_statements : p.statements = file.tree.otherStatements := by
  obtain ⟨statements, program, placed, -, others, -⟩ := planOf_ok planned
  rw [others, Tree.otherStatements, if_pos program, List.filterMap_filter]
  refine filterMap_of_mapM placed fun _ _ made => ?_
  simpa using statement_right made

theorem planOf_runs : p.runs = file.adjacentRuns (p.imports.map (·.span)) := by
  obtain ⟨-, -, -, -, -, runs, -⟩ := planOf_ok planned
  exact runs

end Plans

section Runs

variable {r : ImportOrder} {file : SourceFile} {p : Plan} {i j : Nat}

theorem joined_comm : Joined r file i j ↔ Joined r file j i := by
  unfold Joined
  rw [min_comm, max_comm]

variable (planned : planOf r file = .ok p)
include planned

theorem runKey_succ_iff {a b : ImportEntry} (here : p.imports[i]? = some a)
    (next : p.imports[i + 1]? = some b) :
    p.runKey r i = p.runKey r (i + 1) ↔ isCompared r file a b = true := by
  unfold Plan.runKey isCompared
  cases r.allowSeparateGroups with
  | true => simpa using SortsRun.runOf_iff (planOf_runs planned) here next
  | false => simp

theorem runKey_eq_iff (first : i < p.imports.length) (second : j < p.imports.length) :
    p.runKey r i = p.runKey r j ↔ Joined r file i j := by
  wlog order : i ≤ j generalizing i j
  · rw [joined_comm, eq_comm]
    exact this second first (by omega)
  have steps : p.runKey r i = p.runKey r j ↔
      ∀ k, i ≤ k → k < j → p.runKey r k = p.runKey r (k + 1) := by
    unfold Plan.runKey
    cases r.allowSeparateGroups with
    | true => simpa using Plan.runOf_eq_iff (planOf_runs planned) order second
    | false => simp
  rw [steps]
  unfold Joined
  rw [min_eq_left order, max_eq_right order, ← planOf_imports planned]
  constructor
  · intro same k a b above below here next
    exact (runKey_succ_iff planned here next).mp (same k above below)
  · intro joined k above below
    have here := List.getElem?_eq_getElem (l := p.imports) (i := k) (by omega)
    have next := List.getElem?_eq_getElem (l := p.imports) (i := k + 1) (by omega)
    exact (runKey_succ_iff planned here next).mpr (joined k _ _ above below here next)

theorem isRunOf_membersOf (bound : i < p.imports.length) :
    IsRunOf r file i (p.membersOf (p.runKey r i)) := by
  have runs := planOf_runs planned
  have stretch := Plan.membersOf_consecutive runs (p.runKey r i)
  obtain ⟨sorted, own⟩ := Plan.membersOf_runKey runs r (List.getElem?_eq_getElem bound)
  refine ⟨List.pairwise_lt_range.sublist stretch.sublist, ?_⟩
  intro j
  rw [← planOf_imports planned]
  constructor
  · intro member
    have inside := List.mem_range.mp (stretch.subset member)
    have same := Plan.runKey_eq runs sorted own member
    exact ⟨inside, (runKey_eq_iff planned bound inside).mp same⟩
  · rintro ⟨inside, joined⟩
    rw [(runKey_eq_iff planned bound inside).mpr joined]
    exact (Plan.membersOf_runKey runs r (List.getElem?_eq_getElem inside)).2

omit planned in
theorem Plan.entries_ends {run : List Nat} (stretch : run <:+: List.range p.imports.length)
    (member : i ∈ run) :
    ∃ x y, (p.entries run).head? = some x ∧ (p.entries run).getLast? = some y ∧
      run.head? = some x.2 ∧ run.getLast? = some y.2 := by
  have numbers := map_snd_entries stretch
  have filled : p.entries run ≠ [] := by
    intro empty
    rw [← numbers, empty] at member
    cases member
  obtain ⟨x, head⟩ := Option.isSome_iff_exists.mp (List.isSome_head?.mpr filled)
  obtain ⟨y, final⟩ := Option.isSome_iff_exists.mp (List.getLast?_isSome.mpr filled)
  refine ⟨x, y, head, final, ?_, ?_⟩
  · rw [← numbers, List.head?_map, head, Option.map_some]
  · rw [← numbers, List.getLast?_map, final, Option.map_some]

theorem interrupted_iff {run : List Nat} {x y : ImportEntry × Nat} (opens : run.head? = some x.2)
    (closes : run.getLast? = some y.2) (first : p.imports[x.2]? = some x.1)
    (last : p.imports[y.2]? = some y.1) :
    Interrupted file run ↔
      p.statements.any (Span.contains ⟨x.1.span.start, y.1.span.stop⟩) = true := by
  unfold Interrupted
  rw [← planOf_statements planned, ← planOf_imports planned, opens, closes, List.any_eq_true]
  constructor
  · rintro ⟨i, j, a, b, ⟨⟩, ⟨⟩, here, there, between⟩
    rw [first] at here
    rw [last] at there
    cases here
    cases there
    exact between
  · intro between
    exact ⟨x.2, y.2, x.1, y.1, rfl, rfl, first, last, between⟩

theorem orderEdit?_isSome_iff {run : List Nat} (stretch : run <:+: List.range p.imports.length)
    (member : i ∈ run) : (p.orderEdit? r file run).isSome = true ↔ ¬ Interrupted file run := by
  obtain ⟨x, y, head, final, opens, closes⟩ := Plan.entries_ends stretch member
  obtain ⟨-, first⟩ := Plan.of_mem_entries (List.mem_of_head? head)
  obtain ⟨-, last⟩ := Plan.of_mem_entries (List.mem_of_getLast? final)
  rw [interrupted_iff planned opens closes first last]
  unfold Plan.orderEdit? Plan.editSpan?
  simp only [head, final, closes]
  cases p.statements.any (Span.contains ⟨x.1.span.start, y.1.span.stop⟩) <;> simp

end Runs

section Steps

variable {r : ImportOrder} {file : SourceFile} {p : Plan} {s : State} {k : Nat}
  {entry : ImportEntry} {f : Finding}

theorem checkOrder_says (member : f ∈ (checkOrder r file p s k entry).1) :
    ∃ j previous, s.previous = some j ∧ p.imports[j]? = some previous ∧
      r.isAfter previous entry = true ∧
      f.messageId = (orderMessage r file previous entry).1 := by
  simp only [checkOrder] at member
  split at member
  · cases member
  · rename_i previous compared
    obtain ⟨j, near, found⟩ := Option.bind_eq_some_iff.mp compared
    obtain ⟨before, -⟩ := Option.filter_eq_some_iff.mp near
    split at member
    · cases member
    · rename_i after
      obtain rfl := List.mem_singleton.mp member
      exact ⟨j, previous, before, found, by simpa using after, rfl⟩

theorem report_edit (span : Span) (message : String) (data : MessageData) (help : String)
    (edit : Option Edit) : (report span message data help edit).suggestion.map (·.edit) = edit := by
  cases edit <;> rfl

theorem inverted_before_succ (bound : k < file.tree.topImports.length) {P : Nat → Prop} :
    (∃ j ∈ inversions r file, j < k + 1 ∧ P j) ↔
      (∃ j ∈ inversions r file, j < k ∧ P j) ∨ (isInverted r file k = true ∧ P k) := by
  have listed : k ∈ inversions r file ↔ isInverted r file k = true := by
    simp [inversions, bound]
  constructor
  · rintro ⟨j, inverted, before, found⟩
    rcases Nat.lt_succ_iff_lt_or_eq.mp before with earlier | rfl
    · exact Or.inl ⟨j, inverted, earlier, found⟩
    · exact Or.inr ⟨listed.mp inverted, found⟩
  · rintro (⟨j, inverted, before, found⟩ | ⟨inverted, found⟩)
    · exact ⟨j, inverted, by omega, found⟩
    · exact ⟨k, listed.mpr inverted, by omega, found⟩

/-- The rule has met the first `k` imports. -/
structure Reached (r : ImportOrder) (file : SourceFile) (p : Plan) (k : Nat) (s : State) :
    Prop where
  plan : s.plan = .ok p
  previous : s.previous = if k = 0 then none else some (k - 1)
  sorted : ∀ key, key ∈ s.sortedRuns ↔
    p.misplaced = false ∧ ∃ j ∈ inversions r file, j < k ∧ p.runKey r j = key

theorem reached_start (planned : planOf r file = .ok p) :
    Reached r file p 0 { plan := planOf r file } :=
  ⟨planned, rfl, by simp⟩

variable (planned : planOf r file = .ok p) (reached : Reached r file p k s)
  (here : p.imports[k]? = some entry)
include planned reached here

theorem checkOrder_quiet_iff :
    (checkOrder r file p s k entry).1 = [] ↔ isInverted r file k = false := by
  rw [checkOrder_eq_nil_iff, reached.previous]
  unfold isInverted
  rw [← planOf_imports planned, here]
  cases k with
  | zero => simp [here]
  | succ k =>
    obtain ⟨bound, -⟩ := List.getElem?_eq_some_iff.mp here
    have before := List.getElem?_eq_getElem (l := p.imports) (i := k) (by omega)
    -- The rule asks for one run, which for neighbours is that they are compared.
    have near : (r.allowSeparateGroups = true → p.runOf k = p.runOf (k + 1)) ↔
        isCompared r file p.imports[k] entry = true := by
      rw [← runKey_succ_iff planned before here]
      unfold Plan.runKey
      cases r.allowSeparateGroups <;> simp
    simp only [Nat.add_sub_cancel, before, ImportOrder.isAfter]
    constructor
    · intro quiet
      cases compared : isCompared r file p.imports[k] entry with
      | false => simp
      | true => simpa using quiet k (by simp) (near.mpr compared) _ before
    · intro sorted j same close previous found
      obtain rfl : k = j := by simpa using same
      rw [before] at found
      cases found
      simpa [near.mp close] using sorted

/-- The check of the order at the next import reports it exactly when it is inverted. The first time
in a run it offers the edit. -/
theorem checkOrder_reached :
    (isInverted r file k = false ∧ checkOrder r file p s k entry = ([], s.sortedRuns)) ∨
      (isInverted r file k = true ∧ ∃ f, checkOrder r file p s k entry =
          ([f], if p.misplaced || s.sortedRuns.contains (p.runKey r k) then s.sortedRuns
            else p.runKey r k :: s.sortedRuns) ∧
        f.span = entry.span ∧ f.suggestion.map (·.edit) =
          if p.misplaced || s.sortedRuns.contains (p.runKey r k) then none
          else p.orderEdit? r file (p.membersOf (p.runKey r k))) := by
  have quiet := checkOrder_quiet_iff planned reached here
  rcases checkOrder_cases r file p s k entry with none | ⟨message, data, help, -, made⟩
  · rw [none] at quiet
    exact Or.inl ⟨quiet.mp rfl, none⟩
  · rw [made] at quiet
    exact Or.inr ⟨by simpa using quiet, _, made, rfl, report_edit _ _ _ _ _⟩

theorem reached_next {offered : Bool} : Reached r file p (k + 1)
    { s with previous := some k
             regroupOffered := offered
             sortedRuns := (checkOrder r file p s k entry).2 } := by
  refine ⟨reached.plan, by simp, ?_⟩
  intro key
  dsimp only
  obtain ⟨bound, -⟩ := List.getElem?_eq_some_iff.mp here
  rw [planOf_imports planned] at bound
  rw [inverted_before_succ bound]
  rcases checkOrder_reached planned reached here with ⟨sorted, made⟩ | ⟨inverted, f, made, -⟩
  · rw [made, sorted]
    simpa using reached.sorted key
  · rw [made]
    by_cases kept : (p.misplaced || s.sortedRuns.contains (p.runKey r k)) = true
    · rw [if_pos kept, reached.sorted]
      rcases (by simpa using kept : p.misplaced = true ∨ p.runKey r k ∈ s.sortedRuns) with
        misplaced | offered
      · simp [misplaced]
      · -- The run was offered at an earlier import.
        obtain ⟨placed, earlier⟩ := (reached.sorted _).mp offered
        constructor
        · rintro ⟨-, found⟩
          exact ⟨placed, Or.inl found⟩
        · rintro ⟨-, found | ⟨-, rfl⟩⟩
          · exact ⟨placed, found⟩
          · exact ⟨placed, earlier⟩
    · have placed : p.misplaced = false := by
        rw [Bool.or_eq_true, not_or] at kept
        simpa using kept.1
      rw [if_neg kept, List.mem_cons, reached.sorted, placed, inverted]
      simp only [true_and]
      rw [or_comm, eq_comm]

theorem first_of_run_iff (placed : p.misplaced = false) :
    (∀ j ∈ inversions r file, j ∈ p.membersOf (p.runKey r k) → k ≤ j) ↔
      p.runKey r k ∉ s.sortedRuns := by
  obtain ⟨bound, -⟩ := List.getElem?_eq_some_iff.mp here
  have run := isRunOf_membersOf planned bound
  rw [reached.sorted]
  constructor
  · rintro first ⟨-, j, inverted, before, same⟩
    have joined := (runKey_eq_iff planned bound (before.trans bound)).mp same.symm
    rw [planOf_imports planned] at bound
    have later := first j inverted ((run.mem_iff j).mpr ⟨before.trans bound, joined⟩)
    omega
  · intro fresh j inverted inside
    obtain ⟨other, joined⟩ := (run.mem_iff j).mp inside
    rw [← planOf_imports planned] at other
    by_contra before
    have same := (runKey_eq_iff planned bound other).mpr joined
    exact fresh ⟨placed, j, inverted, by omega, same.symm⟩

theorem orderReport_of_check {settings : Settings} {d : Diagnostic}
    (member : f ∈ (checkOrder r file p s k entry).1)
    (made : f.diagnose settings file = .ok (some d)) : OrderReport r file p k d := by
  have runs := planOf_runs planned
  obtain ⟨bound, -⟩ := List.getElem?_eq_some_iff.mp here
  obtain ⟨j, previous, before, found, -, message⟩ := checkOrder_says member
  rcases checkOrder_reached planned reached here with ⟨-, quiet⟩ | ⟨-, g, checked, span, edit⟩
  · rw [quiet] at member
    cases member
  rw [checked] at member
  obtain rfl := List.mem_singleton.mp member
  rw [← (diagnose_some made).suggestion] at edit
  refine ⟨?_, ?_, ?_⟩
  · rw [reached.previous] at before
    obtain ⟨-, same⟩ := Option.ite_none_left_eq_some.mp before
    cases same
    rw [planOf_imports planned] at found here
    exact ⟨previous, entry, found, here, (diagnose_some made).span.trans span,
      (diagnose_some made).messageId.trans message⟩
  · intro misplaced
    simpa [misplaced] using edit
  · intro placed
    refine ⟨_, isRunOf_membersOf planned bound, ?_, ?_⟩
    · have stretch := Plan.membersOf_consecutive runs (p.runKey r k)
      have own := (Plan.membersOf_runKey runs r here).2
      have some := congrArg Option.isSome edit
      rw [Option.isSome_map] at some
      rw [first_of_run_iff planned reached here placed, some,
        ← orderEdit?_isSome_iff planned stretch own]
      by_cases offered : p.runKey r k ∈ s.sortedRuns
      · simp [offered]
      · simp [offered, placed]
    · intro x suggested
      rw [suggested] at edit
      exact (Option.ite_none_left_eq_some.mp edit.symm).2

theorem reports_of_check {settings : Settings} {ds : List Diagnostic}
    (shown : List.Forall₂ (fun f d => f.diagnose settings file = .ok (some d))
      (checkOrder r file p s k entry).1 ds) :
    List.Forall₂ (OrderReport r file p) ([k].filter (isInverted r file)) ds := by
  rcases checkOrder_reached planned reached here with ⟨sorted, quiet⟩ | ⟨inverted, f, checked, -⟩
  · rw [quiet] at shown
    rw [List.forall₂_nil_left_iff.mp shown, List.filter_cons_of_neg (by simp [sorted])]
    exact .nil
  · have member : f ∈ (checkOrder r file p s k entry).1 := by simp [checked]
    rw [checked] at shown
    obtain ⟨d, rest, made, none, rfl⟩ := List.forall₂_cons_left_iff.mp shown
    rw [List.forall₂_nil_left_iff.mp none, List.filter_cons_of_pos inverted]
    exact .cons (orderReport_of_check planned reached here member made) .nil

end Steps

def orderMessages : List String := ["sortImportsByPath", "sortSideEffectsFirst", "sortTypeImports"]

section Walks

variable {r : ImportOrder} {file : SourceFile} {p : Plan} {s : State} {k : Nat}
  {entry : ImportEntry} {settings : Settings}

theorem orderMessage_mem (a b : ImportEntry) : (orderMessage r file a b).1 ∈ orderMessages := by
  unfold orderMessage
  split
  · simp [orderMessages]
  · split
    · simp [orderMessages]
    · simp [orderMessages]

theorem filter_checks (offered : Bool) :
    ((checkGroup r file p offered k entry).1 ++ (checkOrder r file p s k entry).1).filter
      (·.messageId ∈ orderMessages) = (checkOrder r file p s k entry).1 := by
  have group :
      (checkGroup r file p offered k entry).1.filter (·.messageId ∈ orderMessages) = [] := by
    rcases checkGroup_cases r file p k entry offered with quiet | ⟨g, data, help, -, -, made⟩
    · rw [quiet]
      rfl
    · rw [made]
      rfl
  have order : (checkOrder r file p s k entry).1.filter (·.messageId ∈ orderMessages) =
      (checkOrder r file p s k entry).1 := by
    rw [List.filter_eq_self]
    intro f member
    obtain ⟨j, previous, -, -, -, message⟩ := checkOrder_says member
    rw [message]
    exact decide_eq_true (orderMessage_mem previous entry)
  rw [List.filter_append, group, order, List.nil_append]

theorem visit_other {id : NodeId} (planned : s.plan = .ok p)
    (other : id ∉ p.imports.map (·.node)) : visit r file s id = ⟨[], .ok s⟩ := by
  have missing : p.imports.zipIdx.find? (·.1.node == id) = none := by
    rw [List.find?_eq_none]
    rintro ⟨entry, i⟩ member same
    have listed := List.mem_of_getElem? (List.mem_zipIdx_iff_getElem?.mp member)
    exact other (List.mem_map.mpr ⟨entry, listed, by simpa using same⟩)
  unfold visit
  simp only [planned, missing]
  rfl

variable (planned : planOf r file = .ok p) (once : (p.imports.map (·.node)).Nodup)
include planned once

theorem visit_import (reached : Reached r file p k s) (here : p.imports[k]? = some entry) :
    (∃ s', (visit r file s entry.node).outcome = .ok s' ∧ Reached r file p (k + 1) s') ∧
      (visit r file s entry.node).findings.filter (·.messageId ∈ orderMessages) =
        (checkOrder r file p s k entry).1 := by
  unfold visit
  simp only [reached.plan, Plan.find_import once here]
  refine ⟨⟨_, rfl, ?_⟩, filter_checks s.regroupOffered⟩
  rw [← reached.plan]
  exact reached_next planned reached here

variable (level : settings.levelOf Lint.orderedImportsByPath.name ≠ .allow)
include level

theorem call_import (reached : Reached r file p k s) (here : p.imports[k]? = some entry) :
    ∃ ds s', Running.call settings file ⟨rule r, s⟩ entry.node = (ds, .ok ⟨rule r, s'⟩) ∧
      Reached r file p (k + 1) s' ∧
      List.Forall₂ (OrderReport r file p) ([k].filter (isInverted r file))
        (ds.filter (·.messageId ∈ orderMessages)) := by
  obtain ⟨⟨s', next, reached'⟩, order⟩ := visit_import planned once reached here
  have known : ∀ f ∈ (visit r file s entry.node).findings, f.IsKnown :=
    fun f member => (visit_message reached.plan member).1
  have step : visit r file s entry.node = ⟨(visit r file s entry.node).findings, .ok s'⟩ := by
    rw [← next]
  have shown := @diagnoseAll_shown settings file _ known fun f member => by
    rw [(visit_finding member).1]
    exact level
  have same : ∀ {f : Finding} {d : Diagnostic}, f.diagnose settings file = .ok (some d) →
      (decide (f.messageId ∈ orderMessages) = true ↔
        decide (d.messageId ∈ orderMessages) = true) := by
    intro f d made
    rw [(diagnose_some made).messageId]
  have kept := List.rel_filter (fun _ _ made => same made) shown
  rw [order] at kept
  exact ⟨_, s', Running.call_eq step known, reached', reports_of_check planned reached here kept⟩

theorem work_imports (reached : Reached r file p k s) {nodes : List NodeId}
    (rest : nodes.filter (· ∈ p.imports.map (·.node)) = (p.imports.drop k).map (·.node)) :
    List.Forall₂ (OrderReport r file p)
      ((List.range' k (p.imports.length - k)).filter (isInverted r file))
      ((Running.work settings file ⟨rule r, s⟩ nodes).1.filter (·.messageId ∈ orderMessages)) := by
  induction nodes generalizing k s with
  | nil =>
    have done : p.imports.length ≤ k := by simpa using rest.symm
    rw [Nat.sub_eq_zero_of_le done]
    exact .nil
  | cons id nodes ih =>
    by_cases listed : id ∈ p.imports.map (·.node)
    · rw [List.filter_cons_of_pos (by simpa using listed)] at rest
      have bound : k < p.imports.length := by
        by_contra done
        rw [List.drop_eq_nil_of_le (by omega)] at rest
        cases rest
      have here := List.getElem?_eq_getElem bound
      rw [List.drop_eq_getElem_cons bound, List.map_cons, List.cons.injEq] at rest
      obtain ⟨rfl, later⟩ := rest
      -- The next import takes the first of the numbers that are left.
      obtain ⟨ds, s', called, reached', reports⟩ := call_import planned once level reached here
      have left : p.imports.length - k = p.imports.length - (k + 1) + 1 := by omega
      rw [Running.work_cons, called, left, List.range'_succ, ← List.singleton_append,
        List.filter_append, List.filter_append]
      exact List.rel_append reports (ih reached' later)
    · rw [List.filter_cons_of_neg (by simpa using listed)] at rest
      have step : (rule r).visit file s id = ⟨[], .ok s⟩ := visit_other reached.plan listed
      rw [Running.work_cons, Running.call_eq step (by simp)]
      exact ih reached rest

end Walks

section Files

variable {r : ImportOrder} {file : SourceFile} {settings : Settings}

theorem nodes_nodup (wellFormed : file.tree.WellFormed) (q : Rule) : (q.nodes file).Nodup :=
  ((Tree.walk_perm wellFormed).nodup_iff.mpr List.nodup_range).filter _

theorem topImports_visited (wellFormed : file.tree.WellFormed) {entry : ImportEntry}
    (member : entry ∈ file.tree.topImports) : entry.node ∈ (rule r).nodes file := by
  unfold Tree.topImports at member
  split at member
  · rename_i program
    obtain ⟨id, child, found⟩ := List.mem_filterMap.mp member
    obtain ⟨rfl, tag⟩ := Tree.importEntry?_some found
    exact List.mem_filter.mpr
      (declaration_visited wellFormed program child tag { plan := planOf r file })
  · cases member

theorem nodes_imports (wellFormed : file.tree.WellFormed) {p : Plan}
    (planned : planOf r file = .ok p) :
    ((rule r).nodes file).filter (· ∈ p.imports.map (·.node)) = p.imports.map (·.node) := by
  apply filter_mem_eq_of_sublist (nodes_nodup wellFormed _)
  have walked := (planOf_nodes planned).trans (Tree.children_sublist wellFormed file.tree.root)
  have wanted := walked.filter fun id =>
    (rule r).selectors.any (·.accepts (file.tree.tag id) (file.tree.parentTag? id))
  rw [List.filter_eq_self.mpr] at wanted
  · exact wanted
  · intro id member
    obtain ⟨entry, listed, rfl⟩ := List.mem_map.mp member
    rw [planOf_imports planned] at listed
    exact (List.mem_filter.mp (topImports_visited wellFormed listed)).2

theorem topImports_of_failed (wellFormed : file.tree.WellFormed) {e : LintError}
    (failed : planOf r file = .error e)
    (done : (((rule r).run file).work settings file ((rule r).nodes file)).2 = none) :
    file.tree.topImports = [] := by
  have none : (rule r).nodes file = [] := by
    cases nodes : (rule r).nodes file with
    | nil => rfl
    | cons id nodes' =>
      have called : Running.call settings file ((rule r).run file) id = ([], .error e) :=
        call_unplanned failed id
      rw [nodes, Running.work_cons, called] at done
      cases done
  apply List.eq_nil_iff_forall_not_mem.mpr
  intro entry member
  have visited := topImports_visited (r := r) wellFormed member
  rw [none] at visited
  cases visited

theorem reports_sorted {reports : List Diagnostic}
    (related : List.Forall₂ (fun i d => ∃ p, planOf r file = .ok p ∧ OrderReport r file p i d)
      (inversions r file) reports)
    (starts : (file.tree.topImports.map (·.span.start)).Pairwise (· ≤ ·)) :
    Diagnostic.sortByStart reports = reports := by
  have increasing : (inversions r file).Pairwise (· < ·) := List.pairwise_lt_range.filter _
  obtain ⟨lengths, each⟩ := List.forall₂_iff_get.mp related
  rw [List.pairwise_map, List.pairwise_iff_getElem] at starts
  apply List.mergeSort_of_pairwise
  rw [List.pairwise_iff_getElem] at increasing ⊢
  intro m n boundM boundN before
  obtain ⟨_, -, earlier⟩ := each m (by omega) boundM
  obtain ⟨_, -, later⟩ := each n (by omega) boundN
  obtain ⟨-, a, -, here, span, -⟩ := earlier.pair
  obtain ⟨-, b, -, there, span', -⟩ := later.pair
  obtain ⟨bound, rfl⟩ := List.getElem?_eq_some_iff.mp here
  obtain ⟨bound', rfl⟩ := List.getElem?_eq_some_iff.mp there
  have order := starts _ _ bound bound' (increasing m n (by omega) (by omega) before)
  rw [← span, ← span'] at order
  exact decide_eq_true order

end Files

/-- In a run of any rules without an error, the reports on the order of imports are those on the
inverted imports, one for each, sorted by their places. Where the places of the imports increase,
this is the order of the imports. -/
theorem order_reports_are_inversions {rules : List Rule} {r : ImportOrder}
    (builtIn : ∀ q ∈ rules, q.IsBuiltIn) (once : (rules.map (·.lint)).Nodup)
    (member : rule r ∈ rules) {settings : Settings}
    (level : settings.levelOf Lint.orderedImportsByPath.name ≠ .allow) {file : SourceFile}
    (wellFormed : file.tree.WellFormed) (complete : (runRules rules settings file).2 = none) :
    let shown := (runRules rules settings file).1.filter fun d =>
      d.lint = .orderedImportsByPath && d.messageId ∈ orderMessages
    ∃ reports, shown = Diagnostic.sortByStart reports ∧
      List.Forall₂ (fun i d => ∃ p, planOf r file = .ok p ∧ OrderReport r file p i d)
        (inversions r file) reports ∧
      ((file.tree.topImports.map (·.span.start)).Pairwise (· ≤ ·) → shown = reports) := by
  intro shown
  obtain ⟨nodes, -, own, whole⟩ :=
    runRules_share member (fun q listed => (builtIn q listed).reportsOwn) once settings file
  obtain ⟨rfl, done⟩ := whole complete
  have sorted : shown = Diagnostic.sortByStart
      ((((rule r).run file).work settings file ((rule r).nodes file)).1.filter
        (·.messageId ∈ orderMessages)) := by
    rw [← filter_sortByStart, ← own, List.filter_filter]
    apply List.filter_congr
    intro d listed
    exact Bool.and_comm _ _
  have related : List.Forall₂ (fun i d => ∃ p, planOf r file = .ok p ∧ OrderReport r file p i d)
      (inversions r file) ((((rule r).run file).work settings file ((rule r).nodes file)).1.filter
        (·.messageId ∈ orderMessages)) := by
    cases planned : planOf r file with
    | error e =>
      have silent : (((rule r).run file).work settings file ((rule r).nodes file)).1 = [] :=
        work_unplanned planned _
      have none : inversions r file = [] := by
        rw [inversions, topImports_of_failed wellFormed planned done]
        rfl
      rw [none, silent]
      exact .nil
    | ok p =>
      have distinct :=
        (Tree.children_nodup wellFormed file.tree.root).sublist (planOf_nodes planned)
      have reports := work_imports planned distinct level (reached_start planned)
        (nodes_imports wellFormed planned)
      rw [Nat.sub_zero, ← List.range_eq_range', planOf_imports planned] at reports
      exact reports.imp fun i d report => ⟨p, rfl, report⟩
  refine ⟨_, sorted, related, ?_⟩
  intro starts
  rw [sorted, reports_sorted related starts]

/-- A run with two inverted imports, and one with a call between its imports. -/
def interruptedRun : SourceFile :=
  .ofParts "import 'c';\nimport 'b';\nimport 'a';\n\nimport 'e'; f(); import 'd';".toList
    { nodes := #[⟨.importDeclaration [] ['c'] .value, some ⟨0, 11⟩⟩,
        ⟨.importDeclaration [] ['b'] .value, some ⟨12, 23⟩⟩,
        ⟨.importDeclaration [] ['a'] .value, some ⟨24, 35⟩⟩,
        ⟨.importDeclaration [] ['e'] .value, some ⟨37, 48⟩⟩,
        ⟨.other "expression_statement" [], some ⟨49, 53⟩⟩,
        ⟨.importDeclaration [] ['d'] .value, some ⟨54, 65⟩⟩,
        ⟨.program [0, 1, 2, 3, 4, 5], some ⟨0, 65⟩⟩]
      root := 6 }
    [⟨.keyword, ⟨0, 6⟩⟩, ⟨.string, ⟨7, 10⟩⟩, ⟨.punctuator, ⟨10, 11⟩⟩, ⟨.keyword, ⟨12, 18⟩⟩,
      ⟨.string, ⟨19, 22⟩⟩, ⟨.punctuator, ⟨22, 23⟩⟩, ⟨.keyword, ⟨24, 30⟩⟩, ⟨.string, ⟨31, 34⟩⟩,
      ⟨.punctuator, ⟨34, 35⟩⟩, ⟨.keyword, ⟨37, 43⟩⟩, ⟨.string, ⟨44, 47⟩⟩, ⟨.punctuator, ⟨47, 48⟩⟩,
      ⟨.identifier, ⟨49, 50⟩⟩, ⟨.punctuator, ⟨50, 51⟩⟩, ⟨.punctuator, ⟨51, 52⟩⟩,
      ⟨.punctuator, ⟨52, 53⟩⟩, ⟨.keyword, ⟨54, 60⟩⟩, ⟨.string, ⟨61, 64⟩⟩, ⟨.punctuator, ⟨64, 65⟩⟩]
    [] []

theorem order_reports_are_inversions_interrupted :
    inversions plainOrder interruptedRun = [1, 2, 4] ∧
      (runRules [rule plainOrder] {} interruptedRun).2 = none ∧
      ∃ reports, reports.map (fun d => (d.span, d.suggestion.map (·.edit))) =
          [(⟨12, 23⟩, some ⟨⟨0, 35⟩, "import 'a';\nimport 'b';\nimport 'c';".toList⟩),
            (⟨24, 35⟩, none), (⟨54, 65⟩, none)] ∧
        List.Forall₂ (fun i d => ∃ p, planOf plainOrder interruptedRun = .ok p ∧
          OrderReport plainOrder interruptedRun p i d) [1, 2, 4] reports := by
  have builtIn : (rule plainOrder).IsBuiltIn := .importPaths (o := {}) rfl
  have inverted : inversions plainOrder interruptedRun = [1, 2, 4] := by cbv
  have complete : (runRules [rule plainOrder] {} interruptedRun).2 = none := by cbv
  have shown : ((runRules [rule plainOrder] {} interruptedRun).1.filter fun d =>
      d.lint = .orderedImportsByPath && d.messageId ∈ orderMessages).map
        (fun d => (d.span, d.suggestion.map (·.edit))) =
      [(⟨12, 23⟩, some ⟨⟨0, 35⟩, "import 'a';\nimport 'b';\nimport 'c';".toList⟩),
        (⟨24, 35⟩, none), (⟨54, 65⟩, none)] := by cbv
  have level : ({} : Settings).levelOf Lint.orderedImportsByPath.name ≠ .allow := by decide
  have wellFormed : interruptedRun.tree.WellFormed := by decide
  obtain ⟨reports, -, related, sorted⟩ := order_reports_are_inversions builtIn.alone
    (List.nodup_singleton _) (List.mem_singleton.mpr rfl) level wellFormed complete
  rw [sorted (by decide)] at shown
  rw [inverted] at related
  exact ⟨inverted, complete, reports, shown, related⟩

end ImportPaths

end ScriptLint
