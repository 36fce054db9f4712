import Mathlib
import ScriptLint.Proofs.Lint.Independence
import ScriptLint.Proofs.Rules.ImportGroups
import ScriptLint.Proofs.Syntax.WellFormed

/-!
Imports laid out by groups.

The regrouping edit puts the imports in the order of their groups and makes one run of each group
that has imports. In such a layout the number of a run falls behind the number of its group by the
empty groups before it, so an import is reported exactly when an empty group comes before its own.
-/
namespace ScriptLint.ImportPaths

namespace Grouping

variable {g : Grouping}

def emptyBefore (g : Grouping) (n : Nat) : Nat := (List.range n).countP (!g.correct.contains ·)

theorem emptyBefore_eq_zero {n : Nat} : g.emptyBefore n = 0 ↔ ∀ m < n, m ∈ g.correct := by
  simp [emptyBefore, List.countP_eq_zero]

theorem emptyBefore_eq_self {n : Nat} (empty : ∀ m < n, m ∉ g.correct) : g.emptyBefore n = n := by
  have all : (List.range n).countP (!g.correct.contains ·) = (List.range n).length := by
    refine List.countP_eq_length.mpr fun m member => ?_
    simpa using empty m (List.mem_range.mp member)
  rw [emptyBefore, all, List.length_range]

theorem emptyBefore_next {m k : Nat} (occupied : m ∈ g.correct)
    (empty : ∀ n, m < n → n < m + k + 1 → n ∉ g.correct) :
    g.emptyBefore (m + k + 1) = g.emptyBefore m + k := by
  have parts : List.range (m + k + 1) = List.range m ++ m :: List.range' (m + 1) k := by
    rw [List.range_eq_range', List.range_eq_range', ← List.range'_succ, Nat.add_assoc,
      ← List.range'_append_1, Nat.zero_add]
  have all : (List.range' (m + 1) k).countP (!g.correct.contains ·) =
      (List.range' (m + 1) k).length := by
    refine List.countP_eq_length.mpr fun n member => ?_
    obtain ⟨above, below⟩ := List.mem_range'_1.mp member
    simpa using empty n above (by omega)
  rw [emptyBefore, parts, List.countP_append, List.countP_cons_of_neg (by simpa using occupied),
    all, List.length_range', emptyBefore]

end Grouping

namespace Plan

variable {p : Plan} {g : Grouping}

theorem findIdx_run {runs : List (List Nat)} {s n : Nat} (whole : runs.flatten = List.range' s n)
    (filled : [] ∉ runs) :
    (0 < n → runs.findIdx (·.contains s) = 0) ∧ ∀ i, s ≤ i → i + 1 < s + n →
      runs.findIdx (·.contains (i + 1)) = runs.findIdx (·.contains i) ∨
        runs.findIdx (·.contains (i + 1)) = runs.findIdx (·.contains i) + 1 := by
  induction runs generalizing s n with
  | nil =>
    have empty : n = 0 := by simpa using whole.symm
    exact ⟨by omega, by omega⟩
  | cons run runs ih =>
    obtain ⟨notEmpty, others⟩ := not_or.mp (List.mem_cons.not.mp filled)
    obtain ⟨k, le, first, rest⟩ := List.range'_eq_append_iff.mp whole.symm
    rw [Nat.mul_one] at rest
    have positive : 0 < k := by
      rcases Nat.eq_zero_or_pos k with rfl | positive
      · exact absurd first.symm notEmpty
      · exact positive
    obtain ⟨start, step⟩ := ih rest others
    have inside : ∀ i, s ≤ i → (run.contains i = true ↔ i < s + k) := by
      intro i above
      rw [first, List.contains_iff_mem, List.mem_range'_1]
      omega
    have here : ∀ i, s ≤ i → i < s + k → (run :: runs).findIdx (·.contains i) = 0 := by
      intro i above below
      rw [List.findIdx_cons, (inside i above).mpr below, cond_true]
    have past : ∀ i, s + k ≤ i →
        (run :: runs).findIdx (·.contains i) = runs.findIdx (·.contains i) + 1 := by
      intro i above
      have outside : run.contains i = false := by
        rw [Bool.eq_false_iff, Ne, inside i (by omega)]
        omega
      rw [List.findIdx_cons, outside, cond_false]
    refine ⟨fun _ => here s le_rfl (by omega), ?_⟩
    intro i above below
    -- Both numbers in the first run, the step out of it, or both behind it.
    rcases Nat.lt_trichotomy (i + 1) (s + k) with before | last | after
    · exact Or.inl ((here _ (by omega) before).trans (here i above (by omega)).symm)
    · right
      rw [past _ (by omega), here i above (by omega), last, start (by omega)]
    · rw [past _ (by omega), past i (by omega), Nat.add_right_cancel_iff, Nat.add_right_cancel_iff]
      exact step i (by omega) (by omega)

/-- Imports in the order of their groups, with one run for each group that has imports. -/
structure LaidOut (p : Plan) (g : Grouping) : Prop where
  ordered : g.correct.Pairwise (· ≤ ·)
  runs : ∀ i < p.imports.length, ∀ j < p.imports.length,
    p.runOf i = p.runOf j ↔ g.correct[i]? = g.correct[j]?

theorem laidOut_iff (p : Plan) (g : Grouping) : p.LaidOut g ↔ g.correct.Pairwise (· ≤ ·) ∧
    ∀ i < p.imports.length, ∀ j < p.imports.length,
      p.runOf i = p.runOf j ↔ g.correct[i]? = g.correct[j]? :=
  ⟨fun laidOut => ⟨laidOut.ordered, laidOut.runs⟩, fun ⟨ordered, runs⟩ => ⟨ordered, runs⟩⟩

instance (p : Plan) (g : Grouping) : Decidable (p.LaidOut g) :=
  decidable_of_iff _ (p.laidOut_iff g).symm

theorem LaidOut.le (laidOut : p.LaidOut g) {i j m n : Nat} (before : i ≤ j)
    (first : g.correct[i]? = some m) (second : g.correct[j]? = some n) : m ≤ n := by
  obtain ⟨_, rfl⟩ := List.getElem?_eq_some_iff.mp first
  obtain ⟨_, rfl⟩ := List.getElem?_eq_some_iff.mp second
  rcases Nat.lt_or_eq_of_le before with lt | rfl
  · exact List.pairwise_iff_getElem.mp laidOut.ordered i j _ _ lt
  · exact le_rfl

section Layout

variable {file : SourceFile} (runs : p.runs = file.adjacentRuns (p.imports.map (·.span)))
  (lengths : g.correct.length = p.imports.length)
include runs

theorem runOf_zero (present : 0 < p.imports.length) : p.runOf 0 = 0 := by
  have whole := runs_flatten runs
  rw [List.range_eq_range'] at whole
  exact (findIdx_run whole (runs_filled runs)).1 present

theorem runOf_succ {i : Nat} (bound : i + 1 < p.imports.length) :
    p.runOf (i + 1) = p.runOf i ∨ p.runOf (i + 1) = p.runOf i + 1 := by
  have whole := runs_flatten runs
  rw [List.range_eq_range'] at whole
  exact (findIdx_run whole (runs_filled runs)).2 i (Nat.zero_le i) (by omega)

theorem runOf_le {i j : Nat} (order : i ≤ j) (bound : j < p.imports.length) : p.runOf i ≤ p.runOf j := by
  induction j, order using Nat.le_induction with
  | base => exact le_rfl
  | succ j order ih =>
    have before := ih (by omega)
    have next := runOf_succ runs bound
    omega

theorem runOf_eq_iff {i j : Nat} (order : i ≤ j) (bound : j < p.imports.length) :
    p.runOf i = p.runOf j ↔ ∀ k, i ≤ k → k < j → p.runOf k = p.runOf (k + 1) := by
  constructor
  · intro same k above below
    have first := runOf_le runs above (by omega)
    have step : p.runOf k ≤ p.runOf (k + 1) := runOf_le runs (by omega) (by omega)
    have last : p.runOf (k + 1) ≤ p.runOf j := runOf_le runs below bound
    omega
  · intro together
    induction j, order using Nat.le_induction with
    | base => rfl
    | succ j order ih =>
      have before := ih (by omega) fun k above below => together k above (by omega)
      exact before.trans (together j order (Nat.lt_succ_self j))

include lengths

/-- Each run falls behind its group by the empty groups before it. -/
theorem LaidOut.runOf_add_emptyBefore (laidOut : p.LaidOut g) {i n : Nat}
    (group : g.correct[i]? = some n) : p.runOf i + g.emptyBefore n = n := by
  induction i generalizing n with
  | zero =>
    obtain ⟨bound, -⟩ := List.getElem?_eq_some_iff.mp group
    have lowest : ∀ m < n, m ∉ g.correct := by
      intro m below member
      obtain ⟨j, here⟩ := List.mem_iff_getElem?.mp member
      have above := laidOut.le (Nat.zero_le j) group here
      omega
    rw [runOf_zero runs (by omega), Grouping.emptyBefore_eq_self lowest, Nat.zero_add]
  | succ i ih =>
    obtain ⟨bound, -⟩ := List.getElem?_eq_some_iff.mp group
    obtain ⟨m, before⟩ : ∃ m, g.correct[i]? = some m := ⟨_, List.getElem?_eq_getElem (by omega)⟩
    have counted := ih before
    have together := laidOut.runs (i + 1) (by omega) i (by omega)
    rw [group, before, Option.some.injEq] at together
    -- The next import is in the next group that has imports, or still in the same group.
    rcases Nat.lt_or_eq_of_le (laidOut.le (Nat.le_succ i) before group) with lt | rfl
    · obtain ⟨k, rfl⟩ := Nat.exists_eq_add_of_lt lt
      have empty : ∀ x, m < x → x < m + k + 1 → x ∉ g.correct := by
        intro x above below member
        obtain ⟨j, here⟩ := List.mem_iff_getElem?.mp member
        rcases Nat.lt_or_ge i j with later | earlier
        · have bound := laidOut.le later group here
          omega
        · have bound := laidOut.le earlier here before
          omega
      have apart : p.runOf (i + 1) ≠ p.runOf i := fun same => by
        have equal := together.mp same
        omega
      have next := (runOf_succ runs (by omega)).resolve_left apart
      rw [next, Grouping.emptyBefore_next (List.mem_of_getElem? before) empty]
      omega
    · rw [together.mpr rfl]
      exact counted

/-- In a layout by groups, imports are misplaced when an empty group comes before another one. -/
theorem LaidOut.misplaced_iff (laidOut : p.LaidOut g) (grouped : p.grouping = some g) :
    p.misplaced = true ↔ ∃ n ∈ g.correct, ∃ m < n, m ∉ g.correct := by
  have each : ∀ i n, g.correct[i]? = some n → (n ≠ p.runOf i ↔ ∃ m < n, m ∉ g.correct) := by
    intro i n group
    have sum := laidOut.runOf_add_emptyBefore runs lengths group
    have zero := Grouping.emptyBefore_eq_zero (g := g) (n := n)
    have wrong : n ≠ p.runOf i ↔ ¬ g.emptyBefore n = 0 := by omega
    rw [wrong, zero]
    push Not
    rfl
  simp only [misplaced, grouped, List.any_eq_true, bne_iff_ne, Prod.exists,
    List.mem_zipIdx_iff_getElem?]
  refine ⟨?_, ?_⟩
  · rintro ⟨n, i, group, wrong⟩
    exact ⟨n, List.mem_of_getElem? group, (each i n group).mp wrong⟩
  · rintro ⟨n, member, empty⟩
    obtain ⟨i, group⟩ := List.mem_iff_getElem?.mp member
    exact ⟨n, i, group, (each i n group).mpr empty⟩

end Layout

theorem find_import (once : (p.imports.map (·.node)).Nodup) {i : Nat} {entry : ImportEntry}
    (here : p.imports[i]? = some entry) :
    p.imports.zipIdx.find? (·.1.node == entry.node) = some (entry, i) := by
  obtain ⟨bound, rfl⟩ := List.getElem?_eq_some_iff.mp here
  refine List.find?_eq_some_iff_getElem.mpr ⟨by simp, i, by simpa using bound, by simp, ?_⟩
  intro j before
  have apart := (List.nodup_iff_pairwise_ne.mp once)
  rw [List.pairwise_map, List.pairwise_iff_getElem] at apart
  simpa using apart j i (by omega) bound before

/-- The node is an import that stands in another run than that with the number of its group. -/
def Misplaces (p : Plan) (id : NodeId) : Prop :=
  ∃ g entry i, p.grouping = some g ∧ p.imports.zipIdx.find? (·.1.node == id) = some (entry, i) ∧
    (g.correct[i]?).getD 0 ≠ p.runOf i

theorem Misplaces.isImport {id : NodeId} (misplaced : p.Misplaces id) :
    ∃ entry ∈ p.imports, entry.node = id := by
  obtain ⟨g, entry, i, -, found, -⟩ := misplaced
  have listed := List.mem_zipIdx_iff_getElem?.mp (List.mem_of_find?_eq_some found)
  exact ⟨entry, List.mem_of_getElem? listed, by simpa using List.find?_some found⟩

theorem misplaced_iff_exists (once : (p.imports.map (·.node)).Nodup) (grouped : p.grouping = some g)
    (lengths : g.correct.length = p.imports.length) :
    p.misplaced = true ↔ ∃ id, p.Misplaces id := by
  simp only [misplaced, grouped, List.any_eq_true, bne_iff_ne, Prod.exists,
    List.mem_zipIdx_iff_getElem?]
  refine ⟨?_, ?_⟩
  · rintro ⟨n, i, group, wrong⟩
    obtain ⟨bound, -⟩ := List.getElem?_eq_some_iff.mp group
    have here : p.imports[i]? = some p.imports[i] := List.getElem?_eq_getElem (by omega)
    refine ⟨_, g, _, i, grouped, find_import once here, ?_⟩
    rw [group]
    exact wrong
  · rintro ⟨id, g', entry, i, same, found, wrong⟩
    cases grouped.symm.trans same
    have listed := List.mem_zipIdx_iff_getElem?.mp (List.mem_of_find?_eq_some found)
    obtain ⟨bound, -⟩ := List.getElem?_eq_some_iff.mp listed
    have group : g.correct[i]? = some g.correct[i] := List.getElem?_eq_getElem (by omega)
    rw [group] at wrong
    exact ⟨_, i, group, wrong⟩

end Plan

section Visits

variable {r : ImportOrder} {file : SourceFile} {p : Plan} {s : State} {id : NodeId}

theorem checkOrder_message {i : Nat} {entry : ImportEntry} {f : Finding}
    (member : f ∈ (checkOrder r file p s i entry).1) : f.IsKnown ∧ f.messageId ≠ "wrongGroup" := by
  simp only [checkOrder] at member
  split at member
  · simp at member
  · split at member
    · simp at member
    · obtain rfl := List.mem_singleton.mp member
      simp only [Finding.IsKnown, report, orderMessage]
      split
      · exact ⟨rfl, by simp⟩
      · split
        · exact ⟨rfl, by simp⟩
        · exact ⟨rfl, by simp⟩

theorem checkGroup_message {offered : Bool} {i : Nat} {entry : ImportEntry} {f : Finding}
    (member : f ∈ (checkGroup r file p offered i entry).1) :
    f.IsKnown ∧ ∃ g, p.grouping = some g ∧ (g.correct[i]?).getD 0 ≠ p.runOf i := by
  simp only [checkGroup] at member
  split at member
  · simp at member
  · rename_i g grouped
    split at member
    · simp at member
    · rename_i wrong
      obtain rfl := List.mem_singleton.mp member
      exact ⟨rfl, g, grouped, wrong⟩

theorem visit_message (planned : s.plan = .ok p) {f : Finding}
    (member : f ∈ (visit r file s id).findings) :
    f.IsKnown ∧ (f.messageId = "wrongGroup" → p.Misplaces id) := by
  simp only [visit, planned] at member
  split at member
  · simp [Step.quiet] at member
  · rename_i entry i found
    rcases List.mem_append.mp member with group | order
    · obtain ⟨known, g, grouped, wrong⟩ := checkGroup_message group
      exact ⟨known, fun _ => ⟨g, entry, i, grouped, found, wrong⟩⟩
    · obtain ⟨known, other⟩ := checkOrder_message order
      exact ⟨known, fun same => absurd same other⟩

variable (r file id)

theorem visit_misplaced (planned : s.plan = .ok p) (first : s.regroupOffered = false)
    (misplaced : p.Misplaces id) :
    ∃ f ∈ (visit r file s id).findings, f.lint = .orderedImportsByPath ∧
      f.messageId = "wrongGroup" ∧ f.suggestion.map (·.edit) = p.regroupEdit? r file := by
  obtain ⟨g, entry, i, grouped, found, wrong⟩ := misplaced
  simp only [visit, planned, found, checkGroup, grouped, if_neg wrong, first]
  refine ⟨_, List.mem_append_left _ (List.mem_singleton.mpr rfl), rfl, rfl, ?_⟩
  cases edit : p.regroupEdit? r file <;> simp [report]

theorem visit_next (planned : s.plan = .ok p) :
    ∃ s', (visit r file s id).outcome = .ok s' ∧ s'.plan = .ok p ∧
      (¬ p.Misplaces id → s'.regroupOffered = s.regroupOffered) := by
  simp only [visit, planned]
  split
  · exact ⟨s, rfl, planned, fun _ => rfl⟩
  · rename_i entry i found
    refine ⟨_, rfl, rfl, ?_⟩
    intro placed
    simp only [checkGroup]
    split
    · rfl
    · rename_i g grouped
      split
      · rfl
      · rename_i wrong
        exact absurd ⟨g, entry, i, grouped, found, wrong⟩ placed

theorem meet_next (settings : Settings) (planned : s.plan = .ok p) :
    ∃ s', (Running.meet settings file ⟨rule r, s⟩ id).2 = .ok ⟨rule r, s'⟩ ∧ s'.plan = .ok p ∧
      (¬ p.Misplaces id → s'.regroupOffered = s.regroupOffered) := by
  by_cases wanted : Running.wants file ⟨rule r, s⟩ id = true
  · obtain ⟨s', next, keeps⟩ := visit_next r file id planned
    refine ⟨s', ?_, keeps⟩
    rw [Running.meet_eq wanted (fun f member => (visit_message planned member).1) next]
  · exact ⟨s, by rw [Running.meet_unwanted wanted], planned, fun _ => rfl⟩

variable {r file id}

theorem survives {settings : Settings} {nodes : List NodeId} (planned : s.plan = .ok p) :
    Running.Survives settings file ⟨rule r, s⟩ nodes := by
  induction nodes generalizing s with
  | nil => trivial
  | cons id nodes ih =>
    obtain ⟨s', met, keeps, -⟩ := meet_next r file id settings planned
    rw [Running.Survives, Running.after, met]
    exact ⟨rfl, ih keeps⟩

theorem gathered_misplaced {settings : Settings} {nodes : List NodeId} (planned : s.plan = .ok p)
    (first : s.regroupOffered = false)
    (level : settings.levelOf Lint.orderedImportsByPath.name ≠ .allow)
    (wanted : ∀ s id, p.Misplaces id → Running.wants file ⟨rule r, s⟩ id = true)
    (visited : id ∈ nodes) (misplaced : p.Misplaces id) :
    ∃ d ∈ Running.gathered settings file [⟨rule r, s⟩] nodes,
      d.messageId = "wrongGroup" ∧ d.suggestion.map (·.edit) = p.regroupEdit? r file := by
  induction nodes generalizing s with
  | nil => cases visited
  | cons x nodes ih =>
    rw [Running.gathered, List.flatMap_singleton, List.map_singleton]
    by_cases here : p.Misplaces x
    · obtain ⟨s', next, -⟩ := visit_next r file x planned
      have known : ∀ f ∈ (visit r file s x).findings, f.IsKnown :=
        fun f member => (visit_message planned member).1
      obtain ⟨f, found, lint, message, edit⟩ := visit_misplaced r file x planned first here
      obtain ⟨d, shown, made⟩ := (diagnoseAll_known known).2 f found (lint ▸ level)
      rw [Running.meet_eq (wanted s x here) known next]
      refine ⟨d, List.mem_append_left _ shown, ?_, ?_⟩
      · rw [(diagnose_some made).messageId, message]
      · rw [(diagnose_some made).suggestion, edit]
    · obtain ⟨s', met, keeps, offered⟩ := meet_next r file x settings planned
      have later : id ∈ nodes := by
        rcases List.mem_cons.mp visited with rfl | later
        · exact absurd misplaced here
        · exact later
      rw [Running.after, met]
      obtain ⟨d, found, reported⟩ := ih keeps ((offered here).trans first) later
      exact ⟨d, List.mem_append_right _ found, reported⟩

end Visits

section Runs

variable {r : ImportOrder} {file : SourceFile} {p : Plan} (wellFormed : file.tree.WellFormed)
  (planned : planOf r file = .ok p)
include planned

theorem reports_misplaced :
    (rule r).Reports file fun f => f.messageId = "wrongGroup" → ∃ id, p.Misplaces id := by
  refine ⟨fun s => s.plan = .ok p, planned, ?_, ?_⟩
  · intro s id known f member wrong
    exact ⟨id, (visit_message known member).2 wrong⟩
  · intro s id known s' next
    exact (visit_plan next).trans known

include wellFormed

omit planned in
theorem declaration_visited {id : NodeId} (program : file.tree.tag file.tree.root = .program)
    (child : id ∈ file.tree.children file.tree.root)
    (tag : file.tree.tag id = .importDeclaration) (s : State) :
    id ∈ file.tree.walk ∧ Running.wants file ⟨rule r, s⟩ id = true := by
  have parent := (Tree.parent?_iff wellFormed).mpr child
  constructor
  · exact (Tree.children_sublist wellFormed file.tree.root).subset child
  · simp [Running.wants, rule, Selector.accepts, Tree.parentTag?, tag, parent, program]

theorem import_visited {entry : ImportEntry} (member : entry ∈ p.imports) (s : State) :
    entry.node ∈ file.tree.walk ∧ Running.wants file ⟨rule r, s⟩ entry.node = true := by
  obtain ⟨statements, program, -⟩ := planOf_ok planned
  obtain ⟨child, tag, -⟩ := (planOf_covers planned).declared entry member
  exact declaration_visited wellFormed program child tag s

theorem wrongGroup_reported {g : Grouping} (grouped : p.grouping = some g) {settings : Settings}
    (level : settings.levelOf Lint.orderedImportsByPath.name ≠ .allow) :
    ∃ ds, runRules [rule r] settings file = (ds, none) ∧
      ((∃ d ∈ ds, d.messageId = "wrongGroup") ↔ p.misplaced = true) ∧
      (p.misplaced = true → ∃ d ∈ ds, d.messageId = "wrongGroup" ∧
        d.suggestion.map (·.edit) = p.regroupEdit? r file) := by
  obtain ⟨statements, -, -, -, -, -, made⟩ := planOf_ok planned
  rw [grouped] at made
  have once := (Tree.children_nodup wellFormed file.tree.root).sublist (planOf_nodes planned)
  have run : runRules [rule r] settings file = (Diagnostic.sortByStart
      (Running.gathered settings file [⟨rule r, ⟨planOf r file, none, false, []⟩⟩] file.tree.walk),
        none) :=
    runRules_gathers fun x member => by
      obtain rfl := List.mem_singleton.mp member
      exact survives planned
  have misplaced := Plan.misplaced_iff_exists once grouped (groupingOf_ok made).1
  have offered : p.misplaced = true → ∃ d ∈ (runRules [rule r] settings file).1,
      d.messageId = "wrongGroup" ∧ d.suggestion.map (·.edit) = p.regroupEdit? r file := by
    intro wrong
    obtain ⟨id, wrong⟩ := misplaced.mp wrong
    have wanted : ∀ s id, p.Misplaces id →
        id ∈ file.tree.walk ∧ Running.wants file ⟨rule r, s⟩ id = true := by
      intro s id wrong
      obtain ⟨entry, member, rfl⟩ := wrong.isImport
      exact import_visited wellFormed planned member s
    have visited := (wanted ⟨planOf r file, none, false, []⟩ id wrong).1
    obtain ⟨d, found, reported⟩ :=
      gathered_misplaced (s := ⟨planOf r file, none, false, []⟩) planned rfl level
        (fun s id wrong => (wanted s id wrong).2) visited wrong
    refine ⟨d, ?_, reported⟩
    rw [run]
    exact List.mem_mergeSort.mpr found
  refine ⟨_, Prod.ext rfl (by rw [run]), ⟨?_, ?_⟩, offered⟩
  · rintro ⟨d, member, wrong⟩
    obtain ⟨f, reports, diagnosed⟩ := runRules_diagnostics
      (by simpa using reports_misplaced planned) d member
    exact misplaced.mpr (reports ((diagnose_some diagnosed).messageId.symm.trans wrong))
  · intro wrong
    obtain ⟨d, member, message, -⟩ := offered wrong
    exact ⟨d, member, message⟩

end Runs

/-- Every import has a group, but a needed group of a pattern has an import only if one goes to it
past the groups before. When the imports are laid out by groups, a wrong group is reported if and
only if an empty group comes before one with imports, and then the regrouping edit is offered. -/
theorem laid_out_imports_reported_iff {o : ImportPathsOptions} {r : ImportOrder}
    (accepted : ImportOrder.ofOptions o = .ok r) (grouped : r.usesGroups = true) :
    (∀ imports, ∃ g, groupingOf r imports = .ok (some g) ∧
      ∀ n group, (r.neededGroups imports)[n]? = some group →
        (n ∈ g.correct ↔ group = .sideEffects ∨ group = .theRest ∨
          ∃ entry ∈ imports, r.GoesTo ((r.neededGroups imports).take n) group entry)) ∧
    ∀ (file : SourceFile) (p : Plan) (settings : Settings), file.tree.WellFormed →
      planOf r file = .ok p → settings.levelOf Lint.orderedImportsByPath.name ≠ .allow →
      ∃ g, p.grouping = some g ∧ (p.LaidOut g →
        (∀ i n, g.correct[i]? = some n → p.runOf i + g.emptyBefore n = n) ∧
        ∃ ds, runRules [rule r] settings file = (ds, none) ∧
          ((∃ d ∈ ds, d.messageId = "wrongGroup") ↔ ∃ n ∈ g.correct, ∃ m < n, m ∉ g.correct) ∧
          ((∃ d ∈ ds, d.messageId = "wrongGroup") → ∃ d ∈ ds, d.messageId = "wrongGroup" ∧
            d.suggestion.map (·.edit) = p.regroupEdit? r file)) := by
  have groups := ImportOrder.ofOptions_groups accepted grouped
  refine ⟨?_, ?_⟩
  · intro imports
    obtain ⟨g, made⟩ := exists_groupingOf groups grouped imports
    refine ⟨g, made, fun n group here => ?_⟩
    rw [mem_correct made]
    exact ImportOrder.exists_groupOf?_iff groups here
  · intro file p settings wellFormed planned level
    obtain ⟨statements, -, -, -, -, runs, made⟩ := planOf_ok planned
    obtain ⟨g, grouping⟩ := exists_groupingOf groups grouped p.imports
    have same : p.grouping = some g := Except.ok.inj (made.symm.trans grouping)
    have lengths := (groupingOf_ok grouping).1
    refine ⟨g, same, fun laidOut => ⟨?_, ?_⟩⟩
    · intro i n group
      exact laidOut.runOf_add_emptyBefore runs lengths group
    · obtain ⟨ds, run, reported, offered⟩ := wrongGroup_reported wellFormed planned same level
      refine ⟨ds, run, ?_, fun wrong => offered (reported.mp wrong)⟩
      rw [reported, laidOut.misplaced_iff runs lengths same]

def importsApart : SourceFile :=
  .ofParts "import 'abc';\n\nimport 'zzz';".toList
    { nodes := #[⟨.importDeclaration [] "abc".toList .value, some ⟨0, 13⟩⟩,
        ⟨.importDeclaration [] "zzz".toList .value, some ⟨15, 28⟩⟩,
        ⟨.program [0, 1], some ⟨0, 28⟩⟩]
      root := 2 }
    [⟨.keyword, ⟨0, 6⟩⟩, ⟨.string, ⟨7, 12⟩⟩, ⟨.punctuator, ⟨12, 13⟩⟩, ⟨.keyword, ⟨15, 21⟩⟩,
      ⟨.string, ⟨22, 27⟩⟩, ⟨.punctuator, ⟨27, 28⟩⟩] [] []

def planApart (labels : List Text) (correct : List Nat) : Plan :=
  { imports := [⟨0, ⟨0, 13⟩, "abc".toList, .value, true⟩, ⟨1, ⟨15, 28⟩, "zzz".toList, .value, true⟩]
    statements := []
    runs := [[0], [1]]
    grouping := some ⟨labels, correct⟩ }

/-- Of these groups the second one gets only what the first one leaves, which is nothing. -/
def overlapping : List Text := [['^', 'a'], ['^', 'a', 'b'], ImportGroup.theRestLabel]

/-- The second group is needed and stays empty, so the last import is reported where regrouping put
it, and the edit that is offered changes nothing. -/
theorem laid_out_imports_reported :
    ∃ r, ImportOrder.ofOptions { groups := overlapping } = .ok r ∧ r.usesGroups = true ∧
      planOf r importsApart = .ok (planApart overlapping [0, 2]) ∧
      (planApart overlapping [0, 2]).LaidOut ⟨overlapping, [0, 2]⟩ ∧
      (runRules [rule r] {} importsApart).1.map
        (fun d => (d.messageId, d.span, d.suggestion.map (·.edit))) =
          [("wrongGroup", ⟨15, 28⟩, some ⟨⟨0, 28⟩, importsApart.text⟩)] :=
  ⟨_, rfl, rfl, by cbv, by decide, by cbv⟩

def disjoint : List Text := [['^', 'a'], ImportGroup.theRestLabel]

theorem laid_out_imports_quiet :
    ∃ r, ImportOrder.ofOptions { groups := disjoint } = .ok r ∧
      (∀ imports, ∃ g, groupingOf r imports = .ok (some g) ∧
        ∀ n group, (r.neededGroups imports)[n]? = some group →
          (n ∈ g.correct ↔ group = .sideEffects ∨ group = .theRest ∨
            ∃ entry ∈ imports, r.GoesTo ((r.neededGroups imports).take n) group entry)) ∧
      ∃ ds, runRules [rule r] {} importsApart = (ds, none) ∧
        ¬ ∃ d ∈ ds, d.messageId = "wrongGroup" := by
  refine ⟨_, rfl, ?_⟩
  obtain ⟨groups, layouts⟩ := laid_out_imports_reported_iff (o := { groups := disjoint }) rfl rfl
  obtain ⟨g, grouped, layout⟩ :=
    layouts importsApart (planApart disjoint [0, 1]) {} (by decide) (by cbv) (by decide)
  cases grouped
  obtain ⟨-, ds, run, reported, -⟩ := layout (by decide)
  refine ⟨groups, ds, run, ?_⟩
  rw [reported]
  decide

end ScriptLint.ImportPaths
