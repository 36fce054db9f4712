import ScriptLint.Proofs.NaturalOrder
import ScriptLint.Proofs.Rules.OrderReports

/-!
What a report on the order of imports names.

Two imports are compared by side effects, then by path, then by kind. The message of a report is
chosen by other tests, so it does not always name the comparison that decided.
-/
namespace ScriptLint.ImportPaths

section Criteria

variable (r : ImportOrder) (a b : ImportEntry)

def SideEffectsDecide : Prop := r.sideEffectsFirst = true ∧ a.sideEffect ≠ b.sideEffect

instance : Decidable (SideEffectsDecide r a b) := inferInstanceAs (Decidable (_ ∧ _))

def criterionMessage : String :=
  if SideEffectsDecide r a b then "sortSideEffectsFirst"
  else if r.collation.compare a.path b.path = .eq then "sortTypeImports"
  else "sortImportsByPath"

/-- Side effects decide between two imports of one path that also differ in kind. -/
def HidesSideEffects : Prop := SideEffectsDecide r a b ∧ a.path = b.path ∧ a.kind ≠ b.kind

/-- The kinds decide between two imports whose paths differ in case only. -/
def HidesKinds : Prop :=
  ¬ SideEffectsDecide r a b ∧ r.collation.ignoreCase = true ∧ a.path ≠ b.path ∧
    a.path.lowercase = b.path.lowercase

variable {r a b}

theorem compare_of_undecided (undecided : ¬ SideEffectsDecide r a b) :
    r.compare a b =
      (r.collation.compare a.path b.path).then (r.compareKinds a.kind b.kind) := by
  have skipped : ¬ (r.sideEffectsFirst && a.sideEffect != b.sideEffect) = true := by
    simpa [SideEffectsDecide] using undecided
  rw [ImportOrder.compare, if_neg skipped]

theorem kinds_differ (after : r.isAfter a b = true) (undecided : ¬ SideEffectsDecide r a b)
    (equal : r.collation.compare a.path b.path = .eq) : a.kind ≠ b.kind := by
  intro same
  rw [ImportOrder.isAfter, compare_of_undecided undecided, equal, ImportOrder.compareKinds,
    if_pos same] at after
  cases after

theorem orderMessage_eq (file : SourceFile) : (orderMessage r file a b).1 =
    if a.path = b.path ∧ a.kind ≠ b.kind then "sortTypeImports"
    else if SideEffectsDecide r a b then "sortSideEffectsFirst"
    else "sortImportsByPath" := by
  unfold orderMessage
  have decides : (r.sideEffectsFirst && a.sideEffect != b.sideEffect) = true ↔
      SideEffectsDecide r a b := by simp [SideEffectsDecide]
  simp only [decides]
  split
  · rfl
  · split
    · rfl
    · rfl

theorem hidesKinds_iff : HidesKinds r a b ↔ ¬ SideEffectsDecide r a b ∧ a.path ≠ b.path ∧
    r.collation.compare a.path b.path = .eq := by
  unfold HidesKinds
  rw [Collation.compare_eq_eq_iff]
  cases r.collation.ignoreCase with
  | true => simp
  | false => simp +contextual

theorem orderMessage_criterion_iff (file : SourceFile) (after : r.isAfter a b = true) :
    (orderMessage r file a b).1 = criterionMessage r a b ↔
      ¬ HidesSideEffects r a b ∧ ¬ HidesKinds r a b := by
  rw [orderMessage_eq, hidesKinds_iff]
  unfold criterionMessage HidesSideEffects
  by_cases decides : SideEffectsDecide r a b
  · by_cases hidden : a.path = b.path ∧ a.kind ≠ b.kind
    · simp [decides, hidden]
    · simp [decides, hidden]
  · by_cases path : a.path = b.path
    · -- One path compares equal to itself, so the kinds decided and the message says so.
      have equal : r.collation.compare a.path b.path = .eq := by
        rw [Collation.compare_eq_eq_iff, path]
        simp
      have kinds := kinds_differ after decides equal
      rw [if_pos ⟨path, kinds⟩, if_neg decides, if_pos equal]
      simp [decides, path]
    · by_cases equal : r.collation.compare a.path b.path = .eq
      · simp [decides, path, equal]
      · simp [decides, path, equal]

end Criteria

/-- A report on the order of two imports names the criterion that decided in all cases but two: it
names the kinds when side effects decided between imports of one path that differ in kind, and the
paths when the kinds decided between paths that differ in case only. -/
theorem order_message_names_criterion_iff {r : ImportOrder} {file : SourceFile} {p : Plan}
    {s : State} {i : Nat} {entry : ImportEntry} {f : Finding}
    (member : f ∈ (checkOrder r file p s i entry).1) :
    ∃ j previous, s.previous = some j ∧ p.imports[j]? = some previous ∧
      r.compare previous entry = .gt ∧
      (f.messageId = criterionMessage r previous entry ↔
        ¬ HidesSideEffects r previous entry ∧ ¬ HidesKinds r previous entry) ∧
      (HidesSideEffects r previous entry → f.messageId = "sortTypeImports") ∧
      (HidesKinds r previous entry → f.messageId = "sortImportsByPath" ∧
        r.compareKinds previous.kind entry.kind = .gt) := by
  obtain ⟨j, previous, before, found, after, message⟩ := checkOrder_says member
  have greater : r.compare previous entry = .gt := by
    simpa [ImportOrder.isAfter] using after
  rw [message]
  refine ⟨j, previous, before, found, greater, orderMessage_criterion_iff file after, ?_, ?_⟩
  · intro hidden
    rw [orderMessage_eq, if_pos hidden.2]
  · intro hidden
    obtain ⟨undecided, other, equal⟩ := hidesKinds_iff.mp hidden
    rw [orderMessage_eq, if_neg (fun same => other same.1), if_neg undecided]
    refine ⟨rfl, ?_⟩
    rwa [compare_of_undecided undecided, equal] at greater

def foldedOrder : ImportOrder :=
  { plainOrder with
    collation := { ignoreCase := true }
    sideEffectsFirst := true
    typeImportsFirst := some true }

/-- Two runs. Side effects decide in the first one and kinds in the second one. -/
def hiddenCriteria : SourceFile :=
  .ofParts ("import type { T } from 'x';\nimport 'x';\n\n".toList ++
      "import { A } from 'X';\nimport type { B } from 'x';".toList)
    { nodes := #[⟨.identifier ['T'], some ⟨14, 15⟩⟩, ⟨.importSpecifier 0 0, some ⟨14, 15⟩⟩,
        ⟨.importDeclaration [1] ['x'] .type, some ⟨0, 27⟩⟩,
        ⟨.importDeclaration [] ['x'] .value, some ⟨28, 39⟩⟩,
        ⟨.identifier ['A'], some ⟨50, 51⟩⟩, ⟨.importSpecifier 4 4, some ⟨50, 51⟩⟩,
        ⟨.importDeclaration [5] ['X'] .value, some ⟨41, 63⟩⟩,
        ⟨.identifier ['B'], some ⟨78, 79⟩⟩, ⟨.importSpecifier 7 7, some ⟨78, 79⟩⟩,
        ⟨.importDeclaration [8] ['x'] .type, some ⟨64, 91⟩⟩,
        ⟨.program [2, 3, 6, 9], some ⟨0, 91⟩⟩]
      root := 10 } [] [] []

def hiddenPlan : Plan :=
  { imports := [⟨2, ⟨0, 27⟩, ['x'], .type, false⟩, ⟨3, ⟨28, 39⟩, ['x'], .value, true⟩,
      ⟨6, ⟨41, 63⟩, ['X'], .value, false⟩, ⟨9, ⟨64, 91⟩, ['x'], .type, false⟩]
    statements := []
    runs := [[0, 1], [2, 3]]
    grouping := none }

theorem order_message_names_criterion_iff_folded :
    let state : State := { plan := .ok hiddenPlan, previous := some 2, sortedRuns := [some 0] }
    let entry : ImportEntry := ⟨9, ⟨64, 91⟩, ['x'], .type, false⟩
    ∃ f ∈ (checkOrder foldedOrder hiddenCriteria hiddenPlan state 3 entry).1,
      ∃ previous, hiddenPlan.imports[2]? = some previous ∧ HidesKinds foldedOrder previous entry ∧
        f.messageId = "sortImportsByPath" ∧
        f.messageId ≠ criterionMessage foldedOrder previous entry ∧
        foldedOrder.compareKinds previous.kind entry.kind = .gt := by
  intro state entry
  have reported :
      (checkOrder foldedOrder hiddenCriteria hiddenPlan state 3 entry).1.length = 1 := by cbv
  obtain ⟨f, only⟩ := List.length_eq_one_iff.mp reported
  have member : f ∈ (checkOrder foldedOrder hiddenCriteria hiddenPlan state 3 entry).1 := by
    rw [only]
    exact List.mem_singleton_self f
  obtain ⟨j, previous, before, found, -, names, -, kinds⟩ :=
    order_message_names_criterion_iff member
  cases before
  cases found
  have hidden : HidesKinds foldedOrder ⟨6, ⟨41, 63⟩, ['X'], .value, false⟩ entry :=
    ⟨by decide, rfl, by decide, by cbv⟩
  obtain ⟨message, greater⟩ := kinds hidden
  exact ⟨f, member, _, rfl, hidden, message, fun same => (names.mp same).2 hidden, greater⟩

theorem deciding_criteria_hidden :
    planOf foldedOrder hiddenCriteria = .ok hiddenPlan ∧
      (runRules [rule foldedOrder] {} hiddenCriteria).1.map (fun d => (d.span, d.messageId)) =
        [(⟨28, 39⟩, "sortTypeImports"), (⟨64, 91⟩, "sortImportsByPath")] ∧
      ((hiddenPlan.imports.zip hiddenPlan.imports.tail).filter fun x =>
          foldedOrder.isAfter x.1 x.2).map
          (fun x => (x.2.span, criterionMessage foldedOrder x.1 x.2)) =
        [(⟨28, 39⟩, "sortSideEffectsFirst"), (⟨64, 91⟩, "sortTypeImports")] := by
  refine ⟨by cbv, by cbv, by cbv⟩

end ScriptLint.ImportPaths
