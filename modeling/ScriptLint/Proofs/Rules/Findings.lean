import Mathlib
import ScriptLint.Linter

/-!
What the rules report.

Each rule reports under its own lint only. The edit of a finding comes from the one or two functions
of the rule that build edits, or replaces the identifier that the finding is about.
-/
namespace ScriptLint

/-- A rule of the linter, with options that it accepts. -/
inductive Rule.IsBuiltIn : Rule → Prop where
  | complexity {o : ComplexityOptions} {r : Rule} (made : Complexity.rule? o = .ok r) : IsBuiltIn r
  | destructuring (c : Collation) : IsBuiltIn (Destructuring.rule c)
  | importMembers (o : ImportMembersOptions) : IsBuiltIn (ImportMembers.rule o)
  | importPaths {o : ImportPathsOptions} {r : Rule} (made : ImportPaths.rule? o = .ok r) :
    IsBuiltIn r
  | camelCase {detail : Bool} {o : CamelCaseOptions} {r : Rule}
    (made : CamelCase.rule? detail o = .ok r) : IsBuiltIn r

def Rule.ReportsOwn (r : Rule) : Prop :=
  ∀ file s id, ∀ f ∈ (r.visit file s id).findings, f.lint = r.lint

namespace Complexity

theorem rule?_ok {o : ComplexityOptions} {r : Rule} (made : rule? o = .ok r) : r = rule o := by
  simp only [rule?] at made
  split at made
  · simp at made
  · exact (Except.ok.inj made).symm

theorem visit_finding {o : ComplexityOptions} {file : SourceFile} {s : State} {id : NodeId}
    {f : Finding} (member : f ∈ (visit o file s id).findings) :
    f.lint = .logicalExpressionComplexity ∧ f.suggestion = none := by
  simp only [visit] at member
  split at member
  · simp [Step.quiet] at member
  · split at member
    · simp [Step.fail] at member
    · rcases List.mem_append.mp member with tall | long
      · simp only [checkHeight] at tall
        split at tall
        · simp at tall
        · split at tall
          · rw [List.mem_singleton.mp tall]
            exact ⟨rfl, rfl⟩
          · simp at tall
      · simp only [checkTerms] at long
        split at long
        · simp at long
        · split at long
          · rw [List.mem_singleton.mp long]
            exact ⟨rfl, rfl⟩
          · simp at long

end Complexity

namespace Destructuring

theorem visit_finding {c : Collation} {file : SourceFile} {id : NodeId} {f : Finding}
    (member : f ∈ (visit c file id).findings) :
    f.lint = .orderedDestructuring ∧ ∃ entries, file.tree.kind id = .objectPattern entries ∧
      ∀ s, f.suggestion = some s → edit c file entries = .ok (some s.edit) := by
  simp only [visit] at member
  split at member
  · rename_i entries kind
    split at member
    · simp [Step.fail] at member
    · split at member
      · simp [Step.quiet] at member
      · split at member
        · simp [Step.fail] at member
        · rename_i pair pairs _ found made
          rcases List.mem_cons.mp member with rfl | later
          · refine ⟨rfl, entries, kind, fun s suggested => ?_⟩
            obtain ⟨e, rfl, rfl⟩ := Option.map_eq_some_iff.mp suggested
            exact made
          · obtain ⟨pair, -, rfl⟩ := List.mem_map.mp later
            refine ⟨rfl, entries, kind, fun s suggested => ?_⟩
            simp [finding] at suggested
  · simp [Step.quiet] at member

end Destructuring

namespace ImportMembers

variable {o : ImportMembersOptions} {file : SourceFile}

theorem report_ok {ms : List Member} {a b : Member} {f : Finding}
    (made : report o file ms a b = .ok f) :
    ∃ keys found, ms.mapM (sortKey file.tree) = .ok keys ∧ edit o file keys = .ok found ∧
      f.lint = .orderedImportMembers ∧ f.suggestion = found.map suggest := by
  simp only [report] at made
  split at made
  · simp at made
  · rename_i keys placed
    split at made
    · simp at made
    · rename_i found built
      split at made
      · simp at made
      · cases made
        exact ⟨keys, found, placed, built, rfl, rfl⟩

theorem visit_finding {id : NodeId} {f : Finding} (member : f ∈ (visit o file id).findings) :
    f.lint = .orderedImportMembers ∧ ∃ specifiers source kind keys,
      file.tree.kind id = .importDeclaration specifiers source kind ∧
      (members file.tree specifiers).mapM (sortKey file.tree) = .ok keys ∧
      ∀ s, f.suggestion = some s → edit o file keys = .ok (some s.edit) := by
  simp only [visit] at member
  split at member
  · rename_i specifiers source kind shape
    split at member
    · simp [Step.quiet] at member
    · split at member
      · simp [Step.fail] at member
      · rename_i found made
        obtain rfl : f = found := by simpa using member
        obtain ⟨keys, built, placed, sorted, lint, suggestion⟩ := report_ok made
        refine ⟨lint, specifiers, source, kind, keys, shape, placed, fun s suggested => ?_⟩
        rw [suggestion] at suggested
        obtain ⟨e, rfl, rfl⟩ := Option.map_eq_some_iff.mp suggested
        exact sorted
  · simp [Step.quiet] at member

end ImportMembers

namespace ImportPaths

variable {r : ImportOrder} {file : SourceFile} {p : Plan}

theorem rule?_ok {o : ImportPathsOptions} {built : Rule} (made : rule? o = .ok built) :
    ∃ r, ImportOrder.ofOptions o = .ok r ∧ built = rule r := by
  simp only [rule?] at made
  split at made
  · simp at made
  · rename_i r accepted
    exact ⟨r, accepted, (Except.ok.inj made).symm⟩

theorem checkGroup_finding {offered : Bool} {i : Nat} {entry : ImportEntry} {f : Finding}
    (member : f ∈ (checkGroup r file p offered i entry).1) :
    f.lint = .orderedImportsByPath ∧
      ∀ s, f.suggestion = some s → p.regroupEdit? r file = some s.edit := by
  simp only [checkGroup] at member
  split at member
  · simp at member
  · split at member
    · simp at member
    · obtain rfl := List.mem_singleton.mp member
      refine ⟨rfl, fun s suggested => ?_⟩
      obtain ⟨e, found, rfl⟩ := Option.map_eq_some_iff.mp suggested
      exact (Option.ite_none_left_eq_some.mp found).2

theorem checkOrder_finding {s : State} {i : Nat} {entry : ImportEntry} {f : Finding}
    (member : f ∈ (checkOrder r file p s i entry).1) :
    f.lint = .orderedImportsByPath ∧ ∀ s, f.suggestion = some s →
      ∃ members, (members ∈ p.runs ∨ members = [] ∨ members = List.range p.imports.length) ∧
        p.orderEdit? r file members = some s.edit := by
  simp only [checkOrder] at member
  split at member
  · simp at member
  · split at member
    · simp at member
    · obtain rfl := List.mem_singleton.mp member
      refine ⟨rfl, fun s suggested => ?_⟩
      obtain ⟨e, found, rfl⟩ := Option.map_eq_some_iff.mp suggested
      refine ⟨_, ?_, (Option.ite_none_left_eq_some.mp found).2⟩
      split
      · rename_i n _
        cases run : p.runs[n]? with
        | none => exact Or.inr (Or.inl rfl)
        | some members => exact Or.inl (List.mem_of_getElem? run)
      · exact Or.inr (Or.inr rfl)

theorem visit_finding {s : State} {id : NodeId} {f : Finding}
    (member : f ∈ (visit r file s id).findings) :
    f.lint = .orderedImportsByPath ∧ ∃ p, s.plan = .ok p ∧ ∀ s, f.suggestion = some s →
      p.regroupEdit? r file = some s.edit ∨
        ∃ members, (members ∈ p.runs ∨ members = [] ∨ members = List.range p.imports.length) ∧
          p.orderEdit? r file members = some s.edit := by
  simp only [visit] at member
  split at member
  · simp [Step.fail] at member
  · rename_i p made
    split at member
    · simp [Step.quiet] at member
    · rcases List.mem_append.mp member with group | order
      · obtain ⟨lint, edit⟩ := checkGroup_finding group
        exact ⟨lint, p, made, fun s suggested => Or.inl (edit s suggested)⟩
      · obtain ⟨lint, edit⟩ := checkOrder_finding order
        exact ⟨lint, p, made, fun s suggested => Or.inr (edit s suggested)⟩

theorem visit_plan {s s' : State} {id : NodeId} (next : (visit r file s id).outcome = .ok s') :
    s'.plan = s.plan := by
  simp only [visit] at next
  split at next
  · simp [Step.fail] at next
  · split at next
    · cases next
      rfl
    · cases next
      rfl

end ImportPaths

namespace CamelCase

theorem rule?_ok {detail : Bool} {o : CamelCaseOptions} {r : Rule}
    (made : rule? detail o = .ok r) : r = rule detail o := by
  simp only [rule?] at made
  split at made
  · simp at made
  · simp at made
  · exact (Except.ok.inj made).symm

theorem reportNew_finding {detail : Bool} {t : Tree} {reported : List Nat}
    {occs : List Occurrence} {f : Finding}
    (member : f ∈ (reportNew detail t reported occs).findings) :
    ∃ occ ∈ occs, ∃ span, t.place occ.identifier = .ok span ∧ f = finding detail t span occ := by
  fun_induction reportNew detail t reported occs with
  | case1 reported => simp [Step.quiet] at member
  | case2 reported occ occs e missing => simp [Step.fail] at member
  | case3 reported occ occs span placed known ih =>
    obtain ⟨later, listed, found⟩ := ih member
    exact ⟨later, List.mem_cons_of_mem _ listed, found⟩
  | case4 reported occ occs span placed fresh rest ih =>
    rcases List.mem_cons.mp member with rfl | later
    · exact ⟨occ, List.mem_cons_self, span, placed, rfl⟩
    · obtain ⟨other, listed, found⟩ := ih later
      exact ⟨other, List.mem_cons_of_mem _ listed, found⟩

end CamelCase

theorem Rule.IsBuiltIn.reportsOwn {r : Rule} (builtIn : r.IsBuiltIn) : r.ReportsOwn := by
  intro file s id f member
  cases builtIn with
  | complexity made =>
    obtain rfl := Complexity.rule?_ok made
    exact (Complexity.visit_finding member).1
  | destructuring c => exact (Destructuring.visit_finding member).1
  | importMembers o => exact (ImportMembers.visit_finding member).1
  | importPaths made =>
    obtain ⟨r, -, rfl⟩ := ImportPaths.rule?_ok made
    exact (ImportPaths.visit_finding member).1
  | camelCase made =>
    obtain rfl := CamelCase.rule?_ok made
    obtain ⟨occ, -, span, -, rfl⟩ := CamelCase.reportNew_finding member
    rfl

theorem Rule.IsBuiltIn.alone {r : Rule} (builtIn : r.IsBuiltIn) : ∀ q ∈ [r], q.IsBuiltIn := by
  intro q listed
  rw [List.mem_singleton.mp listed]
  exact builtIn

end ScriptLint
