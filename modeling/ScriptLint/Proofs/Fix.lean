import ScriptLint.Fix
import ScriptLint.Proofs.Edits.Substitution
import ScriptLint.Proofs.Lists

/-!
Which suggestions are applied.

Suggestions are taken in order, and one is left out only when it may not be applied or overlaps one
that was taken before. So those taken fit the text and do not overlap, and applying them together
cannot fail: the only failure is an edit that does not fit the text.
-/
namespace ScriptLint.Fix

def eligibleEdits (risky : Bool) (suggestions : List Suggestion) : List Edit :=
  (suggestions.filter (·.applicability.isEligible risky)).map (·.edit)

def applied (marked : List (Suggestion × Bool)) : List Edit :=
  (marked.filter (·.2)).map (·.1.edit)

def leftOut (marked : List (Suggestion × Bool)) : Nat := marked.countP (!·.2)

/-- Suggestions are marked as far as they may be applied and do not overlap, the earlier ones
first. -/
structure Greedy (risky : Bool) (marked : List (Suggestion × Bool)) : Prop where
  eligible : ∀ s, (s, true) ∈ marked → s.applicability.isEligible risky = true
  apart : (applied marked).Pairwise fun a b => a.overlaps b = false
  maximal : ∀ front s back, marked = front ++ (s, false) :: back →
    s.applicability.isEligible risky = true → ∃ a ∈ applied front, a.overlaps s.edit = true

/-- An eligible edit does not fit the text, and this is the error of the first one. -/
def Misfits (text : Text) (risky : Bool) (suggestions : List Suggestion) (cause : EditError) :
    Prop :=
  ∃ front s back, suggestions = front ++ s :: back ∧ s.applicability.isEligible risky = true ∧
    s.edit.check text = .error cause ∧
    ∀ earlier ∈ front, earlier.applicability.isEligible risky = true →
      earlier.edit.check text = .ok ()

section Marks

variable {risky : Bool} {marked : List (Suggestion × Bool)} {s : Suggestion}

theorem applied_skip : applied (marked ++ [(s, false)]) = applied marked := by
  simp [applied]

theorem applied_take : applied (marked ++ [(s, true)]) = applied marked ++ [s.edit] := by
  simp [applied]

theorem leftOut_skip : leftOut (marked ++ [(s, false)]) = leftOut marked + 1 := by
  simp [leftOut]

theorem leftOut_take : leftOut (marked ++ [(s, true)]) = leftOut marked := by
  simp [leftOut]

theorem length_applied_add_leftOut (marked : List (Suggestion × Bool)) :
    (applied marked).length + leftOut marked = marked.length := by
  have total := @List.length_eq_countP_add_countP _ (·.2) marked
  rw [applied, List.length_map, ← List.countP_eq_length_filter, leftOut]
  simpa using total.symm

theorem Greedy.skip (greedy : Greedy risky marked)
    (reason : s.applicability.isEligible risky = true →
      ∃ a ∈ applied marked, a.overlaps s.edit = true) : Greedy risky (marked ++ [(s, false)]) where
  eligible x member := greedy.eligible x (by simpa using member)
  apart := by
    rw [applied_skip]
    exact greedy.apart
  maximal front x back split eligible := by
    rcases split_concat split with ⟨-, rfl, same⟩ | ⟨more, -, earlier⟩
    · cases same
      exact reason eligible
    · exact greedy.maximal front x more earlier eligible

theorem Greedy.take (greedy : Greedy risky marked)
    (eligible : s.applicability.isEligible risky = true)
    (free : ∀ a ∈ applied marked, a.overlaps s.edit = false) :
    Greedy risky (marked ++ [(s, true)]) where
  eligible x member := by
    rcases List.mem_append.mp member with old | new
    · exact greedy.eligible x old
    · cases List.mem_singleton.mp new
      exact eligible
  apart := by
    rw [applied_take, List.pairwise_append]
    refine ⟨greedy.apart, List.pairwise_singleton _ _, ?_⟩
    intro a old b new
    rw [List.mem_singleton.mp new]
    exact free a old
  maximal front x back split allowed := by
    rcases split_concat split with ⟨-, -, same⟩ | ⟨more, -, earlier⟩
    · cases same
    · exact greedy.maximal front x more earlier allowed

end Marks

section Selection

variable {text : Text} {risky : Bool} {suggestions : List Suggestion}

theorem select_eq_error_iff {taken : List Edit} {skipped : Nat} {cause : EditError} :
    select text risky taken skipped suggestions = .error cause ↔
      Edit.checkEach text (eligibleEdits risky suggestions) = .error cause := by
  induction suggestions generalizing taken skipped with
  | nil => simp [select, eligibleEdits, Edit.checkEach]
  | cons s suggestions ih =>
    rw [select]
    split
    · rename_i refused
      rw [ih, eligibleEdits, eligibleEdits, List.filter_cons_of_neg (by simpa using refused)]
    · rename_i allowed
      rw [eligibleEdits, List.filter_cons_of_pos (by simpa using allowed), List.map_cons,
        Edit.checkEach]
      cases s.edit.check text with
      | error first => simp
      | ok =>
        dsimp only
        split
        · exact ih
        · exact ih

theorem select_marks {before : List (Suggestion × Bool)} (greedy : Greedy risky before)
    {chosen : List Edit × Nat}
    (made : select text risky (applied before) (leftOut before) suggestions = .ok chosen) :
    ∃ marked, marked.map Prod.fst = before.map Prod.fst ++ suggestions ∧ Greedy risky marked ∧
      chosen = (applied marked, leftOut marked) := by
  induction suggestions generalizing before with
  | nil =>
    cases made
    exact ⟨before, by simp, greedy, rfl⟩
  | cons s suggestions ih =>
    have skipped (skip : Greedy risky (before ++ [(s, false)]))
        (rest : select text risky (applied before) (leftOut before + 1) suggestions = .ok chosen) :
        ∃ marked, marked.map Prod.fst = before.map Prod.fst ++ s :: suggestions ∧
          Greedy risky marked ∧ chosen = (applied marked, leftOut marked) := by
      rw [← @applied_skip before s, ← @leftOut_skip before s] at rest
      simpa using ih skip rest
    rw [select] at made
    split at made
    · rename_i refused
      apply skipped _ made
      apply greedy.skip
      intro allowed
      simp [allowed] at refused
    · rename_i allowed
      cases checked : s.edit.check text with
      | error cause => simp [checked] at made
      | ok =>
        simp only [checked] at made
        split at made
        · rename_i overlap
          apply skipped _ made
          apply greedy.skip
          intro _
          exact List.any_eq_true.mp overlap
        · rename_i free
          have take := greedy.take (by simpa using allowed) (by simpa using free)
          rw [← @applied_take before s, ← @leftOut_take before s] at made
          simpa using ih take made

theorem select_eligible {taken : List Edit} (skipped skipped' : Nat) :
    (select text risky taken skipped suggestions).map Prod.fst =
      (select text risky taken skipped'
        (suggestions.filter (·.applicability.isEligible risky))).map Prod.fst := by
  induction suggestions generalizing taken skipped skipped' with
  | nil => rfl
  | cons s suggestions ih =>
    cases allowed : s.applicability.isEligible risky with
    | false =>
      rw [List.filter_cons_of_neg (by simp [allowed]), select, if_pos (by simp [allowed])]
      exact ih (skipped + 1) skipped'
    | true =>
      rw [List.filter_cons_of_pos (by simpa using allowed)]
      simp only [select, allowed, Bool.not_true, Bool.false_eq_true, if_false]
      cases s.edit.check text with
      | error cause => rfl
      | ok =>
        cases taken.any (·.overlaps s.edit) with
        | true => exact ih (skipped + 1) (skipped' + 1)
        | false => exact ih skipped skipped'

theorem select_fits {taken : List Edit} {skipped : Nat} {chosen : List Edit × Nat}
    (made : select text risky taken skipped suggestions = .ok chosen) :
    ∀ s ∈ suggestions, s.applicability.isEligible risky = true → s.edit.span.Fits text := by
  have passed : Edit.checkEach text (eligibleEdits risky suggestions) = .ok () := by
    cases checked : Edit.checkEach text (eligibleEdits risky suggestions) with
    | ok => rfl
    | error cause =>
      rw [select_eq_error_iff.mpr checked] at made
      cases made
  intro s member allowed
  apply Edit.check_eq_ok_iff.mp
  apply Edit.checkEach_eq_ok_iff.mp passed
  exact List.mem_map_of_mem (List.mem_filter.mpr ⟨member, allowed⟩)

theorem select_applies {chosen : List Edit × Nat}
    (made : select text risky [] 0 suggestions = .ok chosen) :
    ∃ marked fixed, marked.map Prod.fst = suggestions ∧ Greedy risky marked ∧
      chosen = (applied marked, leftOut marked) ∧ Edit.applyAll text chosen.1 = .ok fixed := by
  have start : Greedy risky [] := ⟨by simp, .nil, by simp⟩
  obtain ⟨marked, same, greedy, rfl⟩ := select_marks start made
  have fit : ∀ e ∈ applied marked, e.span.Fits text := by
    intro e member
    obtain ⟨⟨s, flag⟩, kept, rfl⟩ := List.mem_map.mp member
    obtain ⟨inside, flagged : flag = true⟩ := List.mem_filter.mp kept
    subst flagged
    have listed : s ∈ suggestions := by
      rw [List.map_nil, List.nil_append] at same
      rw [← same]
      exact List.mem_map_of_mem inside
    exact select_fits made s listed (greedy.eligible s inside)
  have checked := Edit.checkAll_eq_ok_iff.mpr ⟨fit, greedy.apart⟩
  exact ⟨marked, _, same, greedy, rfl, Edit.applyAll_eq_ok_iff.mpr ⟨checked, rfl⟩⟩

theorem apply_eq_error_iff {cause : EditError} :
    apply text risky suggestions = .error cause ↔
      Edit.checkEach text (eligibleEdits risky suggestions) = .error cause := by
  rw [← @select_eq_error_iff text risky suggestions [] 0, apply]
  cases made : select text risky [] 0 suggestions with
  | error first => simp
  | ok chosen =>
    obtain ⟨marked, fixed, -, -, -, applies⟩ := select_applies made
    simp [applies]

theorem apply_marks {result : FixResult} (made : apply text risky suggestions = .ok result) :
    ∃ marked, marked.map Prod.fst = suggestions ∧ Greedy risky marked ∧
      result.applied = (applied marked).length ∧ result.skipped = leftOut marked ∧
      Edit.applyAll text (applied marked) = .ok result.text := by
  rw [apply] at made
  cases selected : select text risky [] 0 suggestions with
  | error first => simp [selected] at made
  | ok chosen =>
    obtain ⟨marked, fixed, same, greedy, rfl, applies⟩ := select_applies selected
    simp only [selected, applies] at made
    cases made
    exact ⟨marked, same, greedy, rfl, rfl, applies⟩

theorem apply_ok (offered : ∀ s ∈ suggestions, s.edit.span.Fits text) (risky : Bool) :
    ∃ result, apply text risky suggestions = .ok result := by
  cases made : apply text risky suggestions with
  | ok result => exact ⟨result, rfl⟩
  | error cause =>
    have passed : Edit.checkEach text (eligibleEdits risky suggestions) = .ok () := by
      rw [Edit.checkEach_eq_ok_iff]
      intro e member
      obtain ⟨s, kept, rfl⟩ := List.mem_map.mp member
      exact Edit.check_eq_ok_iff.mpr (offered s (List.mem_filter.mp kept).1)
    rw [apply_eq_error_iff, passed] at made
    cases made

theorem apply_taken :
    (apply text risky suggestions).map (fun r => (r.text, r.applied)) =
      ((select text risky [] 0 suggestions).map Prod.fst).bind fun taken =>
        (Edit.applyAll text taken).map fun fixed => (fixed, taken.length) := by
  rw [apply]
  cases select text risky [] 0 suggestions with
  | error cause => rfl
  | ok chosen =>
    obtain ⟨taken, skipped⟩ := chosen
    simp only [Except.map, Except.bind]
    cases Edit.applyAll text taken with
    | error cause => rfl
    | ok fixed => rfl

theorem apply_eligible :
    (apply text risky (suggestions.filter (·.applicability.isEligible risky))).map
        (fun r => (r.text, r.applied)) =
      (apply text risky suggestions).map fun r => (r.text, r.applied) := by
  rw [apply_taken, apply_taken, ← select_eligible 0 0]

end Selection

theorem checkEach_eligible_iff {text : Text} {risky : Bool} {suggestions : List Suggestion}
    {cause : EditError} :
    Edit.checkEach text (eligibleEdits risky suggestions) = .error cause ↔
      Misfits text risky suggestions cause := by
  rw [Edit.checkEach_eq_error_iff]
  constructor
  · rintro ⟨front, e, back, split, passed, failed⟩
    obtain ⟨firsts, rest, parts, rfl, later⟩ := List.map_eq_append_iff.mp split
    obtain ⟨s, others, rfl, rfl, -⟩ := List.map_eq_cons_iff.mp later
    obtain ⟨before, behind, rfl, rfl, kept⟩ := List.filter_eq_append_iff.mp parts
    obtain ⟨refused, tail, rfl, none, allowed, -⟩ := List.filter_eq_cons_iff.mp kept
    refine ⟨before ++ refused, s, tail, by simp, allowed, failed, ?_⟩
    intro earlier member eligible
    rcases List.mem_append.mp member with inside | inside
    · apply passed
      exact List.mem_map_of_mem (List.mem_filter.mpr ⟨inside, eligible⟩)
    · exact absurd eligible (none earlier inside)
  · rintro ⟨front, s, back, rfl, allowed, failed, passed⟩
    refine ⟨eligibleEdits risky front, s.edit, eligibleEdits risky back, ?_, ?_, failed⟩
    · simp [eligibleEdits, allowed]
    · intro e member
      obtain ⟨earlier, kept, rfl⟩ := List.mem_map.mp member
      obtain ⟨inside, eligible⟩ := List.mem_filter.mp kept
      exact passed earlier inside eligible

theorem filterMap_eligible (risky : Bool) (ds : List Diagnostic) :
    (ds.filter fun d => d.suggestion.all (·.applicability.isEligible risky)).filterMap
        (·.suggestion) =
      (ds.filterMap (·.suggestion)).filter (·.applicability.isEligible risky) := by
  induction ds with
  | nil => rfl
  | cons d ds ih =>
    cases offer : d.suggestion with
    | none => simpa [offer] using ih
    | some s =>
      cases allowed : s.applicability.isEligible risky with
      | true => simpa [offer, allowed] using ih
      | false => simpa [offer, allowed] using ih

/-- A round takes as many suggestions as it can, the earlier ones first. It fails with the error of
the first eligible edit that does not fit the text, and never with an overlap. Otherwise each
suggestion is applied or left out, and an eligible one is left out only for one applied before it.
Suggestions that are not eligible make no difference to the text. -/
theorem fixes_greedily (text : Text) (risky : Bool) (ds : List Diagnostic) :
    let suggestions := ds.filterMap (·.suggestion)
    (∀ cause, apply text risky suggestions = .error cause ↔
      Misfits text risky suggestions cause) ∧
    (∀ offset, apply text risky suggestions ≠ .error (.overlapping offset)) ∧
    (∀ result, apply text risky suggestions = .ok result →
      result.applied + result.skipped = ds.countP (·.suggestion.isSome) ∧
      ∃ marked, marked.map Prod.fst = suggestions ∧ Greedy risky marked ∧
        result.applied = (applied marked).length ∧
        Edit.applyAll text (applied marked) = .ok result.text) ∧
    (apply text risky ((ds.filter fun d =>
        d.suggestion.all (·.applicability.isEligible risky)).filterMap (·.suggestion))).map
        (fun r => (r.text, r.applied)) =
      (apply text risky suggestions).map fun r => (r.text, r.applied) := by
  intro suggestions
  refine ⟨?_, ?_, ?_, ?_⟩
  · intro cause
    rw [apply_eq_error_iff]
    exact checkEach_eligible_iff
  · intro offset failed
    rw [apply_eq_error_iff, Edit.checkEach_eq_error_iff] at failed
    obtain ⟨front, e, back, -, -, failed⟩ := failed
    exact Edit.check_ne_overlapping text e offset failed
  · intro result made
    obtain ⟨marked, same, greedy, taken, rest, applies⟩ := apply_marks made
    refine ⟨?_, marked, same, greedy, taken, applies⟩
    have count := congrArg List.length same
    rw [List.length_map, List.length_filterMap_eq_countP] at count
    rw [taken, rest, length_applied_add_leftOut, count]
  · rw [filterMap_eligible]
    exact apply_eligible

def offering (suggestion : Option Suggestion) : Diagnostic :=
  ⟨.strictCamelCase, .warn, ⟨1, 1⟩, ⟨1, 1⟩, ⟨0, 0⟩, "", [], suggestion⟩

def threeOffers : List Diagnostic :=
  [offering (some ⟨[], ⟨⟨1, 3⟩, ['x']⟩, .machineApplicable⟩), offering none,
    offering (some ⟨[], ⟨⟨2, 4⟩, ['y']⟩, .machineApplicable⟩),
    offering (some ⟨[], ⟨⟨5, 6⟩, []⟩, .maybeIncorrect⟩)]

/-- One of three edits is applied. An edit that would be left out for an overlap has to fit all the
same. -/
theorem fixes_greedily_overlap :
    (∃ result, apply "abcdef".toList false (threeOffers.filterMap (·.suggestion)) = .ok result ∧
      result.text = "axdef".toList ∧
      result.applied + result.skipped = threeOffers.countP (·.suggestion.isSome)) ∧
    apply "abcdef".toList false
        ([offering (some ⟨[], ⟨⟨1, 3⟩, ['x']⟩, .machineApplicable⟩),
          offering (some ⟨[], ⟨⟨2, 9⟩, ['y']⟩, .machineApplicable⟩)].filterMap (·.suggestion)) =
      .error (.outOfBounds 2 9 6) := by
  constructor
  · have made : apply "abcdef".toList false (threeOffers.filterMap (·.suggestion)) =
        .ok ⟨"axdef".toList, 1, 2⟩ := by cbv
    have total := ((fixes_greedily "abcdef".toList false threeOffers).2.2.1 _ made).1
    exact ⟨_, made, rfl, total⟩
  · apply ((fixes_greedily "abcdef".toList false _).1 _).mpr
    refine ⟨[⟨[], ⟨⟨1, 3⟩, ['x']⟩, .machineApplicable⟩],
      ⟨[], ⟨⟨2, 9⟩, ['y']⟩, .machineApplicable⟩, [], rfl, rfl, rfl, ?_⟩
    intro earlier member _
    rw [List.mem_singleton.mp member]
    rfl

end ScriptLint.Fix
