import Mathlib
import ScriptLint.Fix

/-!
What rounds of fixes come to.

Rounds that apply something lead from text to text. They end with a text where nothing more is
applied, or with the last round that is allowed, or in a failure.
-/
namespace ScriptLint.Fix

section

variable (lint : Text → Except LintError (List Diagnostic)) (risky : Bool)

/-- So many rounds, of which each applies something, make one text of another. -/
inductive Reaches : Nat → Text → Text → Prop where
  | start (text : Text) : Reaches 0 text text
  | round {k : Nat} {text final : Text} {r : Round} (made : round lint risky text = .ok r)
      (applied : r.result.applied ≠ 0) (rest : Reaches k r.result.text final) :
      Reaches (k + 1) text final

/-- After so many rounds out of `n` the text stays as it is: the next round applies nothing, or
there is none. -/
structure Settles (n k : Nat) (text final : Text) : Prop where
  reached : Reaches lint risky k text final
  bound : k ≤ n
  idle : k < n → ∃ r, round lint risky final = .ok r ∧ r.result.applied = 0

/-- One of the first `n` rounds fails. -/
def Breaks (n : Nat) (text : Text) (cause : Failure) : Prop :=
  ∃ k final, k < n ∧ Reaches lint risky k text final ∧ round lint risky final = .error cause

/-- The first round applies something. -/
def Changes (text : Text) : Prop := ∃ r, round lint risky text = .ok r ∧ r.result.applied ≠ 0

end

variable {lint : Text → Except LintError (List Diagnostic)} {risky : Bool} {n k : Nat}
  {text final : Text}

theorem apply_idle {suggestions : List Suggestion} {result : FixResult}
    (made : apply text risky suggestions = .ok result) (idle : result.applied = 0) :
    result.text = text := by
  unfold apply at made
  split at made
  · cases made
  · rename_i taken skipped chosen
    split at made
    · cases made
    · rename_i fixed applied
      cases made
      rw [List.eq_nil_of_length_eq_zero idle] at applied
      exact (Except.ok.inj applied).symm

theorem round_idle {r : Round} (made : round lint risky text = .ok r)
    (idle : r.result.applied = 0) : r.result.text = text := by
  unfold round at made
  split at made
  · cases made
  · split at made
    · cases made
    · rename_i result applied
      cases made
      exact apply_idle applied idle

theorem round_of_lint {found : List Diagnostic} {result : FixResult}
    (linted : lint text = .ok found)
    (applied : apply text risky (found.filterMap (·.suggestion)) = .ok result) :
    round lint risky text = .ok ⟨found, result⟩ := by
  unfold round
  rw [linted]
  dsimp only
  rw [applied]

theorem finalText_cons (r : Round) (rs : List Round) :
    finalText text (r :: rs) = finalText r.result.text rs := by
  unfold finalText
  cases rs with
  | nil => rfl
  | cons next rs =>
    rw [List.getLast?_cons_cons, List.getLast?_eq_some_getLast (List.cons_ne_nil next rs)]
    rfl

def appliedIn (rs : List Round) : Nat := rs.foldl (· + ·.result.applied) 0

theorem le_foldl_applied (rs : List Round) (start : Nat) :
    start ≤ rs.foldl (· + ·.result.applied) start := by
  induction rs generalizing start with
  | nil => exact Nat.le_refl start
  | cons r rs ih => exact Nat.le_trans (Nat.le_add_right start r.result.applied) (ih _)

theorem rounds_settle (ended : (rounds lint risky n text).2 = none) :
    ∃ k, Settles lint risky n k text (finalText text (rounds lint risky n text).1) ∧
      (appliedIn (rounds lint risky n text).1 = 0 ↔ k = 0) := by
  induction n generalizing text with
  | zero => exact ⟨0, ⟨.start text, Nat.le_refl 0, nofun⟩, by simp [rounds, appliedIn]⟩
  | succ n ih =>
    rw [rounds] at ended ⊢
    cases made : round lint risky text with
    | error cause => simp [made] at ended
    | ok r =>
      simp only [made] at ended ⊢
      by_cases idle : r.result.applied = 0
      · simp only [if_pos idle] at ended ⊢
        refine ⟨0, ⟨?_, Nat.zero_le _, ?_⟩, by simp [appliedIn, idle]⟩
        · rw [finalText_cons, round_idle made idle]
          exact .start text
        · intro _
          rw [finalText_cons, round_idle made idle]
          exact ⟨r, made, idle⟩
      · simp only [if_neg idle] at ended ⊢
        obtain ⟨k, settled, -⟩ := ih ended
        refine ⟨k + 1, ⟨?_, Nat.succ_le_succ settled.bound, ?_⟩, ?_⟩
        · rw [finalText_cons]
          exact .round made idle settled.reached
        · intro more
          rw [finalText_cons]
          exact settled.idle (Nat.lt_of_succ_lt_succ more)
        · have counted :=
            le_foldl_applied (rounds lint risky n r.result.text).1 (0 + r.result.applied)
          simp only [appliedIn, List.foldl_cons]
          omega

theorem rounds_break {cause : Failure} (ended : (rounds lint risky n text).2 = some cause) :
    Breaks lint risky n text cause := by
  induction n generalizing text with
  | zero => simp [rounds] at ended
  | succ n ih =>
    rw [rounds] at ended
    cases made : round lint risky text with
    | error failure =>
      simp only [made, Option.some.injEq] at ended
      rw [ended] at made
      exact ⟨0, text, Nat.succ_pos n, .start text, made⟩
    | ok r =>
      simp only [made] at ended
      by_cases idle : r.result.applied = 0
      · simp [idle] at ended
      · simp only [if_neg idle] at ended
        obtain ⟨k, final, bound, reached, failed⟩ := ih ended
        exact ⟨k + 1, final, Nat.succ_lt_succ bound, .round made idle reached, failed⟩

theorem Settles.eq_of_zero (settled : Settles lint risky n 0 text final) : final = text := by
  cases settled.reached with
  | start => rfl

theorem Settles.changes (settled : Settles lint risky n k text final) (some : 0 < n) :
    Changes lint risky text ↔ k ≠ 0 := by
  obtain ⟨reached, bound, idle⟩ := settled
  cases reached with
  | start =>
    obtain ⟨r, made, nothing⟩ := idle some
    constructor
    · rintro ⟨r', made', applied⟩
      rw [made] at made'
      cases made'
      exact absurd nothing applied
    · exact fun more => absurd rfl more
  | round made applied rest =>
    constructor
    · exact fun _ => Nat.succ_ne_zero _
    · exact fun _ => ⟨_, made, applied⟩

end ScriptLint.Fix
