import ScriptLint.Naming.Casing

/-!
Verdicts on names.

What passes goes on to pass when the rules are relaxed or an exemption is granted. A spelling that
is offered differs from the name and passes under the same exemption.
-/
namespace ScriptLint

def OneCharWords.rank : OneCharWords → Nat
  | never => 0
  | last => 1
  | always => 2

namespace Casing

/-- The second rules allow whatever the first ones allow. -/
structure Relaxes (c c' : Casing) : Prop where
  ignored : c.ignored ⊆ c'.ignored
  oneCharWords : c.oneCharWords.rank ≤ c'.oneCharWords.rank
  ignoreSingleWords : c.ignoreSingleWords = true → c'.ignoreSingleWords = true

variable {c c' : Casing} {exempt exempt' : Bool} {name fixed : Text}

theorem Relaxes.refl (c : Casing) : c.Relaxes c := ⟨fun _ listed => listed, Nat.le_refl _, id⟩

theorem accepts_relaxed (relaxes : c.Relaxes c') {words : List Word} {i : Nat} {word : Word}
    (accepted : c.accepts words i word = true) : c'.accepts words i word = true := by
  have wider := relaxes.oneCharWords
  unfold accepts at accepted ⊢
  rw [Bool.or_eq_true, Bool.and_eq_true] at accepted ⊢
  refine accepted.imp_right fun ⟨single, placed⟩ => ⟨single, ?_⟩
  cases old : c.oneCharWords <;> cases new : c'.oneCharWords <;> simp_all [OneCharWords.rank]

theorem judge_relaxed (relaxes : c.Relaxes c') (weaker : exempt = true → exempt' = true)
    (valid : c.judge exempt name = .valid) : c'.judge exempt' name = .valid := by
  unfold judge at valid ⊢
  split
  · rfl
  · rename_i listed'
    have listed : ¬ c.ignored.contains name = true := by
      intro member
      rw [List.contains_iff_mem] at member listed'
      exact listed' (relaxes.ignored member)
    rw [if_neg listed] at valid
    split
    · rfl
    · rename_i single'
      have single : ¬ (isSingleCapsWord name && (c.ignoreSingleWords || exempt)) = true := by
        intro caps
        rw [Bool.and_eq_true, Bool.or_eq_true] at caps single'
        exact single' ⟨caps.1, caps.2.imp relaxes.ignoreSingleWords weaker⟩
      rw [if_neg single] at valid
      -- From here on the two verdicts differ in the words that are accepted only.
      split
      · rfl
      · rename_i screaming
        rw [if_neg screaming] at valid
        split
        · rename_i mixed
          rw [if_pos mixed] at valid
          cases valid
        · rename_i mixed
          rw [if_neg mixed] at valid
          dsimp only at valid ⊢
          split at valid
          · rename_i accepted
            rw [if_pos]
            rw [List.all_eq_true] at accepted ⊢
            intro entry member
            exact accepts_relaxed relaxes (accepted entry member)
          · cases valid

theorem check_valid_iff : c.check exempt name = .valid ↔ c.judge exempt name = .valid := by
  unfold check
  cases verdict : c.judge exempt name with
  | valid => simp
  | invalid suggestion =>
    cases suggestion with
    | none => simp
    | some fixed =>
      dsimp only
      split <;> simp

theorem check_relaxed (relaxes : c.Relaxes c') (weaker : exempt = true → exempt' = true)
    (valid : c.check exempt name = .valid) : c'.check exempt' name = .valid :=
  check_valid_iff.mpr (judge_relaxed relaxes weaker (check_valid_iff.mp valid))

theorem check_exempt (valid : c.check false name = .valid) : c.check exempt name = .valid := by
  refine check_relaxed (.refl c) ?_ valid
  nofun

theorem offer_some {other : Text} (offered : offer name other = some fixed) :
    fixed = other ∧ fixed ≠ [] ∧ fixed ≠ name := by
  unfold offer at offered
  split at offered
  · rename_i accepted
    cases offered
    simp only [Bool.and_eq_true, bne_iff_ne] at accepted
    exact ⟨rfl, by simpa using accepted.1, accepted.2⟩
  · cases offered

theorem judge_offers (offered : c.judge exempt name = .invalid (some fixed)) :
    fixed = (if Word.isMixedSnake name then camelize (Word.snake name)
      else c.recase (Word.camel name)) ∧ fixed ≠ [] ∧ fixed ≠ name := by
  unfold judge at offered
  split at offered
  · cases offered
  · split at offered
    · cases offered
    · split at offered
      · cases offered
      · split at offered
        · rename_i mixed
          rw [if_pos mixed]
          exact offer_some (Verdict.invalid.inj offered)
        · rename_i mixed
          rw [if_neg mixed]
          dsimp only at offered
          split at offered
          · cases offered
          · exact offer_some (Verdict.invalid.inj offered)

theorem check_offers_iff : c.check exempt name = .invalid (some fixed) ↔
    c.judge exempt name = .invalid (some fixed) ∧ c.judge exempt fixed = .valid := by
  have accepted : ∀ verdict : Verdict, verdict.isValid = true ↔ verdict = .valid := by
    intro verdict
    cases verdict <;> simp [Verdict.isValid]
  unfold check
  cases judged : c.judge exempt name with
  | valid => simp
  | invalid suggestion =>
    cases suggestion with
    | none => simp
    | some other =>
      dsimp only
      split
      · rename_i passes
        rw [accepted] at passes
        constructor
        · intro offered
          cases offered
          exact ⟨rfl, passes⟩
        · rintro ⟨offered, -⟩
          exact offered
      · rename_i fails
        rw [accepted] at fails
        constructor
        · intro offered
          cases offered
        · rintro ⟨offered, passes⟩
          cases offered
          exact absurd passes fails

theorem check_offers (offered : c.check exempt name = .invalid (some fixed)) :
    fixed ≠ name ∧ c.check exempt fixed = .valid := by
  obtain ⟨judged, passes⟩ := check_offers_iff.mp offered
  exact ⟨(judge_offers judged).2.2, check_valid_iff.mpr passes⟩

end Casing

end ScriptLint
