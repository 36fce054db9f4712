import ScriptLint.Proofs.Naming.Acronyms
import ScriptLint.Proofs.Naming.SnakeNames

/-!
Underscores and the verdict on a name.

Single underscores between letters and digits make a name fail. Two of them in a row let it go as a
name in camel case, which passes unless the policy rejects one of its acronyms. Underscores at the
end hide the capitals in front of them: the name passes with them exactly when it passes without
these capitals.
-/
namespace ScriptLint

namespace Casing

theorem not_single_caps {name : Text} (member : '_' ∈ name) : isSingleCapsWord name = false := by
  refine Bool.eq_false_iff.mpr fun capitals => ?_
  have sign := List.all_eq_true.mp capitals '_' member
  rw [(Text.classes_of_ascii (c := '_') rfl).1, (Text.classes_of_ascii (c := '_') rfl).2.2] at sign
  cases sign

/-- A name with underscores between letters or digits passes only where it has several of them in a
row, and then its acronyms decide. -/
theorem inner_underscores_pass_iff (c : Casing) (exempt : Bool) (name : Text)
    (plain : ∀ x ∈ name, x.isAlphanum = true ∨ x = '_')
    (inner : ∃ n, 1 ≤ n ∧ Word.InnerRun n name)
    (constant : Word.isScreamingSnake name = false) (listed : name ∉ c.ignored) :
    c.check exempt name = .valid ↔
      (∃ n, 2 ≤ n ∧ Word.InnerRun n name) ∧ ¬ c.oneCharWords.Rejects name := by
  have single : isSingleCapsWord name = false := by
    obtain ⟨n, some, runs⟩ := inner
    exact not_single_caps (runs.mem some)
  have mixed : Word.isMixedSnake name = false ↔ ∃ n, 2 ≤ n ∧ Word.InnerRun n name := by
    rw [← Bool.not_eq_true, Word.isMixedSnake_iff plain]
    simp [inner]
  rw [check_valid_iff, judge_valid_iff c exempt (Word.ascii_of_plain plain), mixed]
  simp [single, constant, listed]

theorem inner_underscores_pass_iff_short :
    (¬ OneCharWords.never.Rejects ['x', '_', '_', 'y']) ∧
      ∀ policy : OneCharWords,
        ({ oneCharWords := policy } : Casing).check true ['x', '_', 'Y'] ≠ .valid := by
  constructor
  · exact ((inner_underscores_pass_iff { oneCharWords := .never } false ['x', '_', '_', 'y']
      (by simp) ⟨2, by decide, [], 'x', 'y', [], rfl, rfl, rfl⟩ (by cbv) (by simp)).mp
      (by cbv)).2
  · intro policy valid
    have plain : ∀ x ∈ ['x', '_', 'Y'], x.isAlphanum = true ∨ x = '_' := by simp
    obtain ⟨n, two, runs⟩ := ((inner_underscores_pass_iff { oneCharWords := policy } true _ plain
      ⟨1, by decide, [], 'x', 'Y', [], rfl, rfl, rfl⟩ (by cbv) (by simp)).mp valid).1
    exact ((Word.isMixedSnake_iff plain).mp (by cbv)).2 n two runs

/-- `foo__bar` passes. -/
theorem doubled_underscore_passes :
    Word.InnerRun 2 "foo__bar".toList ∧ Word.isScreamingSnake "foo__bar".toList = false ∧
      ({} : Casing).check false "foo__bar".toList = .valid := by
  refine ⟨⟨"fo".toList, 'o', 'b', "ar".toList, rfl, rfl, rfl⟩, ?_, ?_⟩
  · cbv
  · cbv

end Casing

namespace Text

theorem rtakeWhile_capitals {front tail : Text} (last : front.getLast?.any Char.isUpper = false)
    (capitals : ∀ c ∈ tail, c.isUpper = true) :
    (front ++ tail).rtakeWhile Char.isUpper = tail := by
  have none : front.reverse.takeWhile Char.isUpper = [] := by
    rcases List.eq_nil_or_concat' front with rfl | ⟨front, c, rfl⟩
    · rfl
    · have small : c.isUpper = false := by simpa using last
      simp [small]
  have behind : ∀ c ∈ tail.reverse, c.isUpper = true := by simpa using capitals
  rw [List.rtakeWhile, List.reverse_append, List.takeWhile_append_of_pos behind, none]
  simp

theorem rdropWhile_last (name : Text) :
    (name.rdropWhile Char.isUpper).getLast?.any Char.isUpper = false := by
  rw [Option.any_eq_false]
  intro c last
  obtain ⟨filled, rfl⟩ := List.mem_getLast?_eq_getLast last
  exact Bool.eq_false_iff.mpr (List.rdropWhile_last_not Char.isUpper name filled)

theorem plain_rdropWhile {name : Text} (plain : ∀ c ∈ name, c.isAlphanum = true) :
    ∀ c ∈ name.rdropWhile Char.isUpper, c.isAlphanum = true := by
  intro c member
  exact plain c ((List.rdropWhile_prefix Char.isUpper name).subset member)

end Text

namespace Word

section Others

variable {more : Text} (others : ∀ c ∈ more, c.isLower = false ∧ c.isDigit = false)

include others

theorem endsCapitals_suffix {n : Nat} {after : Text} (behind : after <:+ more)
    (filled : after ≠ []) : endsCapitals n after = false := by
  obtain ⟨c, rest, rfl⟩ := List.exists_cons_of_ne_nil filled
  have digit := (others c (behind.mem List.mem_cons_self)).2
  have lower : rest.head?.any Char.isLower = false := by
    cases rest with
    | nil => rfl
    | cons d rest => exact (others d (behind.mem (by simp))).1
  simp [endsCapitals, digit, lower]

theorem endsCapitals_append {n : Nat} {after : Text} (filled : after ≠ []) :
    endsCapitals n (after ++ more) = endsCapitals n after := by
  obtain ⟨c, rest, rfl⟩ := List.exists_cons_of_ne_nil filled
  cases rest with
  | cons d rest => rfl
  | nil =>
    have lower : more.head?.any Char.isLower = false := by
      cases more with
      | nil => rfl
      | cons d more => exact (others d List.mem_cons_self).1
    simp [endsCapitals, lower]

end Others

theorem IsAcronym.after_ne_nil {before word after : Text} (acronym : IsAcronym before word after)
    (last : (before ++ word ++ after).getLast?.any Char.isUpper = false) : after ≠ [] := by
  rintro rfl
  obtain ⟨word, c, rfl⟩ := (List.eq_nil_or_concat' word).resolve_left acronym.nonempty
  simp [acronym.capitals c (by simp)] at last

theorem fresh_plain {t : Text} (plain : ∀ c ∈ t, c.isAlphanum = true)
    (last : t.getLast?.any Char.isUpper = false) : Fresh t := by
  refine ⟨last, fun runs => ?_⟩
  obtain ⟨x, atEnd, other⟩ := runOpen_last runs
  have capital : x.isUpper = true := by
    have classes := Text.ascii_cases (plain x (List.mem_of_getLast? atEnd))
    simpa [other] using classes
  rw [Option.mem_def.mp atEnd, Option.any_some, capital] at last
  cases last

end Word

namespace OneCharWords

theorem letsLone_last (policy : OneCharWords) : policy.letsLone true = false ↔ policy = .never := by
  cases policy <;> simp [letsLone]

theorem rejects_front (policy : OneCharWords) {front more : Text}
    (last : front.getLast?.any Char.isUpper = false)
    (others : ∀ c ∈ more, c.isLower = false ∧ c.isDigit = false) :
    policy.Rejects front ↔ ∃ before word after, front ++ more = before ++ word ++ after ∧
      after ≠ [] ∧ Word.IsAcronym before word after ∧
      (word.length = 1 → policy.letsLone false = false) := by
  constructor
  · rintro ⟨before, word, after, rfl, acronym, lone⟩
    have filled := acronym.after_ne_nil last
    rw [List.isEmpty_eq_false_iff.mpr filled] at lone
    refine ⟨before, word, after ++ more, by simp, by simp [filled], ?_, lone⟩
    exact { acronym with ends := by rw [Word.endsCapitals_append others filled, acronym.ends] }
  · rintro ⟨before, word, after, split, filled, acronym, lone⟩
    -- Nothing in `more` ends capitals, so the acronym and its end lie in front of it.
    rcases List.append_eq_append_iff.mp split with ⟨rest, -, behind⟩ | ⟨rest, rfl, rfl⟩
    · have ends := Word.endsCapitals_suffix others (n := word.length) ⟨rest, behind.symm⟩ filled
      rw [acronym.ends] at ends
      cases ends
    · have some : rest ≠ [] := by
        rintro rfl
        have ends := Word.endsCapitals_suffix others (n := word.length) List.suffix_rfl filled
        rw [List.nil_append] at acronym
        rw [acronym.ends] at ends
        cases ends
      refine ⟨before, word, rest, rfl, ?_, by rwa [List.isEmpty_eq_false_iff.mpr some]⟩
      exact { acronym with ends := by rw [← Word.endsCapitals_append others some, acronym.ends] }

section Trailing

variable (policy : OneCharWords) {name : Text} (plain : ∀ c ∈ name, c.isAlphanum = true)

/-- Underscores behind a name take the capitals at its end out of sight. -/
theorem rejects_hidden (name : Text) (k : Nat) :
    policy.Rejects (name ++ List.replicate (k + 1) '_') ↔
      policy.Rejects (name.rdropWhile Char.isUpper) := by
  have others : ∀ c ∈ name.rtakeWhile Char.isUpper ++ List.replicate (k + 1) '_',
      c.isLower = false ∧ c.isDigit = false := by
    intro c member
    rcases List.mem_append.mp member with capital | sign
    · exact Text.capital_classes (List.mem_rtakeWhile_imp capital)
    · rw [List.eq_of_mem_replicate sign]
      exact ⟨rfl, rfl⟩
  rw [rejects_front policy (Text.rdropWhile_last name) others, ← List.append_assoc,
    List.rdropWhile_append_rtakeWhile]
  constructor
  · rintro ⟨before, word, after, split, acronym, lone⟩
    have filled : after ≠ [] := by
      apply acronym.after_ne_nil
      rw [← split, List.replicate_succ', ← List.append_assoc, List.getLast?_concat]
      rfl
    rw [List.isEmpty_eq_false_iff.mpr filled] at lone
    exact ⟨before, word, after, split, filled, acronym, lone⟩
  · rintro ⟨before, word, after, split, filled, acronym, lone⟩
    exact ⟨before, word, after, split, acronym, by rwa [List.isEmpty_eq_false_iff.mpr filled]⟩

include plain

theorem rejects_capitals : policy.Rejects name ↔ policy.Rejects (name.rdropWhile Char.isUpper) ∨
    (name.rtakeWhile Char.isUpper ≠ [] ∧
      ((name.rtakeWhile Char.isUpper).length = 1 → policy = .never)) := by
  have capitals : ∀ c ∈ name.rtakeWhile Char.isUpper, c.isUpper = true := by
    intro c member
    exact List.mem_rtakeWhile_imp member
  have last := Text.rdropWhile_last name
  have whole : name.rdropWhile Char.isUpper ++ name.rtakeWhile Char.isUpper = name :=
    List.rdropWhile_append_rtakeWhile
  rw [rejects_front policy last fun c member => Text.capital_classes (capitals c member), whole,
    ← letsLone_last]
  constructor
  · rintro ⟨before, word, after, split, acronym, lone⟩
    cases after with
    | cons c after => exact .inl ⟨before, word, c :: after, split, by simp, acronym, lone⟩
    | nil =>
      rw [List.append_nil] at split
      have tail := Text.rtakeWhile_capitals acronym.fresh.1 acronym.capitals
      rw [← split] at tail
      rw [tail]
      exact .inr ⟨acronym.nonempty, lone⟩
  · rintro (⟨before, word, after, split, filled, acronym, lone⟩ | ⟨filled, lone⟩)
    · exact ⟨before, word, after, split, acronym, by rwa [List.isEmpty_eq_false_iff.mpr filled]⟩
    · refine ⟨_, _, [], by rw [whole, List.append_nil], ⟨filled, capitals, ?_, rfl⟩, lone⟩
      exact Word.fresh_plain (Text.plain_rdropWhile plain) last

theorem allows_iff : policy.Allows name ↔ ¬ policy.Rejects name := by
  rw [← letsAll_plainWords policy plain, ← Word.camelTexts_eq plain]
  exact letsAll_camelTexts policy fun c member => Text.isAscii_of_plain (plain c member)

end Trailing

end OneCharWords

namespace Casing

theorem padded_shape {name : Text} (plain : ∀ c ∈ name, c.isAlphanum = true) (k : Nat) :
    Word.isScreamingSnake (name ++ List.replicate (k + 1) '_') = false ∧
      Word.isMixedSnake (name ++ List.replicate (k + 1) '_') = false := by
  constructor
  · have pieces := Text.splitOn_between '_' (name ++ List.replicate k '_') []
    have blank : Text.splitOn '_' [] = [[]] := rfl
    rw [Word.isScreamingSnake, Word.isJoined, List.replicate_succ', ← List.append_assoc, pieces,
      blank]
    simp
  · have framed : Word.isMixedSnake ([] ++ name ++ List.replicate (k + 1) '_') = false :=
      Word.isMixedSnake_framed (by simp) (by simp) plain
    rwa [List.nil_append] at framed

theorem padded_valid_iff {name : Text} (plain : ∀ c ∈ name, c.isAlphanum = true)
    (policy : OneCharWords) (k : Nat) :
    ({ oneCharWords := policy } : Casing).check false (name ++ List.replicate (k + 1) '_') =
      .valid ↔ policy.Allows (name.rdropWhile Char.isUpper) := by
  have ascii : ∀ c ∈ name ++ List.replicate (k + 1) '_', Text.isAscii c = true := by
    refine Word.ascii_of_plain fun c member => ?_
    exact (List.mem_append.mp member).imp (plain c) List.eq_of_mem_replicate
  obtain ⟨constant, mixed⟩ := padded_shape plain k
  rw [check_valid_iff, judge_valid_iff _ false ascii, policy.rejects_hidden,
    ← policy.allows_iff (Text.plain_rdropWhile plain)]
  simp [constant, mixed]

/-- Underscores at the end keep the verdict on a name except where it fails for nothing but the
capitals at its end. -/
theorem trailing_underscores_keep_verdict_iff (policy : OneCharWords) (name : Text)
    (plain : ∀ c ∈ name, c.isAlphanum = true) (k : Nat) :
    (({ oneCharWords := policy } : Casing).check false (name ++ List.replicate k '_') = .valid ↔
        ({ oneCharWords := policy } : Casing).check false name = .valid) ↔
      k = 0 ∨ ¬ policy.Allows (name.rdropWhile Char.isUpper) ∨
        name.rtakeWhile Char.isUpper = [] ∨
        ((name.rtakeWhile Char.isUpper).length = 1 ∧ policy ≠ .never) := by
  cases k with
  | zero => simp
  | succ k =>
    rw [padded_valid_iff plain, check_valid_iff, judge_plain policy plain,
      policy.letsAll_plainWords plain, policy.allows_iff plain, policy.rejects_capitals plain,
      policy.allows_iff (Text.plain_rdropWhile plain)]
    have some : k + 1 ≠ 0 := by omega
    tauto

theorem trailing_underscores_keep_verdict_getX :
    (∀ c ∈ ['g', 'e', 't', 'X'], c.isAlphanum = true) ∧
      (∀ k, ({ oneCharWords := .last } : Casing).check false
          (['g', 'e', 't', 'X'] ++ List.replicate k '_') = .valid ↔
        ({ oneCharWords := .last } : Casing).check false ['g', 'e', 't', 'X'] = .valid) ∧
      ∀ k, ¬ (({ oneCharWords := .never } : Casing).check false
          (['g', 'e', 't', 'X'] ++ List.replicate (k + 1) '_') = .valid ↔
        ({ oneCharWords := .never } : Casing).check false ['g', 'e', 't', 'X'] = .valid) := by
  have plain : ∀ c ∈ ['g', 'e', 't', 'X'], c.isAlphanum = true := List.all_eq_true.mp rfl
  refine ⟨plain, fun k => ?_, fun k keeps => ?_⟩
  · exact (trailing_underscores_keep_verdict_iff .last _ plain k).mpr
      (.inr (.inr (.inr ⟨rfl, nofun⟩)))
  · rcases (trailing_underscores_keep_verdict_iff .never _ plain (k + 1)).mp keeps with
      none | fails | none | ⟨-, other⟩
    · omega
    · refine fails fun i capital => ?_
      match i with
      | 0 | 1 | 2 | i + 3 => cases capital
    · cases none
    · exact other rfl

/-- `fooBAR` fails, `fooBAR_` passes. -/
theorem trailing_underscore_hides_capitals :
    ({} : Casing).check false "fooBAR".toList ≠ .valid ∧
      ({} : Casing).check false "fooBAR_".toList = .valid := by
  constructor
  · cbv
    intro same
    cases same
  · cbv

end Casing

end ScriptLint
