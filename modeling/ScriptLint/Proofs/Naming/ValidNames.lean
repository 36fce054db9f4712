import ScriptLint.Proofs.Naming.CamelWords
import ScriptLint.Proofs.Naming.Casing
import ScriptLint.Proofs.Text.Splitting

/-!
Which names of ASCII letters and digits are accepted.

A name is rejected for a word of capitals, or for a lone capital where none is allowed. Words are
not mentioned in the answer: it is told by each capital and the one or two characters behind it.
-/
namespace ScriptLint

namespace OneCharWords

/-- A small letter follows each capital, or each one that is not the last character, or each two
capitals in a row. -/
def Allows (policy : OneCharWords) (name : Text) : Prop :=
  match policy with
  | .never => ∀ i : Nat, name[i]?.any Char.isUpper = true → name[i + 1]?.any Char.isLower = true
  | .last => ∀ i : Nat, i + 1 < name.length → name[i]?.any Char.isUpper = true →
      name[i + 1]?.any Char.isLower = true
  | .always => ∀ i : Nat, name[i]?.any Char.isUpper = true →
      name[i + 1]?.any Char.isUpper = true → name[i + 2]?.any Char.isLower = true

def letsLone : OneCharWords → Bool → Bool
  | .always, _ => true
  | .never, _ => false
  | .last, isLast => isLast

def lets (policy : OneCharWords) (isLast : Bool) (word : Text) : Bool :=
  !word.all Char.isUpper || (word.length == 1 && policy.letsLone isLast)

def letsAll (policy : OneCharWords) : List Text → Bool
  | [] => true
  | word :: words => policy.lets words.isEmpty word && letsAll policy words

def letsPair (policy : OneCharWords) (b c : Char) (rest : Text) : Bool :=
  match policy with
  | .always => !b.isUpper || !c.isUpper || rest.head?.any Char.isLower
  | .never | .last => !b.isUpper || c.isLower

theorem allows_nil (policy : OneCharWords) : policy.Allows [] := by
  cases policy <;> simp [Allows]

theorem allows_singleton (policy : OneCharWords) (c : Char) :
    policy.Allows [c] ↔ policy = .never → c.isUpper = false := by
  cases policy with
  | never =>
    rw [Allows, ← Nat.and_forall_add_one]
    simp
  | last => simp [Allows]
  | always => simp [Allows]

theorem allows_cons_cons (policy : OneCharWords) (b c : Char) (rest : Text) :
    policy.Allows (b :: c :: rest) ↔
      policy.letsPair b c rest = true ∧ policy.Allows (c :: rest) := by
  cases policy with
  | never =>
    rw [Allows, ← Nat.and_forall_add_one]
    refine and_congr ?_ Iff.rfl
    simp [letsPair, imp_iff_not_or]
  | last =>
    rw [Allows, ← Nat.and_forall_add_one]
    refine and_congr ?_ ?_
    · simp [letsPair, imp_iff_not_or]
    · simp [Allows]
  | always =>
    rw [Allows, ← Nat.and_forall_add_one]
    refine and_congr ?_ Iff.rfl
    simp [letsPair, imp_iff_not_or, List.head?_eq_getElem?, or_assoc]

end OneCharWords

namespace Word

theorem starts_facts {b c : Char} {rest : Text} (plain : c.isAlphanum = true)
    (starts : startsWord b c rest = true) :
    c.isLower = false ∧
      (b.isUpper = true → c.isUpper = true → rest.head?.any Char.isLower = true) := by
  have classes := Text.ascii_cases plain
  simp only [startsWord, Bool.or_eq_true, Bool.and_eq_true, Bool.not_eq_true'] at starts
  constructor
  · rcases classes with ⟨-, lower, -⟩ | ⟨upper, -, digit⟩ | ⟨-, lower, -⟩
    · exact lower
    · simp [upper, digit] at starts
    · exact lower
  · intro first second
    have digit := (Text.capital_classes second).2
    simpa [first, second, digit] using starts

theorem joined_facts {b c : Char} {rest : Text} (joined : startsWord b c rest = false) :
    (c.isUpper = true → b.isUpper = true ∧ rest.head?.any Char.isLower = false) ∧
      (b.isUpper = true → c.isDigit = false) := by
  simp only [startsWord, Bool.or_eq_false_iff, Bool.and_eq_false_iff, Bool.not_eq_false'] at joined
  constructor
  · intro capital
    simpa [capital] using joined.2
  · intro capital
    simpa [(Text.capital_classes capital).2] using joined.1

theorem first_word_capitals {c : Char} {rest : Text}
    (plain : ∀ x ∈ c :: rest, x.isAlphanum = true) :
    ∃ word words, plainWords (c :: rest) = (c :: word) :: words ∧
      (c :: word).all Char.isUpper = (c.isUpper && !rest.head?.any Char.isLower) := by
  induction rest generalizing c with
  | nil => exact ⟨[], [], rfl, by simp⟩
  | cons d rest ih =>
    rw [List.forall_mem_cons] at plain
    obtain ⟨word, words, next, capitals⟩ := ih plain.2
    have classes := Text.ascii_cases (plain.2 d List.mem_cons_self)
    rw [plainWords]
    cases starts : startsWord c d rest with
    | true =>
      have lower := (starts_facts (plain.2 d List.mem_cons_self) starts).1
      exact ⟨[], _, rfl, by simp [lower]⟩
    | false =>
      obtain ⟨after, before⟩ := joined_facts starts
      refine ⟨d :: word, words, by rw [next]; rfl, ?_⟩
      rw [List.all_cons, capitals, List.head?_cons, Option.any_some]
      cases capital : c.isUpper with
      | false => rfl
      | true =>
        rcases classes with ⟨upper, lower, -⟩ | ⟨upper, lower, -⟩ | ⟨-, -, digit⟩
        · simp [upper, lower, (after upper).2]
        · simp [upper, lower]
        · rw [before capital] at digit
          cases digit

end Word

namespace OneCharWords

open Word

theorem lets_joined (policy : OneCharWords) (isLast : Bool) {b c : Char} {word rest : Text}
    (plain : c.isAlphanum = true) (joined : startsWord b c rest = false)
    (capitals : (c :: word).all Char.isUpper = (c.isUpper && !rest.head?.any Char.isLower)) :
    policy.lets isLast (b :: c :: word) =
      (policy.letsPair b c rest && policy.lets isLast (c :: word)) := by
  obtain ⟨after, before⟩ := joined_facts joined
  rw [lets, lets, List.all_cons, capitals]
  cases upper : c.isUpper with
  | true =>
    obtain ⟨capital, next⟩ := after upper
    have lower := (Text.capital_classes upper).1
    cases policy <;> simp [letsPair, capital, upper, lower, next]
  | false =>
    cases capital : b.isUpper with
    | false => cases policy <;> simp [letsPair, capital]
    | true =>
      have lower : c.isLower = true := by
        have classes := Text.ascii_cases plain
        simpa [upper, before capital] using classes
      cases policy <;> simp [letsPair, upper, lower]

theorem letsAll_plainWords (policy : OneCharWords) {name : Text}
    (plain : ∀ c ∈ name, c.isAlphanum = true) :
    policy.letsAll (plainWords name) = true ↔ policy.Allows name := by
  fun_induction plainWords name with
  | case1 => simp [letsAll, allows_nil]
  | case2 c =>
    rw [allows_singleton]
    cases policy <;> simp [letsAll, lets, letsLone]
  | case3 b c rest starts ih =>
    rw [List.forall_mem_cons] at plain
    obtain ⟨lower, next⟩ := starts_facts (plain.2 c List.mem_cons_self) starts
    obtain ⟨word, words, more⟩ := plainWords_cons c rest
    rw [allows_cons_cons, ← ih plain.2, letsAll, Bool.and_eq_true, more]
    refine and_congr_left' ?_
    cases policy with
    | never => simp [lets, letsLone, letsPair, lower]
    | last => simp [lets, letsLone, letsPair, lower]
    | always =>
      cases capital : b.isUpper <;> cases upper : c.isUpper <;> simp_all [lets, letsLone, letsPair]
  | case4 b c rest joined ih =>
    rw [List.forall_mem_cons] at plain
    obtain ⟨word, words, next, capitals⟩ := first_word_capitals plain.2
    rw [allows_cons_cons, ← ih plain.2, next, List.modifyHead_cons, letsAll, letsAll,
      lets_joined policy _ (plain.2 c List.mem_cons_self) (Bool.eq_false_iff.mpr joined) capitals]
    simp only [Bool.and_eq_true, and_assoc]

theorem zipIdx_all (policy : OneCharWords) (texts : List Text) (k : Nat) :
    (texts.zipIdx k).all (fun (text, i) => policy.lets (i + 1 == k + texts.length) text) =
      policy.letsAll texts := by
  induction texts generalizing k with
  | nil => rfl
  | cons text texts ih =>
    have shifted := ih (k + 1)
    have position : (k + 1 == k + (text :: texts).length) = texts.isEmpty := by
      cases texts <;> simp
    have lengths : k + (text :: texts).length = k + 1 + texts.length := by
      rw [List.length_cons]
      omega
    rw [List.zipIdx_cons, List.all_cons, letsAll, ← shifted, ← position, lengths]

end OneCharWords

namespace Word

theorem isJoined_plain (p : Char → Bool) {t : Text} (plain : '_' ∉ t) : isJoined p t = false := by
  have whole : Text.splitOn '_' t = [t] := Text.splitOn_joinWith (List.cons_ne_nil t [])
    fun piece member => by rwa [List.mem_singleton.mp member]
  rw [isJoined, whole]
  rfl

theorem underscore_not_mem {name : Text} (plain : ∀ c ∈ name, c.isAlphanum = true) :
    '_' ∉ name := by
  intro member
  exact absurd (plain '_' member) (by decide)

theorem all_isUpper {t : Text} (ascii : ∀ c ∈ t, Text.isAscii c = true) :
    t.all Text.isUpper = t.all Char.isUpper := by
  induction t with
  | nil => rfl
  | cons c t ih =>
    rw [List.forall_mem_cons] at ascii
    rw [List.all_cons, List.all_cons, (Text.classes_of_ascii ascii.1).1, ih ascii.2]

theorem ofText_underscores (t : Text) :
    (ofText t).kind = .underscores ↔ t.all (· == '_') = true := by
  unfold ofText
  cases t.all (· == '_') with
  | true => simp
  | false => cases t.all Text.isDigit <;> cases t.all Text.isUpper <;> simp

theorem ofText_allCaps {t : Text} (nonempty : t ≠ []) (ascii : ∀ c ∈ t, Text.isAscii c = true) :
    ((ofText t).kind != .allCaps) = !t.all Char.isUpper := by
  obtain ⟨c, rest, shape⟩ := List.exists_cons_of_ne_nil nonempty
  have first : c ∈ t := by rw [shape]; exact List.mem_cons_self
  have others : t.all (· == '_') = true → t.all Char.isUpper = false := by
    intro all
    refine Bool.eq_false_iff.mpr fun capitals => ?_
    have capital := List.all_eq_true.mp capitals c first
    rw [eq_of_beq (List.all_eq_true.mp all c first)] at capital
    cases capital
  have digits : t.all Text.isDigit = true → t.all Char.isUpper = false := by
    intro all
    refine Bool.eq_false_iff.mpr fun capitals => ?_
    have digit := List.all_eq_true.mp all c first
    rw [(Text.classes_of_ascii (ascii c first)).2.2,
      (Text.capital_classes (List.all_eq_true.mp capitals c first)).2] at digit
    cases digit
  rw [ofText, all_isUpper ascii]
  cases blank : t.all (· == '_') with
  | true => simp [others blank]
  | false =>
    cases numeric : t.all Text.isDigit with
    | true => simp [digits numeric]
    | false => cases t.all Char.isUpper <;> simp

end Word

namespace Casing

section Ascii

variable (c : Casing) {texts : List Text} (nonempty : ∀ t ∈ texts, t ≠ [])
  (ascii : ∀ t ∈ texts, ∀ x ∈ t, Text.isAscii x = true)
  (ends : 2 ≤ texts.length → ∀ t ∈ texts.getLast?, t.all (· == '_') = false)

include nonempty ascii ends

theorem accepts_ascii {text : Text} {i : Nat} (here : texts[i]? = some text) :
    c.accepts (texts.map Word.ofText) i (Word.ofText text) =
      c.oneCharWords.lets (i + 1 == texts.length) text := by
  have member := List.mem_of_getElem? here
  obtain ⟨bound, -⟩ := List.getElem?_eq_some_iff.mp here
  have kind := Word.ofText_allCaps (nonempty text member) (ascii text member)
  have others : (decide (2 ≤ (texts.map Word.ofText).length) &&
      ((texts.map Word.ofText)[(texts.map Word.ofText).length - 1]?).any
        (·.kind == .underscores)) = false := by
    rw [List.length_map, List.getElem?_map, Option.any_map, Bool.and_eq_false_iff,
      decide_eq_false_iff_not, or_iff_not_imp_left, not_not]
    intro two
    rw [Option.any_eq_false]
    intro last listed
    rw [← List.getLast?_eq_getElem?] at listed
    refine beq_false_of_ne fun blank => ?_
    rw [Word.ofText_underscores, ends two last listed] at blank
    cases blank
  have position : (i == texts.length - 1) = (i + 1 == texts.length) := by
    rw [Bool.eq_iff_iff, beq_iff_eq, beq_iff_eq]
    omega
  rw [accepts, others, kind, OneCharWords.lets, List.length_map, position]
  cases c.oneCharWords <;> simp [OneCharWords.letsLone, Word.ofText]

theorem all_accepts_ascii :
    ((texts.map Word.ofText).zipIdx.all fun (word, i) =>
      c.accepts (texts.map Word.ofText) i word) = c.oneCharWords.letsAll texts := by
  rw [← OneCharWords.zipIdx_all c.oneCharWords texts 0, List.zipIdx_map, List.all_map,
    Bool.eq_iff_iff, List.all_eq_true, List.all_eq_true]
  refine forall₂_congr fun ⟨text, i⟩ member => ?_
  have here : texts[i]? = some text := List.mem_zipIdx_iff_getElem?.mp member
  change c.accepts _ i (Word.ofText text) = true ↔ c.oneCharWords.lets _ text = true
  rw [Nat.zero_add, accepts_ascii c nonempty ascii ends here]

end Ascii

theorem judge_plain (policy : OneCharWords) {name : Text}
    (plain : ∀ c ∈ name, c.isAlphanum = true) :
    ({ oneCharWords := policy } : Casing).judge false name = .valid ↔
      policy.letsAll (Word.plainWords name) = true := by
  have free := Word.underscore_not_mem plain
  have trimmed : '_' ∉ name.trim (· == '_') := by
    intro member
    have inside := (List.dropWhile_suffix _).subset (List.mem_reverse.mp member)
    exact free ((List.dropWhile_suffix _).subset (List.mem_reverse.mp inside))
  have screaming : Word.isScreamingSnake name = false := Word.isJoined_plain _ free
  have mixed : Word.isMixedSnake name = false := Word.isJoined_plain _ trimmed
  have inside : ∀ word ∈ Word.plainWords name, ∀ x ∈ word, x.isAlphanum = true := by
    intro word listed x member
    apply plain
    rw [← Word.plainWords_flatten name]
    exact List.mem_flatten_of_mem listed member
  have ends : ∀ word ∈ (Word.plainWords name).getLast?, word.all (· == '_') = false := by
    intro word last
    have listed := List.mem_of_getLast? last
    obtain ⟨x, member⟩ := List.exists_mem_of_ne_nil word (Word.plainWords_ne_nil name word listed)
    refine Bool.eq_false_iff.mpr fun blank => Word.underscore_not_mem (inside word listed) ?_
    rwa [← eq_of_beq (List.all_eq_true.mp blank x member)]
  have accepted := all_accepts_ascii { oneCharWords := policy } (Word.plainWords_ne_nil name)
    (fun word listed x member => Text.isAscii_of_plain (inside word listed x member))
    (fun _ => ends)
  rw [← accepted, judge, screaming, mixed, Word.camel, Word.camelTexts_eq plain]
  simp

/-- Without ignored names and exemptions, a name of ASCII letters and digits is accepted exactly
when its capitals are followed as the policy asks. -/
theorem plain_name_valid_iff (policy : OneCharWords) (name : Text)
    (plain : ∀ c ∈ name, c.isAlphanum = true) :
    ({ oneCharWords := policy } : Casing).check false name = .valid ↔ policy.Allows name := by
  rw [check_valid_iff, judge_plain policy plain]
  exact policy.letsAll_plainWords plain

theorem plain_name_valid_iff_getX :
    (∀ c ∈ ['g', 'e', 't', 'X'], c.isAlphanum = true) ∧
      ({ oneCharWords := .last } : Casing).check false ['g', 'e', 't', 'X'] = .valid ∧
      ({ oneCharWords := .never } : Casing).check false ['g', 'e', 't', 'X'] ≠ .valid := by
  have plain : ∀ c ∈ ['g', 'e', 't', 'X'], c.isAlphanum = true :=
    List.all_eq_true.mp rfl
  refine ⟨plain, (plain_name_valid_iff .last _ plain).mpr ?_, ?_⟩
  · intro i bound capital
    match i with
    | 0 | 1 | 2 => cases capital
    | i + 3 => exact absurd bound (Nat.not_lt.mpr (Nat.le_add_left 4 i))
  · intro valid
    cases (plain_name_valid_iff .never _ plain).mp valid 3 rfl

end Casing

end ScriptLint
