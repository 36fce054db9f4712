import Mathlib
import ScriptLint.Naming.Word

/-!
The words of a name of ASCII letters and digits.

A word starts with a digit after something else, with a capital after something else, and with a
capital after a capital if a small letter follows. The scan goes from left to right and learns of
the last kind of start one character late. What it has not finished yet it can still cut there, and
so it comes to the same words.
-/
namespace ScriptLint

namespace Text

theorem ascii_lt {c : Char} (plain : c.isAlphanum = true) : c.toNat < 128 := by
  simp [Char.isAlphanum, Char.isAlpha, Char.isUpper, Char.isLower, Char.isDigit,
    UInt32.le_iff_toNat_le] at plain
  omega

theorem isAscii_of_plain {c : Char} (plain : c.isAlphanum = true) : isAscii c = true :=
  decide_eq_true (ascii_lt plain)

theorem forall_ascii {P : Char → Prop} (table : ∀ n : Fin 128, P (Char.ofNat n)) {c : Char}
    (ascii : isAscii c = true) : P c := by
  have entry := table ⟨c.toNat, of_decide_eq_true ascii⟩
  rwa [Char.ofNat_toNat] at entry

theorem classes_of_ascii {c : Char} (ascii : isAscii c = true) :
    isUpper c = c.isUpper ∧ isLower c = c.isLower ∧ isDigit c = c.isDigit :=
  forall_ascii (P := fun c => isUpper c = c.isUpper ∧ isLower c = c.isLower ∧
    isDigit c = c.isDigit) (by decide) ascii

theorem ascii_classes {c : Char} (plain : c.isAlphanum = true) :
    isUpper c = c.isUpper ∧ isLower c = c.isLower ∧ isDigit c = c.isDigit :=
  classes_of_ascii (isAscii_of_plain plain)

theorem ascii_cases {c : Char} (plain : c.isAlphanum = true) :
    (c.isUpper = true ∧ c.isLower = false ∧ c.isDigit = false) ∨
      (c.isUpper = false ∧ c.isLower = true ∧ c.isDigit = false) ∨
      (c.isUpper = false ∧ c.isLower = false ∧ c.isDigit = true) :=
  forall_ascii (P := fun c => c.isAlphanum = true →
    (c.isUpper = true ∧ c.isLower = false ∧ c.isDigit = false) ∨
      (c.isUpper = false ∧ c.isLower = true ∧ c.isDigit = false) ∨
      (c.isUpper = false ∧ c.isLower = false ∧ c.isDigit = true))
    (by decide) (isAscii_of_plain plain) plain

theorem capital_classes {c : Char} (capital : c.isUpper = true) :
    c.isLower = false ∧ c.isDigit = false := by
  have plain : c.isAlphanum = true := by simp [Char.isAlphanum, Char.isAlpha, capital]
  have classes := ascii_cases plain
  simp_all

end Text

namespace Word

/-- Whether a word starts with `c`, between the character `b` before it and the rest. -/
def startsWord (b c : Char) (rest : Text) : Bool :=
  (c.isDigit && !b.isDigit) || (c.isUpper && (!b.isUpper || rest.head?.any Char.isLower))

def plainWords : Text → List Text
  | [] => []
  | [c] => [[c]]
  | b :: c :: rest =>
    if startsWord b c rest then [b] :: plainWords (c :: rest)
    else (plainWords (c :: rest)).modifyHead (b :: ·)

def Joined : Text → Text → Prop
  | b :: c :: word, rest => startsWord b c (word ++ rest) = false ∧ Joined (c :: word) rest
  | _, _ => True

theorem plainWords_cons (c : Char) (rest : Text) :
    ∃ word words, plainWords (c :: rest) = (c :: word) :: words := by
  cases rest with
  | nil => exact ⟨[], [], rfl⟩
  | cons d rest =>
    rw [plainWords]
    split
    · exact ⟨[], _, rfl⟩
    · obtain ⟨word, words, next⟩ := plainWords_cons d rest
      rw [next]
      exact ⟨d :: word, words, rfl⟩

theorem plainWords_flatten (name : Text) : (plainWords name).flatten = name := by
  fun_induction plainWords name with
  | case1 => rfl
  | case2 c => rfl
  | case3 b c rest starts ih => rw [List.flatten_cons, ih, List.singleton_append]
  | case4 b c rest starts ih =>
    obtain ⟨word, words, next⟩ := plainWords_cons c rest
    rw [next] at ih ⊢
    exact congrArg (b :: ·) ih

theorem plainWords_ne_nil (name : Text) : ∀ word ∈ plainWords name, word ≠ [] := by
  fun_induction plainWords name with
  | case1 => simp
  | case2 c => simp
  | case3 b c rest starts ih => simpa using ih
  | case4 b c rest starts ih =>
    obtain ⟨word, words, next⟩ := plainWords_cons c rest
    rw [next] at ih ⊢
    simpa using ih

section Joining

theorem plainWords_joined {word : Text} (nonempty : word ≠ []) (joined : Joined word []) :
    plainWords word = [word] := by
  fun_induction plainWords word with
  | case1 => exact absurd rfl nonempty
  | case2 c => rfl
  | case3 b c rest starts ih =>
    rw [Joined, List.append_nil, starts] at joined
    exact absurd joined.1 Bool.noConfusion
  | case4 b c rest starts ih =>
    rw [ih (List.cons_ne_nil c rest) joined.2]
    rfl

theorem plainWords_cut {word : Text} {c : Char} (rest : Text) (nonempty : word ≠ [])
    (joined : Joined word (c :: rest))
    (starts : ∀ b ∈ word.getLast?, startsWord b c rest = true) :
    plainWords (word ++ c :: rest) = word :: plainWords (c :: rest) := by
  induction word with
  | nil => exact absurd rfl nonempty
  | cons b word ih =>
    cases word with
    | nil =>
      rw [List.singleton_append, plainWords, if_pos (starts b rfl)]
    | cons d word =>
      obtain ⟨inside, joined⟩ := joined
      have tail := ih (List.cons_ne_nil d word) joined fun x last => starts x (by simpa using last)
      rw [List.cons_append] at tail
      rw [List.cons_append, List.cons_append, plainWords, if_neg (by simp [inside]), tail]
      rfl

theorem joined_of_solid {word : Text} (rest : Text) (solid : word.IsChain fun b c =>
    c.isUpper = false ∧ (c.isDigit = true → b.isDigit = true)) : Joined word rest := by
  induction word with
  | nil => trivial
  | cons b word ih =>
    cases word with
    | nil => trivial
    | cons c word =>
      rw [List.isChain_cons_cons] at solid
      refine ⟨?_, ih solid.2⟩
      cases digit : c.isDigit with
      | false => simp [startsWord, solid.1.1, digit]
      | true => simp [startsWord, solid.1.1, solid.1.2 digit]

theorem joined_of_capitals {word rest : Text} (capitals : ∀ c ∈ word, c.isUpper = true)
    (next : rest.head?.any Char.isLower = false) : Joined word rest := by
  induction word with
  | nil => trivial
  | cons b word ih =>
    cases word with
    | nil => trivial
    | cons c word =>
      have later : (word ++ rest).head?.any Char.isLower = false := by
        cases word with
        | nil => exact next
        | cons d word =>
          have classes := Text.capital_classes (capitals d (by simp))
          simpa using classes.1
      have first := capitals b (by simp)
      have second := capitals c (by simp)
      have classes := Text.capital_classes second
      refine ⟨?_, ih fun x member => capitals x (List.mem_cons_of_mem b member)⟩
      rw [startsWord, first, second, classes.2, later]
      rfl

end Joining

namespace Scan

def words (s : Scan) (rest : Text) : List Text :=
  s.done.reverse ++ plainWords (s.current.reverse ++ rest)

/-- What the flags say about the unfinished word, whose latest character is its first one here. A
run of capitals can still be cut before its last one. Nothing else can be cut any more. -/
structure Tracks (s : Scan) : Prop where
  afterUpper : s.afterUpper = s.current.head?.any Char.isUpper
  afterDigit : s.afterDigit = s.current.head?.any Char.isDigit
  capitals : s.inCapitals = true → 2 ≤ s.current.length ∧ ∀ c ∈ s.current, c.isUpper = true
  solid : s.inCapitals = false → s.current.IsChain fun c b =>
    c.isUpper = false ∧ (c.isDigit = true → b.isDigit = true)

section Steps

variable {s : Scan} {c : Char}

theorem Tracks.joined (tracks : s.Tracks) {rest : Text}
    (next : s.inCapitals = true → rest.head?.any Char.isLower = false) :
    Joined s.current.reverse rest := by
  cases run : s.inCapitals with
  | false =>
    apply joined_of_solid
    rw [List.isChain_reverse]
    exact tracks.solid run
  | true =>
    apply joined_of_capitals
    · intro x member
      exact (tracks.capitals run).2 x (List.mem_reverse.mp member)
    · exact next run

theorem words_keep (s : Scan) (c : Char) (rest : Text) :
    (s.keep c).words rest = s.words (c :: rest) := by
  simp [words, keep]

theorem words_cutBefore (tracks : s.Tracks) {rest : Text}
    (next : s.inCapitals = true → c.isLower = false)
    (starts : ∀ b ∈ s.current.head?, startsWord b c rest = true) :
    (s.cutBefore c).words rest = s.words (c :: rest) := by
  cases current : s.current with
  | nil => simp [words, cutBefore, finish, current]
  | cons b earlier =>
    have joined : Joined s.current.reverse (c :: rest) := tracks.joined (by simpa using next)
    have last : ∀ b ∈ s.current.reverse.getLast?, startsWord b c rest = true := by
      rwa [List.getLast?_reverse]
    rw [words, words, plainWords_cut rest (by simp [current]) joined last]
    simp [cutBefore, finish, current]

theorem words_cutEarlier (tracks : s.Tracks) {rest : Text} (run : s.inCapitals = true)
    (lower : c.isLower = true) : (s.cutEarlier c).words rest = s.words (c :: rest) := by
  obtain ⟨long, capitals⟩ := tracks.capitals run
  match current : s.current with
  | [] => simp [current] at long
  | [last] => simp [current] at long
  | last :: b :: earlier =>
    rw [current, List.forall_mem_cons] at capitals
    have joined : Joined (b :: earlier).reverse (last :: c :: rest) := by
      apply joined_of_capitals
      · intro x member
        exact capitals.2 x (List.mem_reverse.mp member)
      · simpa using (Text.capital_classes capitals.1).1
    have starts : ∀ x ∈ (b :: earlier).reverse.getLast?, startsWord x last (c :: rest) = true := by
      simp [startsWord, capitals.1, lower]
    have whole : s.current.reverse ++ c :: rest = (b :: earlier).reverse ++ last :: c :: rest := by
      simp [current]
    rw [words, words, whole, plainWords_cut (c :: rest) (by simp) joined starts]
    simp [cutEarlier, finish, current]

theorem Tracks.flags_of_capitals (tracks : s.Tracks) (run : s.inCapitals = true) :
    s.afterUpper = true ∧ s.afterDigit = false := by
  obtain ⟨long, capitals⟩ := tracks.capitals run
  rw [tracks.afterUpper, tracks.afterDigit]
  cases current : s.current with
  | nil => simp [current] at long
  | cons b earlier =>
    have capital := capitals b (by simp [current])
    simpa using ⟨capital, (Text.capital_classes capital).2⟩

theorem step_words (tracks : s.Tracks) (plain : c.isAlphanum = true) (rest : Text) :
    (s.step c).words rest = s.words (c :: rest) := by
  obtain ⟨isUpper, isLower, isDigit⟩ := Text.ascii_classes plain
  have classes := Text.ascii_cases plain
  have afterUpper := tracks.afterUpper
  have afterDigit := tracks.afterDigit
  change (s.advance c).words rest = _
  rw [advance, isUpper, isLower, isDigit]
  split
  · exact words_keep s c rest
  · rename_i notRun
    split
    · rename_i starts
      apply words_cutBefore tracks
      · simp_all
      · intro b latest
        simp_all [startsWord]
    · split
      · rename_i ends
        rw [Bool.and_eq_true] at ends
        exact words_cutEarlier tracks ends.2 ends.1
      · split
        · rename_i digit
          apply words_cutBefore tracks
          · simp_all
          · intro b latest
            simp_all [startsWord]
        · exact words_keep s c rest

theorem Tracks.capitals_of_after (tracks : s.Tracks) (after : s.afterUpper = true) :
    s.current ≠ [] ∧ ∀ c ∈ s.current, c.isUpper = true := by
  rw [tracks.afterUpper] at after
  cases run : s.inCapitals with
  | true =>
    obtain ⟨long, capitals⟩ := tracks.capitals run
    exact ⟨List.length_pos_iff.mp (by omega), capitals⟩
  | false =>
    have solid := tracks.solid run
    match current : s.current with
    | [] => simp [current] at after
    | [b] => simpa [current] using after
    | b :: d :: earlier =>
      rw [current, List.isChain_cons_cons] at solid
      simp [current, solid.1.1] at after

theorem step_tracks (tracks : s.Tracks) (plain : c.isAlphanum = true) : (s.step c).Tracks := by
  obtain ⟨isUpper, isLower, isDigit⟩ := Text.ascii_classes plain
  have classes := Text.ascii_cases plain
  rw [step, isUpper, isDigit, advance, isUpper, isLower, isDigit]
  split
  · rename_i run
    rw [Bool.and_eq_true] at run
    obtain ⟨nonempty, capitals⟩ := tracks.capitals_of_after run.2
    refine ⟨rfl, rfl, fun _ => ⟨?_, ?_⟩, nofun⟩
    · exact Nat.succ_le_succ (List.length_pos_iff.mpr nonempty)
    · exact List.forall_mem_cons.mpr ⟨run.1, capitals⟩
  · rename_i notRun
    split
    · rename_i starts
      refine ⟨rfl, rfl, fun run => ?_, fun _ => List.isChain_singleton c⟩
      simp_all [cutBefore]
    · rename_i notStarts
      split
      · rename_i ends
        rw [Bool.and_eq_true] at ends
        have long := (tracks.capitals ends.2).1
        cases current : s.current with
        | nil => simp [current] at long
        | cons last earlier =>
          rw [cutEarlier, current]
          refine ⟨rfl, rfl, nofun, fun _ => ?_⟩
          rw [List.isChain_pair]
          simp_all
      · rename_i notEnds
        split
        · exact ⟨rfl, rfl, nofun, fun _ => List.isChain_singleton c⟩
        · -- Nothing is cut, so the character is no capital, and a digit only after a digit.
          rename_i goesOn
          have afterUpper := tracks.afterUpper
          have afterDigit := tracks.afterDigit
          refine ⟨rfl, rfl, fun run => ?_, fun run => ?_⟩
          · have flags := tracks.flags_of_capitals run
            simp_all [keep]
          · rw [keep, List.isChain_cons]
            refine ⟨?_, tracks.solid run⟩
            intro b latest
            obtain ⟨earlier, current⟩ := List.head?_eq_some_iff.mp latest
            simp_all [keep]

theorem foldl_words (tracks : s.Tracks) {rest : Text} (plain : ∀ c ∈ rest, c.isAlphanum = true) :
    (rest.foldl step s).finish.reverse = s.words rest := by
  induction rest generalizing s with
  | nil =>
    have joined : Joined s.current.reverse [] := tracks.joined fun _ => rfl
    cases current : s.current with
    | nil => simp [finish, words, current, plainWords]
    | cons b earlier =>
      rw [words, List.append_nil, plainWords_joined (by simp [current]) joined]
      simp [finish, current]
  | cons c rest ih =>
    have here := plain c List.mem_cons_self
    rw [List.foldl_cons, ih (step_tracks tracks here) fun x member =>
      plain x (List.mem_cons_of_mem c member), step_words tracks here]

end Steps

end Scan

theorem camelTexts_eq {name : Text} (plain : ∀ c ∈ name, c.isAlphanum = true) :
    camelTexts name = plainWords name := by
  have initial : ({} : Scan).Tracks := ⟨rfl, rfl, nofun, fun _ => List.isChain_nil⟩
  exact Scan.foldl_words initial plain

end Word

end ScriptLint
