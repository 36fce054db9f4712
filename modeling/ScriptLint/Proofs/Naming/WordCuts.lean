import ScriptLint.Proofs.Naming.CamelWords

/-!
Where a name is cut into words.

However a name is cut, its words are not empty and written one after another they are the name. In
snake case the words are the longest runs of underscores and of other characters. In camel case the
scan may cut before the character in front of the one it has just read, and it still loses nothing:
what it has finished and what it has not are at every step the text read so far.
-/
namespace ScriptLint.Word

structure Partitions (words : List Text) (name : Text) : Prop where
  filled : ∀ word ∈ words, word ≠ []
  whole : words.flatten = name

def texts (words : List Word) : List Text := words.map (·.text)

/-- A word behind the first one starts at place `i` of the name. -/
def CutAt (words : List Text) (i : Nat) : Prop :=
  ∃ front back, words = front ++ back ∧ front ≠ [] ∧ back ≠ [] ∧ front.flatten.length = i

namespace Scan

structure Holds (s : Scan) (t : Text) : Prop where
  filled : ∀ word ∈ s.done, word ≠ []
  whole : s.done.reverse.flatten ++ s.current.reverse = t

theorem flatten_finish (s : Scan) :
    s.finish.reverse.flatten = s.done.reverse.flatten ++ s.current.reverse := by
  unfold finish
  split
  · rename_i empty
    simp [List.isEmpty_iff.mp empty]
  · simp

theorem finish_ne_nil {s : Scan} (words : ∀ word ∈ s.done, word ≠ []) :
    ∀ word ∈ s.finish, word ≠ [] := by
  unfold finish
  split
  · exact words
  · rename_i filled
    rw [List.forall_mem_cons]
    exact ⟨by simpa using filled, words⟩

section Steps

variable {s : Scan} {t : Text}

theorem Holds.keep (holds : s.Holds t) (c : Char) : (s.keep c).Holds (t ++ [c]) := by
  constructor
  · exact holds.filled
  · simp [Scan.keep, ← holds.whole]

theorem Holds.cutBefore (holds : s.Holds t) (c : Char) : (s.cutBefore c).Holds (t ++ [c]) := by
  constructor
  · exact finish_ne_nil holds.filled
  · simp [Scan.cutBefore, flatten_finish, holds.whole]

theorem Holds.cutEarlier (holds : s.Holds t) (c : Char) : (s.cutEarlier c).Holds (t ++ [c]) := by
  unfold Scan.cutEarlier
  split
  · exact holds.keep c
  · rename_i last earlier current
    constructor
    · exact @finish_ne_nil { s with current := earlier } holds.filled
    · simp [flatten_finish, ← holds.whole, current]

theorem Holds.step (holds : s.Holds t) (c : Char) : (s.step c).Holds (t ++ [c]) := by
  -- The flags that a step sets are no part of what is held.
  have advanced : (s.advance c).Holds (t ++ [c]) := by
    unfold advance
    split
    · exact ⟨(holds.keep c).filled, (holds.keep c).whole⟩
    · split
      · exact holds.cutBefore c
      · split
        · exact ⟨(holds.cutEarlier c).filled, (holds.cutEarlier c).whole⟩
        · split
          · exact ⟨(holds.cutBefore c).filled, (holds.cutBefore c).whole⟩
          · exact holds.keep c
  exact ⟨advanced.filled, advanced.whole⟩

theorem Holds.foldl (holds : s.Holds t) (rest : Text) :
    (rest.foldl Scan.step s).Holds (t ++ rest) := by
  induction rest generalizing s t with
  | nil => simpa using holds
  | cons c rest ih =>
    have next := ih (holds.step c)
    rwa [List.append_assoc] at next

end Steps

end Scan

theorem camelTexts_partitions (name : Text) : Partitions (camelTexts name) name := by
  have initial : ({} : Scan).Holds [] := ⟨nofun, rfl⟩
  have holds := initial.foldl name
  constructor
  · intro word member
    exact Scan.finish_ne_nil holds.filled word (List.mem_reverse.mp member)
  · rw [camelTexts, Scan.flatten_finish, holds.whole, List.nil_append]

section Runs

theorem snakeTexts_partitions (name : Text) : Partitions (snakeTexts name) name := by
  constructor
  · intro word member
    exact List.ne_nil_of_mem_splitBy member
  · exact List.flatten_splitBy _ name

theorem same_of_chain {p : Char → Bool} {c : Char} {rest : Text}
    (chain : (c :: rest).IsChain fun a b => (p a == p b) = true) : ∀ x ∈ c :: rest, p x = p c := by
  induction rest generalizing c with
  | nil => simp
  | cons d rest ih =>
    rw [List.isChain_cons_cons] at chain
    have equal : p c = p d := eq_of_beq chain.1
    intro x member
    rcases List.mem_cons.mp member with same | later
    · rw [same]
    · rw [equal]
      exact ih chain.2 x later

theorem snakeTexts_same {name word : Text} (listed : word ∈ snakeTexts name) {a b : Char}
    (first : a ∈ word) (second : b ∈ word) : (a == '_') = (b == '_') := by
  have chain := List.isChain_of_mem_splitBy listed
  cases word with
  | nil => simp at first
  | cons c rest =>
    have same := @same_of_chain (· == '_') c rest chain
    rw [same a first, same b second]

theorem snakeTexts_mem_iff {name word : Text} (listed : word ∈ snakeTexts name) {c : Char}
    (member : c ∈ word) : '_' ∈ word ↔ (c == '_') = true := by
  constructor
  · intro sign
    rw [snakeTexts_same listed member sign, beq_self_eq_true]
  · intro same
    rwa [← eq_of_beq same]

theorem snakeTexts_uniform {name word : Text} (listed : word ∈ snakeTexts name) :
    (∀ c ∈ word, c = '_') ∨ '_' ∉ word := by
  by_cases sign : '_' ∈ word
  · left
    intro c member
    exact eq_of_beq ((snakeTexts_mem_iff listed member).mp sign)
  · exact .inr sign

theorem snakeTexts_alternate (name : Text) :
    (snakeTexts name).IsChain fun a b => '_' ∈ a ↔ '_' ∉ b := by
  have chain := List.isChain_getLast_head_splitBy (fun a b => (a == '_') == (b == '_')) name
  apply chain.imp_of_mem_imp
  intro a b listed next differ
  obtain ⟨filled, filled', differ⟩ := differ
  have sides := beq_eq_false_iff_ne.mp differ
  rw [snakeTexts_mem_iff listed (List.getLast_mem filled),
    snakeTexts_mem_iff next (List.head_mem filled')]
  cases last : a.getLast filled == '_' <;> simp_all

end Runs

section Cuts

theorem cutAt_cons {word : Text} {words : List Text} {i : Nat} :
    CutAt (word :: words) i ↔
      (words ≠ [] ∧ i = word.length) ∨ ∃ j, CutAt words j ∧ i = word.length + j := by
  constructor
  · rintro ⟨front, back, split, some, more, rfl⟩
    obtain ⟨first, front, rfl⟩ := List.exists_cons_of_ne_nil some
    rw [List.cons_append, List.cons.injEq] at split
    obtain ⟨rfl, rfl⟩ := split
    cases front with
    | nil => exact .inl ⟨more, by simp⟩
    | cons second front =>
      right
      refine ⟨_, ⟨second :: front, back, rfl, List.cons_ne_nil _ _, more, rfl⟩, ?_⟩
      simp
  · rintro (⟨more, rfl⟩ | ⟨j, ⟨front, back, rfl, some, more, rfl⟩, rfl⟩)
    · exact ⟨[word], words, rfl, List.cons_ne_nil _ _, more, by simp⟩
    · exact ⟨word :: front, back, rfl, List.cons_ne_nil _ _, more, by simp⟩

theorem not_cutAt_nil (i : Nat) : ¬ CutAt [] i := by
  rintro ⟨front, back, split, some, -⟩
  simp_all

theorem not_cutAt_zero {words : List Text} (filled : ∀ word ∈ words, word ≠ []) :
    ¬ CutAt words 0 := by
  rintro ⟨front, back, rfl, some, -, place⟩
  obtain ⟨word, front, rfl⟩ := List.exists_cons_of_ne_nil some
  have empty : word = [] := by
    rw [List.flatten_cons, List.length_append] at place
    exact List.length_eq_zero_iff.mp (by omega)
  exact filled word (by simp) empty

theorem cutAt_singleton_cons {b : Char} {words : List Text} {i : Nat} :
    CutAt ([b] :: words) (i + 1) ↔ (words ≠ [] ∧ i = 0) ∨ CutAt words i := by
  rw [cutAt_cons]
  constructor
  · rintro (⟨more, place⟩ | ⟨j, cut, place⟩)
    · exact .inl ⟨more, by simpa using place⟩
    · obtain rfl : i = j := by
        rw [List.length_singleton] at place
        omega
      exact .inr cut
  · rintro (⟨more, rfl⟩ | cut)
    · exact .inl ⟨more, rfl⟩
    · exact .inr ⟨i, cut, Nat.add_comm i 1⟩

theorem cutAt_grow {b : Char} {word : Text} {words : List Text} {i : Nat} :
    CutAt ((b :: word) :: words) (i + 1) ↔ CutAt (word :: words) i := by
  simp only [cutAt_cons, List.length_cons]
  constructor
  · rintro (⟨more, place⟩ | ⟨j, cut, place⟩)
    · exact .inl ⟨more, by omega⟩
    · exact .inr ⟨j, cut, by omega⟩
  · rintro (⟨more, rfl⟩ | ⟨j, cut, rfl⟩)
    · exact .inl ⟨more, rfl⟩
    · exact .inr ⟨j, cut, by omega⟩

theorem plainWords_cutAt (name : Text) (i : Nat) :
    CutAt (plainWords name) (i + 1) ↔ ∃ b c, name[i]? = some b ∧ name[i + 1]? = some c ∧
      startsWord b c (name.drop (i + 2)) = true := by
  fun_induction plainWords name generalizing i with
  | case1 => simp [not_cutAt_nil]
  | case2 c => simp [cutAt_cons, not_cutAt_nil]
  | case3 b c rest starts ih =>
    have some : plainWords (c :: rest) ≠ [] := by
      obtain ⟨word, words, next⟩ := plainWords_cons c rest
      simp [next]
    rw [cutAt_singleton_cons]
    cases i with
    | zero => simp [some, starts]
    | succ i =>
      rw [ih]
      simp
  | case4 b c rest starts ih =>
    have filled := plainWords_ne_nil (c :: rest)
    obtain ⟨word, words, next⟩ := plainWords_cons c rest
    rw [next] at ih filled ⊢
    rw [List.modifyHead_cons, cutAt_grow]
    cases i with
    | zero => simp [not_cutAt_zero filled, starts]
    | succ i =>
      rw [ih]
      simp

end Cuts

theorem startsWord_drop_iff {name : Text} {b c : Char} {i : Nat} :
    startsWord b c (name.drop i) = true ↔
      (c.isDigit = true ∧ b.isDigit = false) ∨ (c.isUpper = true ∧ b.isUpper = false) ∨
        (b.isUpper = true ∧ c.isUpper = true ∧ ∃ d, name[i]? = some d ∧ d.isLower = true) := by
  have next : (name.drop i).head?.any Char.isLower = true ↔
      ∃ d, name[i]? = some d ∧ d.isLower = true := by
    rw [List.head?_drop, Option.any_eq_true]
  rw [← next, startsWord]
  cases b.isUpper <;> simp [and_comm]

theorem texts_ofText (texts : List Text) : Word.texts (texts.map ofText) = texts := by
  rw [Word.texts, List.map_map]
  exact List.map_id texts

/-- Either way of cutting gives a partition of the name. In snake case the words are uniform and
take turns. In camel case a name of ASCII letters and digits is cut before a digit that follows no
digit, before a capital that follows no capital, and between two capitals when a small letter comes
next. -/
theorem words_partition_name (name : Text) :
    (Partitions (texts (camel name)) name ∧ Partitions (texts (snake name)) name ∧
      Partitions (texts (split name)) name) ∧
    ((∀ word ∈ texts (snake name), (∀ c ∈ word, c = '_') ∨ '_' ∉ word) ∧
      (texts (snake name)).IsChain fun a b => '_' ∈ a ↔ '_' ∉ b) ∧
    ((∀ c ∈ name, c.isAlphanum = true) → ∀ i, CutAt (texts (camel name)) (i + 1) ↔
      ∃ b c, name[i]? = some b ∧ name[i + 1]? = some c ∧
        ((c.isDigit = true ∧ b.isDigit = false) ∨ (c.isUpper = true ∧ b.isUpper = false) ∨
          (b.isUpper = true ∧ c.isUpper = true ∧
            ∃ d, name[i + 2]? = some d ∧ d.isLower = true))) := by
  have ofCamel : texts (camel name) = camelTexts name := texts_ofText _
  have ofSnake : texts (snake name) = snakeTexts name := texts_ofText _
  have camelParts := camelTexts_partitions name
  have snakeParts := snakeTexts_partitions name
  have parts : Partitions (texts (split name)) name := by
    unfold split
    split
    · rwa [ofSnake]
    · rwa [ofCamel]
  rw [ofCamel, ofSnake]
  refine ⟨⟨camelParts, snakeParts, parts⟩, ⟨?_, snakeTexts_alternate name⟩, ?_⟩
  · intro word listed
    exact snakeTexts_uniform listed
  · intro plain i
    rw [camelTexts_eq plain, plainWords_cutAt]
    simp only [startsWord_drop_iff]

theorem words_partition_name_acronym :
    (∀ c ∈ "XMLHttp2".toList, c.isAlphanum = true) ∧
      CutAt (texts (camel "XMLHttp2".toList)) 3 ∧ ¬ CutAt (texts (camel "XMLHttp2".toList)) 1 := by
  have plain : ∀ c ∈ "XMLHttp2".toList, c.isAlphanum = true := List.all_eq_true.mp rfl
  have cuts := (words_partition_name "XMLHttp2".toList).2.2 plain
  refine ⟨plain, (cuts 2).mpr ⟨'L', 'H', by simp⟩, ?_⟩
  rw [cuts 0]
  simp

end ScriptLint.Word
