import ScriptLint.Proofs.Naming.ValidNames

/-!
Names in snake case.

A name is framed by the underscores in front and behind. It is in snake case exactly when the
underscores between letters and digits stand alone and there are some. Its words are then written
in camel case without the underscores between them, and the frame stays.
-/
namespace ScriptLint

namespace Text

def leading (p : Char → Bool) (t : Text) : Text := t.takeWhile p

/-- The characters in `p` at the end, unless all characters are in `p`. -/
def trailing (p : Char → Bool) (t : Text) : Text := (t.dropWhile p).rtakeWhile p

variable {p : Char → Bool}

theorem framed (p : Char → Bool) (t : Text) : leading p t ++ trim p t ++ trailing p t = t := by
  have back : trim p t ++ trailing p t = t.dropWhile p := List.rdropWhile_append_rtakeWhile
  rw [List.append_assoc, back]
  exact List.takeWhile_append_dropWhile

theorem mem_of_mem_trim {t : Text} {c : Char} (member : c ∈ trim p t) : c ∈ t := by
  rw [← framed p t]
  exact List.mem_append_left _ (List.mem_append_right _ member)

theorem leading_all (t : Text) : ∀ c ∈ leading p t, p c = true := by
  intro c member
  exact List.mem_takeWhile_imp member

theorem trailing_all (t : Text) : ∀ c ∈ trailing p t, p c = true := by
  intro c member
  exact List.mem_rtakeWhile_imp member

theorem trim_head (t : Text) : ∀ c ∈ (trim p t).head?, p c = false := by
  intro c first
  have start := List.head?_dropWhile_not p t
  obtain ⟨back, whole⟩ : trim p t <+: t.dropWhile p := List.rdropWhile_prefix p _
  rw [← whole, List.head?_append, first] at start
  exact start

theorem trim_last (t : Text) : ∀ c ∈ (trim p t).getLast?, p c = false := by
  intro c last
  have stop := List.head?_dropWhile_not p (t.dropWhile p).reverse
  rw [trim, trimEnd, List.getLast?_reverse] at last
  rw [last] at stop
  exact stop

theorem dropWhile_between {a : Char} (first : p a = false) (before after : Text) :
    (before ++ a :: after).dropWhile p = before.dropWhile p ++ a :: after := by
  rw [List.dropWhile_append, List.dropWhile_cons_of_neg (by simp [first])]
  split
  · rename_i empty
    rw [List.isEmpty_iff.mp empty, List.nil_append]
  · rfl

theorem trimEnd_between {a : Char} (last : p a = false) (before after : Text) :
    trimEnd p (before ++ a :: after) = before ++ a :: trimEnd p after := by
  have turned := dropWhile_between last after.reverse before.reverse
  simp [trimEnd, turned]

theorem trim_between {a b : Char} (first : p a = false) (last : p b = false)
    (before middle after : Text) :
    trim p (before ++ a :: (middle ++ b :: after)) =
      before.dropWhile p ++ a :: (middle ++ b :: trimEnd p after) := by
  have parts := trimEnd_between last (before.dropWhile p ++ a :: middle) after
  rw [trim, dropWhile_between first]
  simpa using parts

theorem trim_frame {lead body trail : Text} (front : ∀ c ∈ lead, p c = true)
    (back : ∀ c ∈ trail, p c = true) (plain : ∀ c ∈ body, p c = false) :
    trim p (lead ++ body ++ trail) = body := by
  have noBack : trimEnd p trail = [] := by simpa [trimEnd] using back
  have start : (lead ++ body ++ trail).dropWhile p = (body ++ trail).dropWhile p := by
    rw [List.append_assoc, List.dropWhile_append_of_pos front]
  rw [trim, start]
  cases body with
  | nil =>
    rw [List.nil_append, List.dropWhile_eq_nil_iff.mpr back]
    rfl
  | cons a body =>
    rw [List.cons_append, List.dropWhile_cons_of_neg (by simp [plain a List.mem_cons_self])]
    obtain ⟨middle, b, shape⟩ : ∃ middle b, a :: body = middle ++ [b] :=
      ⟨_, _, (List.dropLast_append_getLast (List.cons_ne_nil a body)).symm⟩
    have parts := trimEnd_between (plain b (by simp [shape])) middle trail
    rw [← List.cons_append, shape, List.append_assoc, List.singleton_append, parts, noBack]

theorem letter_or_digit {c : Char} (ascii : isAscii c = true) :
    (isLetter c || isDigit c) = c.isAlphanum := by
  rw [(classes_of_ascii ascii).2.2, isLetter, if_pos ascii]
  rfl

end Text

namespace Word

/-- A run of `n` underscores between two letters or digits. -/
def InnerRun (n : Nat) (name : Text) : Prop :=
  ∃ before a b after, name = before ++ a :: (List.replicate n '_' ++ b :: after) ∧
    a.isAlphanum = true ∧ b.isAlphanum = true

theorem underscore_of_plain {c : Char} (plain : c.isAlphanum = true) : (c == '_') = false := by
  refine beq_false_of_ne fun same => ?_
  rw [same] at plain
  cases plain

theorem ascii_of_plain {name : Text} (plain : ∀ c ∈ name, c.isAlphanum = true ∨ c = '_') :
    ∀ c ∈ name, Text.isAscii c = true := by
  intro c member
  rcases plain c member with letter | rfl
  · exact Text.isAscii_of_plain letter
  · rfl

theorem isMixedSnake_framed {lead body trail : Text} (front : ∀ c ∈ lead, (c == '_') = true)
    (back : ∀ c ∈ trail, (c == '_') = true) (plain : ∀ c ∈ body, c.isAlphanum = true) :
    isMixedSnake (lead ++ body ++ trail) = false := by
  rw [isMixedSnake, Text.trim_frame front back fun c member => underscore_of_plain (plain c member)]
  exact isJoined_plain _ (underscore_not_mem plain)

theorem InnerRun.mem {n : Nat} {name : Text} (runs : InnerRun n name) (some : 1 ≤ n) :
    '_' ∈ name := by
  obtain ⟨before, a, b, after, rfl, -⟩ := runs
  simp [Nat.ne_of_gt some]

theorem innerRun_trim {n : Nat} {name : Text} :
    InnerRun n (name.trim (· == '_')) ↔ InnerRun n name := by
  constructor
  · rintro ⟨before, a, b, after, core, first, last⟩
    refine ⟨name.leading (· == '_') ++ before, a, b, after ++ name.trailing (· == '_'), ?_, first,
      last⟩
    have whole := Text.framed (· == '_') name
    rw [core] at whole
    simpa using whole.symm
  · rintro ⟨before, a, b, after, rfl, first, last⟩
    have kept := Text.trim_between (p := (· == '_')) (underscore_of_plain first)
      (underscore_of_plain last) before (List.replicate n '_') after
    exact ⟨_, a, b, _, kept, first, last⟩

theorem exists_first {t : Text} (other : ∃ c ∈ t, c ≠ '_') :
    ∃ j b rest, t = List.replicate j '_' ++ b :: rest ∧ b ≠ '_' := by
  induction t with
  | nil => simp at other
  | cons c t ih =>
    by_cases sign : c = '_'
    · have later : ∃ c ∈ t, c ≠ '_' := by simpa [sign] using other
      obtain ⟨j, b, rest, shape, plain⟩ := ih later
      exact ⟨j + 1, b, rest, by rw [sign, shape, List.replicate_succ, List.cons_append], plain⟩
    · exact ⟨0, c, t, rfl, sign⟩

theorem exists_last {t : Text} (other : ∃ c ∈ t, c ≠ '_') :
    ∃ front a i, t = front ++ a :: List.replicate i '_' ∧ a ≠ '_' := by
  obtain ⟨i, a, front, shape, plain⟩ := @exists_first t.reverse (by simpa using other)
  refine ⟨front.reverse, a, i, ?_, plain⟩
  rw [← List.reverse_reverse t, shape]
  simp

theorem exists_innerRun {front back : Text} (n : Nat)
    (plain : ∀ c ∈ front ++ back, c.isAlphanum = true ∨ c = '_')
    (before : ∃ c ∈ front, c ≠ '_') (after : ∃ c ∈ back, c ≠ '_') :
    ∃ m, n ≤ m ∧ InnerRun m (front ++ (List.replicate n '_' ++ back)) := by
  obtain ⟨front, a, i, rfl, first⟩ := exists_last before
  obtain ⟨j, b, back, rfl, last⟩ := exists_first after
  refine ⟨i + n + j, by omega, front, a, b, back, ?_, ?_, ?_⟩
  · simp [← List.replicate_append_replicate]
  · simpa [first] using plain a (by simp)
  · simpa [last] using plain b (by simp)

theorem isMixedSnake_pieces {name : Text} (plain : ∀ c ∈ name, c.isAlphanum = true ∨ c = '_') :
    isMixedSnake name = true ↔ 2 ≤ ((name.trim (· == '_')).splitOn '_').length ∧
      [] ∉ (name.trim (· == '_')).splitOn '_' := by
  have letters : ∀ piece ∈ (name.trim (· == '_')).splitOn '_',
      piece.all (fun c => Text.isLetter c || Text.isDigit c) = true := by
    intro piece listed
    rw [List.all_eq_true]
    intro c member
    have inside : c ∈ name := Text.mem_of_mem_trim (Text.mem_of_mem_splitOn listed member)
    have other : c ≠ '_' := fun same => Text.not_mem_of_mem_splitOn listed (same ▸ member)
    have letter : c.isAlphanum = true := by simpa [other] using plain c inside
    rw [Text.letter_or_digit (Text.isAscii_of_plain letter), letter]
  rw [isMixedSnake, isJoined, Bool.and_eq_true, decide_eq_true_iff, List.all_eq_true]
  refine and_congr_right fun _ => ?_
  constructor
  · intro filled empty
    simpa using filled [] empty
  · intro filled piece listed
    have nonempty : piece ≠ [] := fun same => filled (same ▸ listed)
    simp [nonempty, letters piece listed]

theorem words_of_mixed {name : Text} (mixed : isMixedSnake name = true) :
    2 ≤ ((name.trim (· == '_')).splitOn '_').length ∧
      ∀ word ∈ (name.trim (· == '_')).splitOn '_', word ≠ [] ∧
        ∀ c ∈ word, (Text.isLetter c || Text.isDigit c) = true := by
  rw [isMixedSnake, isJoined, Bool.and_eq_true, decide_eq_true_iff, List.all_eq_true] at mixed
  refine ⟨mixed.1, ?_⟩
  intro word listed
  have letters := mixed.2 word listed
  rw [Bool.and_eq_true, List.all_eq_true] at letters
  exact ⟨by simpa using letters.1, letters.2⟩

theorem plain_of_mixed {name : Text} (ascii : ∀ c ∈ name, Text.isAscii c = true)
    (mixed : isMixedSnake name = true) :
    ∀ word ∈ (name.trim (· == '_')).splitOn '_', ∀ c ∈ word, c.isAlphanum = true := by
  intro word listed c member
  have inside : c ∈ name := Text.mem_of_mem_trim (Text.mem_of_mem_splitOn listed member)
  rw [← Text.letter_or_digit (ascii c inside)]
  exact ((words_of_mixed mixed).2 word listed).2 c member

section Pieces

variable {t : Text}

theorem two_pieces (member : '_' ∈ t) : 2 ≤ (t.splitOn '_').length := by
  obtain ⟨front, back, rfl⟩ := List.append_of_mem member
  have first := List.length_pos_iff.mpr (Text.splitOn_ne_nil '_' front)
  have second := List.length_pos_iff.mpr (Text.splitOn_ne_nil '_' back)
  rw [Text.splitOn_between, List.length_append]
  omega

theorem nil_mem_of_innerRun {n : Nat} (runs : InnerRun n t) (many : 2 ≤ n) :
    [] ∈ t.splitOn '_' := by
  obtain ⟨before, a, b, after, rfl, -⟩ := runs
  obtain ⟨k, rfl⟩ := Nat.exists_eq_add_of_le' many
  have parts : before ++ a :: (List.replicate (k + 2) '_' ++ b :: after) =
      (before ++ [a]) ++ '_' :: ('_' :: (List.replicate k '_' ++ b :: after)) := by
    simp [List.replicate_succ]
  rw [parts, Text.splitOn_between]
  refine List.mem_append_right _ ?_
  rw [Text.splitOn, if_pos rfl]
  exact List.mem_cons_self

variable (plain : ∀ c ∈ t, c.isAlphanum = true ∨ c = '_')

include plain

theorem innerRun_of_pieces (two : 2 ≤ (t.splitOn '_').length) (filled : [] ∉ t.splitOn '_') :
    ∃ n, 1 ≤ n ∧ InnerRun n t := by
  have others : ∀ piece ∈ t.splitOn '_', ∃ c ∈ piece, c ≠ '_' := by
    intro piece listed
    have nonempty : piece ≠ [] := fun same => filled (same ▸ listed)
    obtain ⟨c, member⟩ := List.exists_mem_of_ne_nil piece nonempty
    exact ⟨c, member, fun same => Text.not_mem_of_mem_splitOn listed (same ▸ member)⟩
  have whole := Text.joinWith_splitOn '_' t
  match pieces : t.splitOn '_' with
  | [] => simp [pieces] at two
  | [piece] => simp [pieces] at two
  | first :: second :: more =>
    rw [pieces] at whole others
    have shape : t = first ++ (List.replicate 1 '_' ++ Text.joinWith ['_'] (second :: more)) := by
      rw [← whole]
      simp [Text.joinWith]
    obtain ⟨c, member, other⟩ := others second (by simp)
    have later : c ∈ Text.joinWith ['_'] (second :: more) :=
      Text.mem_joinWith List.mem_cons_self member
    rw [shape]
    refine exists_innerRun 1 ?_ (others first List.mem_cons_self) ⟨c, later, other⟩
    intro x inside
    apply plain
    rw [shape]
    rcases List.mem_append.mp inside with front | back
    · simp [front]
    · simp [back]

theorem innerRun_of_nil_mem (head : ∀ c ∈ t.head?, (c == '_') = false)
    (last : ∀ c ∈ t.getLast?, (c == '_') = false) (nonempty : t ≠ [])
    (empty : [] ∈ t.splitOn '_') :
    ∃ n, 2 ≤ n ∧ InnerRun n t := by
  rcases Text.nil_mem_splitOn empty with nothing | first | final | ⟨front, back, rfl⟩
  · exact absurd nothing nonempty
  · cases head '_' first
  · cases last '_' final
  · have before : ∃ c ∈ front, c ≠ '_' := by
      cases front with
      | nil => cases head '_' rfl
      | cons c front => exact ⟨c, List.mem_cons_self, by simpa using head c rfl⟩
    have after : ∃ c ∈ back, c ≠ '_' := by
      rcases List.eq_nil_or_concat' back with rfl | ⟨back, c, rfl⟩
      · cases last '_' (by simp)
      · have shape : front ++ '_' :: '_' :: (back ++ [c]) =
            (front ++ '_' :: '_' :: back) ++ [c] := by simp
        rw [shape] at last
        exact ⟨c, by simp, by simpa using last c List.getLast?_concat⟩
    refine exists_innerRun 2 ?_ before after
    intro x inside
    apply plain
    rcases List.mem_append.mp inside with here | there
    · simp [here]
    · simp [there]

end Pieces

/-- A name of letters, digits and underscores is in snake case when the underscores between others
stand alone, and there are some. -/
theorem isMixedSnake_iff {name : Text} (plain : ∀ c ∈ name, c.isAlphanum = true ∨ c = '_') :
    isMixedSnake name = true ↔
      (∃ n, 1 ≤ n ∧ InnerRun n name) ∧ ∀ n, 2 ≤ n → ¬ InnerRun n name := by
  have inside : ∀ c ∈ name.trim (· == '_'), c.isAlphanum = true ∨ c = '_' := by
    intro c member
    exact plain c (Text.mem_of_mem_trim member)
  rw [isMixedSnake_pieces plain]
  simp only [← @innerRun_trim _ name]
  constructor
  · rintro ⟨two, filled⟩
    refine ⟨innerRun_of_pieces inside two filled, ?_⟩
    intro n many runs
    exact filled (nil_mem_of_innerRun runs many)
  · rintro ⟨⟨n, some, runs⟩, alone⟩
    have member := runs.mem some
    refine ⟨two_pieces member, fun empty => ?_⟩
    obtain ⟨m, many, doubled⟩ := innerRun_of_nil_mem inside (Text.trim_head name)
      (Text.trim_last name) (List.ne_nil_of_mem member) empty
    exact alone m many doubled

theorem snakeTexts_run {t : Text} {sign : Bool} (nonempty : t ≠ [])
    (same : ∀ c ∈ t, (c == '_') = sign) : snakeTexts t = [t] := by
  apply List.splitBy_of_isChain nonempty
  apply List.Pairwise.isChain
  apply List.pairwise_of_forall_mem_list
  intro a first b second
  simp [same a first, same b second]

theorem snakeTexts_append {front back : Text} {sign : Bool}
    (last : ∀ c ∈ front.getLast?, (c == '_') = sign)
    (head : ∀ c ∈ back.head?, (c == '_') = !sign) :
    snakeTexts (front ++ back) = snakeTexts front ++ snakeTexts back := by
  apply List.splitBy_append
  intro a before b behind
  rw [last a before, head b behind]
  cases sign <;> rfl

theorem joined_head {first : Text} (filled : first ≠ []) (plain : '_' ∉ first)
    (rest : List Text) :
    ∀ c ∈ (Text.joinWith ['_'] (first :: rest)).head?, (c == '_') = false := by
  obtain ⟨a, more, rfl⟩ := List.exists_cons_of_ne_nil filled
  have head : (Text.joinWith ['_'] ((a :: more) :: rest)).head? = some a := by
    cases rest <;> rfl
  intro c start
  rw [head] at start
  cases start
  exact beq_false_of_ne fun same => plain (by simp [same])

theorem snakeTexts_joined {first : Text} {rest : List Text}
    (words : ∀ word ∈ first :: rest, word ≠ [] ∧ '_' ∉ word) :
    snakeTexts (Text.joinWith ['_'] (first :: rest)) =
      first :: rest.flatMap fun word => [['_'], word] := by
  induction rest generalizing first with
  | nil =>
    obtain ⟨filled, plain⟩ := words first List.mem_cons_self
    apply snakeTexts_run filled
    intro c member
    exact beq_false_of_ne fun same => plain (same ▸ member)
  | cons next rest ih =>
    obtain ⟨⟨filled, plain⟩, later⟩ := List.forall_mem_cons.mp words
    have signs : ∀ c ∈ first, (c == '_') = false := by
      intro c member
      exact beq_false_of_ne fun same => plain (same ▸ member)
    obtain ⟨nextFilled, nextPlain⟩ := later next List.mem_cons_self
    have inner : snakeTexts (['_'] ++ Text.joinWith ['_'] (next :: rest)) =
        ['_'] :: next :: rest.flatMap fun word => [['_'], word] := by
      rw [@snakeTexts_append _ _ true (by simp) (joined_head nextFilled nextPlain rest), ih later]
      rfl
    have shape : Text.joinWith ['_'] (first :: next :: rest) =
        first ++ (['_'] ++ Text.joinWith ['_'] (next :: rest)) := by
      simp [Text.joinWith]
    have last : ∀ c ∈ first.getLast?, (c == '_') = false := by
      intro c final
      exact signs c (List.mem_of_getLast? final)
    rw [shape, snakeTexts_append last (by simp), inner, snakeTexts_run filled signs]
    rfl

end Word

namespace Casing

open Word

/-- One word or run of underscores put behind what is written so far. The flag tells whether a word
has been written. -/
def write (last : Nat) (written : Text × Bool) (entry : Word × Nat) : Text × Bool :=
  let (out, seen) := written
  let (word, i) := entry
  if word.kind = .underscores then
    (if i = 0 || i = last then out ++ word.text else out, seen)
  else if seen || (word.text.head?.any Text.isUpper) then (out ++ Text.capitalize word.text, true)
  else (out ++ Text.lowercase word.text, true)

theorem camelize_eq (words : List Word) :
    camelize words = (words.zipIdx.foldl (write (words.length - 1)) ([], false)).1 := rfl

theorem write_edge {blank : Text} (signs : blank.all (· == '_') = true) {last i : Nat}
    (edge : i = 0 ∨ i = last) (out : Text) (seen : Bool) :
    write last (out, seen) (ofText blank, i) = (out ++ blank, seen) := by
  have kind := (ofText_underscores blank).mpr signs
  rw [write, if_pos kind]
  simp [edge, ofText]

theorem write_between {blank : Text} (signs : blank.all (· == '_') = true) {last i : Nat}
    (between : i ≠ 0 ∧ i ≠ last) (out : Text) (seen : Bool) :
    write last (out, seen) (ofText blank, i) = (out, seen) := by
  have kind := (ofText_underscores blank).mpr signs
  rw [write, if_pos kind]
  simp [between]

theorem write_word {word : Text} (plain : word.all (· == '_') = false) (last i : Nat) (out : Text)
    (seen : Bool) : write last (out, seen) (ofText word, i) =
      (out ++ if seen || word.head?.any Text.isUpper then Text.capitalize word
        else Text.lowercase word, true) := by
  have kind : (ofText word).kind ≠ .underscores := by simp [ofText_underscores, plain]
  rw [write, if_neg kind]
  change (if seen || word.head?.any Text.isUpper then _ else _) = _
  split <;> rfl

theorem foldl_write {last k : Nat} {rest : List Text}
    (words : ∀ word ∈ rest, word.all (· == '_') = false)
    (inside : 0 < k) (fits : k + 2 * rest.length ≤ last + 1) (out : Text) :
    ((rest.flatMap fun word => [ofText ['_'], ofText word]).zipIdx k).foldl (write last)
      (out, true) = (out ++ rest.flatMap Text.capitalize, true) := by
  induction rest generalizing k out with
  | nil => simp
  | cons word rest ih =>
    rw [List.forall_mem_cons] at words
    rw [List.length_cons] at fits
    have between : k ≠ 0 ∧ k ≠ last := by omega
    have next := ih words.2 (k := k + 1 + 1) (by omega) (by omega)
    rw [List.flatMap_cons, List.cons_append, List.singleton_append, List.zipIdx_cons,
      List.zipIdx_cons, List.foldl_cons, List.foldl_cons, write_between rfl between,
      write_word words.1, next]
    simp

theorem foldl_leading {lead : Text} (signs : ∀ c ∈ lead, (c == '_') = true) (last : Nat) :
    (((snakeTexts lead).map ofText).zipIdx).foldl (write last) ([], false) = (lead, false) := by
  cases lead with
  | nil => rfl
  | cons c lead =>
    rw [snakeTexts_run (List.cons_ne_nil c lead) signs]
    exact write_edge (List.all_eq_true.mpr signs) (.inl rfl) [] false

theorem foldl_trailing {trail : Text} (signs : ∀ c ∈ trail, (c == '_') = true) {last k : Nat}
    (ends : k + (snakeTexts trail).length = last + 1) (out : Text) :
    (((snakeTexts trail).map ofText).zipIdx k).foldl (write last) (out, true) =
      (out ++ trail, true) := by
  cases trail with
  | nil => simp [snakeTexts]
  | cons c trail =>
    rw [snakeTexts_run (List.cons_ne_nil c trail) signs] at ends ⊢
    have here : k = last := by simpa using ends
    exact write_edge (List.all_eq_true.mpr signs) (.inr here) out true

def camelWords : List Text → Text
  | [] => []
  | first :: rest =>
    (if first.head?.any Text.isUpper then Text.capitalize first else Text.lowercase first) ++
      rest.flatMap Text.capitalize

section Framed

variable {lead core trail : Text} (front : ∀ c ∈ lead, (c == '_') = true)
  (back : ∀ c ∈ trail, (c == '_') = true) (head : ∀ c ∈ core.head?, (c == '_') = false)
  (last : ∀ c ∈ core.getLast?, (c == '_') = false) (nonempty : core ≠ [])

include front back head last nonempty

theorem snakeTexts_framed : snakeTexts (lead ++ core ++ trail) =
    snakeTexts lead ++ (snakeTexts core ++ snakeTexts trail) := by
  have start : ∀ c ∈ (core ++ trail).head?, (c == '_') = false := by
    obtain ⟨a, more, rfl⟩ := List.exists_cons_of_ne_nil nonempty
    exact head
  have leadLast : ∀ c ∈ lead.getLast?, (c == '_') = true := by
    intro c final
    exact front c (List.mem_of_getLast? final)
  have trailHead : ∀ c ∈ trail.head?, (c == '_') = true := by
    intro c first
    exact back c (List.mem_of_mem_head? first)
  rw [List.append_assoc, snakeTexts_append leadLast start, snakeTexts_append last trailHead]

theorem camelize_framed (words : ∀ word ∈ core.splitOn '_', word ≠ [] ∧ '_' ∉ word) :
    camelize (snake (lead ++ core ++ trail)) =
      lead ++ camelWords (core.splitOn '_') ++ trail := by
  have body := Text.joinWith_splitOn '_' core
  have texts := snakeTexts_framed front back head last nonempty
  obtain ⟨first, rest, pieces⟩ := List.exists_cons_of_ne_nil (Text.splitOn_ne_nil '_' core)
  rw [pieces] at body words
  rw [← body, snakeTexts_joined words, body] at texts
  have plain : ∀ word ∈ first :: rest, word.all (· == '_') = false := by
    intro word listed
    obtain ⟨filled, free⟩ := words word listed
    obtain ⟨c, member⟩ := List.exists_mem_of_ne_nil word filled
    refine Bool.eq_false_iff.mpr fun blank => free ?_
    rwa [← eq_of_beq (List.all_eq_true.mp blank c member)]
  rw [List.forall_mem_cons] at plain
  have entries : snake (lead ++ core ++ trail) = (snakeTexts lead).map ofText ++
      (ofText first :: ((rest.flatMap fun word => [ofText ['_'], ofText word]) ++
        (snakeTexts trail).map ofText)) := by
    rw [snake, texts]
    simp [List.map_flatMap]
  have pairs : (rest.flatMap fun word => [ofText ['_'], ofText word]).length = 2 * rest.length := by
    simp [List.length_flatMap, Nat.mul_comm]
  have length : (snake (lead ++ core ++ trail)).length - 1 =
      (snakeTexts lead).length + 2 * rest.length + (snakeTexts trail).length := by
    rw [entries, List.length_append, List.length_cons, List.length_append, pairs, List.length_map,
      List.length_map]
    omega
  rw [camelize_eq, length, entries, List.zipIdx_append, List.foldl_append, foldl_leading front,
    List.zipIdx_cons, List.foldl_cons, write_word plain.1, List.zipIdx_append, List.foldl_append,
    foldl_write plain.2 (by omega) (by rw [List.length_map]; omega), foldl_trailing back, pieces,
    camelWords]
  · simp
  · rw [List.length_map, pairs]
    omega

end Framed

theorem camelize_mixed {name : Text} (mixed : isMixedSnake name = true) :
    camelize (snake name) = name.leading (· == '_') ++
      camelWords ((name.trim (· == '_')).splitOn '_') ++ name.trailing (· == '_') := by
  obtain ⟨two, filled⟩ := words_of_mixed mixed
  have words : ∀ word ∈ (name.trim (· == '_')).splitOn '_', word ≠ [] ∧ '_' ∉ word := by
    intro word listed
    exact ⟨(filled word listed).1, Text.not_mem_of_mem_splitOn listed⟩
  have nonempty : name.trim (· == '_') ≠ [] := by
    intro empty
    simp [empty, Text.splitOn] at two
  have framed := camelize_framed (Text.leading_all name) (Text.trailing_all name)
    (Text.trim_head name) (Text.trim_last name) nonempty words
  rwa [Text.framed] at framed

end Casing

end ScriptLint
