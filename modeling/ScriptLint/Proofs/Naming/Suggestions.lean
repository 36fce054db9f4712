import ScriptLint.Proofs.Naming.Acronyms
import ScriptLint.Proofs.Naming.SnakeNames

/-!
The spellings that are offered.

A spelling that is offered for a name of ASCII characters has the letters of the name in their
order and differs from it in case and, for a name in snake case, by the underscores between its
words. Names in snake case whose words have a letter in second place always get one: each capital
of it has a small letter behind it, so that it has no acronym.
-/
namespace ScriptLint

namespace Text

/-- The text without the underscores between its first and its last other character. -/
def withoutInner (t : Text) : Text :=
  t.leading (· == '_') ++ (t.trim (· == '_')).filter (· != '_') ++ t.trailing (· == '_')

section Case

theorem case_of_ascii {c : Char} (ascii : isAscii c = true) :
    c.toUpper.toLower = c.toLower ∧ c.toLower.toLower = c.toLower ∧
      c.toUpper.isAlphanum = c.isAlphanum ∧ c.toLower.isAlphanum = c.isAlphanum ∧
      c.toLower.isUpper = false ∧ c.toLower.isLower = c.isAlpha :=
  forall_ascii (P := fun c => c.toUpper.toLower = c.toLower ∧ c.toLower.toLower = c.toLower ∧
    c.toUpper.isAlphanum = c.isAlphanum ∧ c.toLower.isAlphanum = c.isAlphanum ∧
    c.toLower.isUpper = false ∧ c.toLower.isLower = c.isAlpha) (by decide) ascii

section Ascii

variable {t : Text} (ascii : ∀ c ∈ t, isAscii c = true)

include ascii

theorem flatMap_lowerChar : t.flatMap lowerChar = t.map Char.toLower := by
  induction t with
  | nil => rfl
  | cons c t ih =>
    rw [List.forall_mem_cons] at ascii
    rw [List.flatMap_cons, lowerChar, if_pos ascii.1, ih ascii.2]
    rfl

theorem lowercase_ascii : lowercase t = t.map Char.toLower := by
  have from_seen : ∀ seen, lowercaseFrom seen t = t.map Char.toLower := by
    induction t with
    | nil => exact fun seen => rfl
    | cons c t ih =>
      intro seen
      rw [List.forall_mem_cons] at ascii
      have other : c ≠ 'Σ' := by
        rintro rfl
        exact absurd ascii.1 (by decide)
      rw [lowercaseFrom, if_neg other, lowerChar, if_pos ascii.1, ih ascii.2]
      rfl
  exact from_seen []

theorem toLower_toLower : (t.map Char.toLower).map Char.toLower = t.map Char.toLower := by
  rw [List.map_map]
  apply List.map_congr_left
  intro c member
  exact (case_of_ascii (ascii c member)).2.1

theorem toLower_lowercase : (lowercase t).map Char.toLower = t.map Char.toLower := by
  rw [lowercase_ascii ascii, toLower_toLower ascii]

end Ascii

theorem capitalize_cons {c : Char} {t : Text} (ascii : ∀ x ∈ c :: t, isAscii x = true) :
    capitalize (c :: t) = c.toUpper :: t.map Char.toLower := by
  rw [List.forall_mem_cons] at ascii
  rw [capitalize, flatMap_lowerChar ascii.2, upperChar, if_pos ascii.1]
  rfl

theorem toLower_capitalize {t : Text} (ascii : ∀ c ∈ t, isAscii c = true) :
    (capitalize t).map Char.toLower = t.map Char.toLower := by
  cases t with
  | nil => rfl
  | cons c t =>
    rw [capitalize_cons ascii, List.map_cons, List.map_cons]
    rw [List.forall_mem_cons] at ascii
    rw [(case_of_ascii ascii.1).1, toLower_toLower ascii.2]

end Case

section Plain

variable {t : Text} (plain : ∀ c ∈ t, c.isAlphanum = true)

include plain

theorem plain_toLower : ∀ c ∈ t.map Char.toLower, c.isAlphanum = true := by
  intro c member
  obtain ⟨x, listed, rfl⟩ := List.mem_map.mp member
  rw [(case_of_ascii (isAscii_of_plain (plain x listed))).2.2.2.1]
  exact plain x listed

theorem plain_lowercase : ∀ c ∈ lowercase t, c.isAlphanum = true := by
  rw [lowercase_ascii fun c member => isAscii_of_plain (plain c member)]
  exact plain_toLower plain

theorem plain_capitalize : ∀ c ∈ capitalize t, c.isAlphanum = true := by
  cases t with
  | nil => nofun
  | cons b t =>
    rw [capitalize_cons fun c member => isAscii_of_plain (plain c member), List.forall_mem_cons]
    rw [List.forall_mem_cons] at plain
    constructor
    · rw [(case_of_ascii (isAscii_of_plain plain.1)).2.2.1]
      exact plain.1
    · exact plain_toLower plain.2

end Plain

structure Followed (t : Text) : Prop where
  inside : t.IsChain fun b c => b.isUpper = true → c.isLower = true
  last : ∀ c ∈ t.getLast?, c.isUpper = false

theorem followed_of_none {t : Text} (none : ∀ c ∈ t, c.isUpper = false) : Followed t := by
  constructor
  · apply List.Pairwise.isChain
    apply List.pairwise_of_forall_mem_list
    intro b first c second capital
    rw [none b first] at capital
    cases capital
  · intro c final
    exact none c (List.mem_of_getLast? final)

theorem Followed.append {s t : Text} (front : Followed s) (back : Followed t) :
    Followed (s ++ t) := by
  constructor
  · rw [List.isChain_append]
    refine ⟨front.inside, back.inside, ?_⟩
    intro b final c start capital
    rw [front.last b final] at capital
    cases capital
  · intro c final
    rw [List.getLast?_append] at final
    rcases Option.or_eq_some_iff.mp final with behind | ⟨-, before⟩
    · exact back.last c behind
    · exact front.last c before

theorem followed_flatMap {texts : List Text} {f : Text → Text}
    (each : ∀ t ∈ texts, Followed (f t)) : Followed (texts.flatMap f) := by
  induction texts with
  | nil => exact followed_of_none nofun
  | cons t texts ih =>
    rw [List.forall_mem_cons] at each
    exact each.1.append (ih each.2)

theorem followed_lowercase {t : Text} (ascii : ∀ c ∈ t, isAscii c = true) :
    Followed (lowercase t) := by
  rw [lowercase_ascii ascii]
  apply followed_of_none
  intro c member
  obtain ⟨x, listed, rfl⟩ := List.mem_map.mp member
  exact (case_of_ascii (ascii x listed)).2.2.2.2.1

theorem followed_capitalize {t : Text} (ascii : ∀ c ∈ t, isAscii c = true)
    (letter : t[1]?.any Char.isAlpha = true) : Followed (capitalize t) := by
  match t with
  | [] => cases letter
  | [b] => cases letter
  | b :: c :: t =>
    have small : c.toLower.isLower = true := by
      rw [(case_of_ascii (ascii c (by simp))).2.2.2.2.2]
      exact letter
    have later : ∀ x ∈ c :: t, isAscii x = true := fun x member =>
      ascii x (List.mem_cons_of_mem b member)
    have tail := followed_lowercase later
    rw [lowercase_ascii later] at tail
    rw [capitalize_cons ascii]
    constructor
    · exact List.isChain_cons_cons.mpr ⟨fun _ => small, tail.inside⟩
    · intro x final
      apply tail.last x
      simpa using final

end Text

theorem OneCharWords.not_rejects (policy : OneCharWords) {name : Text} (followed : name.Followed) :
    ¬ policy.Rejects name := by
  rintro ⟨before, word, after, rfl, acronym, -⟩
  rcases List.eq_nil_or_concat' word with rfl | ⟨word, c, rfl⟩
  · exact acronym.nonempty rfl
  · have capital : c.isUpper = true := acronym.capitals c (by simp)
    have ends := acronym.ends
    cases after with
    | nil =>
      have small := followed.last c (by simp)
      rw [capital] at small
      cases small
    | cons x after =>
      have pair := (List.isChain_append.mp followed.inside).2.2 c (by simp) x rfl
      have lower := pair capital
      have plain : x.isAlphanum = true := by simp [Char.isAlphanum, Char.isAlpha, lower]
      have other : x.isUpper = false ∧ x.isDigit = false := by
        simpa [lower] using Text.ascii_cases plain
      simp [Word.endsCapitals, other, plain] at ends

namespace Casing

section Recased

variable {texts : List Text} (ascii : ∀ t ∈ texts, ∀ x ∈ t, Text.isAscii x = true)

include ascii

theorem toLower_flatMap :
    (texts.flatMap Text.capitalize).map Char.toLower = texts.flatten.map Char.toLower := by
  induction texts with
  | nil => rfl
  | cons text texts ih =>
    rw [List.forall_mem_cons] at ascii
    rw [List.flatMap_cons, List.map_append, Text.toLower_capitalize ascii.1, ih ascii.2,
      List.flatten_cons, List.map_append]

theorem toLower_camelWords :
    (camelWords texts).map Char.toLower = texts.flatten.map Char.toLower := by
  cases texts with
  | nil => rfl
  | cons first rest =>
    rw [List.forall_mem_cons] at ascii
    rw [camelWords, List.map_append, toLower_flatMap ascii.2, List.flatten_cons, List.map_append]
    congr 1
    split
    · exact Text.toLower_capitalize ascii.1
    · exact Text.toLower_lowercase ascii.1

theorem toLower_recase (c : Casing) :
    (c.recase (texts.map Word.ofText)).map Char.toLower = texts.flatten.map Char.toLower := by
  have each : ∀ entry ∈ (texts.map Word.ofText).zipIdx,
      (if c.accepts (texts.map Word.ofText) entry.2 entry.1 then entry.1.text
        else Text.capitalize entry.1.text).map Char.toLower = entry.1.text.map Char.toLower := by
    intro entry member
    obtain ⟨text, listed, word⟩ := List.mem_map.mp (List.fst_mem_of_mem_zipIdx member)
    rw [← word]
    split
    · rfl
    · exact Text.toLower_capitalize (ascii text listed)
  rw [recase, List.map_flatMap]
  calc (texts.map Word.ofText).zipIdx.flatMap _
    _ = (texts.map Word.ofText).zipIdx.flatMap (fun entry => entry.1.text.map Char.toLower) :=
      List.flatMap_congr each
    _ = ((texts.map Word.ofText).zipIdx.map Prod.fst).flatMap
        (fun word => word.text.map Char.toLower) := by rw [List.flatMap_map]
    _ = texts.flatten.map Char.toLower := by
      rw [List.zipIdx_map_fst, List.flatMap_map, List.map_flatten]
      rfl

end Recased

/-- A spelling that is offered passes, and it is the name in another case, without the underscores
between the words of a name in snake case. -/
theorem suggestion_recases_name (c : Casing) (exempt : Bool) (name fixed : Text)
    (ascii : ∀ x ∈ name, Text.isAscii x = true)
    (offered : c.check exempt name = .invalid (some fixed)) :
    fixed ≠ [] ∧ fixed ≠ name ∧ c.check exempt fixed = .valid ∧
      fixed.map Char.toLower =
        (if Word.isMixedSnake name then name.withoutInner else name).map Char.toLower := by
  obtain ⟨judged, passes⟩ := check_offers_iff.mp offered
  obtain ⟨source, nonempty, changed⟩ := judge_offers judged
  refine ⟨nonempty, changed, check_valid_iff.mpr passes, ?_⟩
  rw [source]
  split
  · rename_i mixed
    have pieces : ∀ t ∈ (name.trim (· == '_')).splitOn '_', ∀ x ∈ t, Text.isAscii x = true := by
      intro t listed x member
      exact ascii x (Text.mem_of_mem_trim (Text.mem_of_mem_splitOn listed member))
    rw [camelize_mixed mixed, List.map_append, List.map_append, toLower_camelWords pieces,
      Text.splitOn_flatten, ← List.map_append, ← List.map_append]
    rfl
  · have words : ∀ t ∈ Word.camelTexts name, ∀ x ∈ t, Text.isAscii x = true := by
      intro t listed x member
      apply ascii
      rw [← Word.camelTexts_flatten ascii]
      exact List.mem_flatten_of_mem listed member
    rw [Word.camel, toLower_recase words, Word.camelTexts_flatten ascii]

theorem suggestion_recases_name_framed :
    (∀ x ∈ "__foo_BAR2_".toList, Text.isAscii x = true) ∧
      ({} : Casing).check false "__foo_BAR2_".toList = .invalid (some "__fooBar2_".toList) ∧
      ({} : Casing).check false "__fooBar2_".toList = .valid ∧
      "__fooBar2_".toList.map Char.toLower =
        (Text.withoutInner "__foo_BAR2_".toList).map Char.toLower := by
  have ascii : ∀ x ∈ "__foo_BAR2_".toList, Text.isAscii x = true := List.all_eq_true.mp rfl
  have offered : ({} : Casing).check false "__foo_BAR2_".toList =
      .invalid (some "__fooBar2_".toList) := by cbv
  have mixed : Word.isMixedSnake "__foo_BAR2_".toList = true := by cbv
  have recased := suggestion_recases_name {} false _ _ ascii offered
  rw [if_pos mixed] at recased
  exact ⟨ascii, offered, recased.2.2⟩

section Spelled

variable {words : List Text} (plain : ∀ word ∈ words, ∀ x ∈ word, x.isAlphanum = true)

include plain

theorem plain_camelWords : ∀ x ∈ camelWords words, x.isAlphanum = true := by
  cases words with
  | nil => nofun
  | cons first rest =>
    rw [List.forall_mem_cons] at plain
    rw [camelWords, List.forall_mem_append]
    constructor
    · split
      · exact Text.plain_capitalize plain.1
      · exact Text.plain_lowercase plain.1
    · intro x member
      obtain ⟨word, listed, inside⟩ := List.mem_flatMap.mp member
      exact Text.plain_capitalize (plain.2 word listed) x inside

theorem followed_camelWords (letter : ∀ word ∈ words, word[1]?.any Char.isAlpha = true) :
    (camelWords words).Followed := by
  have ascii : ∀ word ∈ words, ∀ x ∈ word, Text.isAscii x = true := fun word listed x member =>
    Text.isAscii_of_plain (plain word listed x member)
  cases words with
  | nil => exact Text.followed_of_none nofun
  | cons first rest =>
    rw [List.forall_mem_cons] at ascii letter
    have others : Text.Followed (rest.flatMap Text.capitalize) := by
      apply Text.followed_flatMap
      intro word listed
      exact Text.followed_capitalize (ascii.2 word listed) (letter.2 word listed)
    rw [camelWords]
    split
    · exact (Text.followed_capitalize ascii.1 letter.1).append others
    · exact (Text.followed_lowercase ascii.1).append others

end Spelled

theorem followed_of_underscores {t : Text} (signs : ∀ x ∈ t, (x == '_') = true) : t.Followed := by
  apply Text.followed_of_none
  intro x member
  rw [eq_of_beq (signs x member)]
  rfl

theorem camelWords_ne_nil {name : Text} (mixed : Word.isMixedSnake name = true)
    (ascii : ∀ x ∈ name, Text.isAscii x = true) :
    camelWords ((name.trim (· == '_')).splitOn '_') ≠ [] := by
  have spelled := toLower_camelWords fun word listed x member =>
    Text.isAscii_of_plain (Word.plain_of_mixed ascii mixed word listed x member)
  obtain ⟨first, rest, pieces⟩ :=
    List.exists_cons_of_ne_nil (Text.splitOn_ne_nil '_' (name.trim (· == '_')))
  have nonempty := ((Word.words_of_mixed mixed).2 first (by simp [pieces])).1
  intro empty
  rw [empty, pieces] at spelled
  simp [nonempty] at spelled

theorem framed_valid (c : Casing) (exempt : Bool) {lead body trail : Text}
    (front : ∀ x ∈ lead, (x == '_') = true) (back : ∀ x ∈ trail, (x == '_') = true)
    (plain : ∀ x ∈ body, x.isAlphanum = true) (followed : body.Followed) :
    c.judge exempt (lead ++ body ++ trail) = .valid := by
  have signs : ∀ x ∈ lead ++ body ++ trail, x.isAlphanum = true ∨ x = '_' := by
    simp only [List.forall_mem_append]
    exact ⟨⟨fun x member => .inr (eq_of_beq (front x member)),
      fun x member => .inl (plain x member)⟩, fun x member => .inr (eq_of_beq (back x member))⟩
  have framed := ((followed_of_underscores front).append followed).append
    (followed_of_underscores back)
  rw [judge_valid_iff c exempt (Word.ascii_of_plain signs)]
  exact .inr (.inr (.inr ⟨Word.isMixedSnake_framed front back plain,
    c.oneCharWords.not_rejects framed⟩))

/-- A name in snake case whose words have a letter in second place is written in camel case. -/
theorem snake_name_gets_camel_case (policy : OneCharWords) (name : Text)
    (ascii : ∀ x ∈ name, Text.isAscii x = true) (mixed : Word.isMixedSnake name = true)
    (constant : Word.isScreamingSnake name = false)
    (letter : ∀ word ∈ (name.trim (· == '_')).splitOn '_', word[1]?.any Char.isAlpha = true) :
    ({ oneCharWords := policy } : Casing).check false name =
      .invalid (some (name.leading (· == '_') ++
        camelWords ((name.trim (· == '_')).splitOn '_') ++ name.trailing (· == '_'))) := by
  have plain := Word.plain_of_mixed ascii mixed
  have letters := plain_camelWords plain
  have front := Text.leading_all (p := (· == '_')) name
  have back := Text.trailing_all (p := (· == '_')) name
  have nonempty := camelWords_ne_nil mixed ascii
  have followed := followed_camelWords plain letter
  have spelled := camelize_mixed mixed
  generalize name.leading (· == '_') = lead at *
  generalize name.trailing (· == '_') = trail at *
  generalize camelWords ((name.trim (· == '_')).splitOn '_') = body at *
  have changed : lead ++ body ++ trail ≠ name := by
    intro same
    have free := Word.isMixedSnake_framed front back letters
    rw [same, mixed] at free
    cases free
  rw [check_offers_iff]
  constructor
  · have judged : ({ oneCharWords := policy } : Casing).judge false name =
        .invalid (offer name (camelize (Word.snake name))) := by
      simp [judge, constant, mixed]
    rw [judged, spelled, offer, if_pos]
    simpa [nonempty] using changed
  · exact framed_valid _ false front back letters followed

theorem snake_name_gets_camel_case_acronym :
    (∀ x ∈ "_get_URL_of4__".toList, Text.isAscii x = true) ∧
      Word.isMixedSnake "_get_URL_of4__".toList = true ∧
      Word.isScreamingSnake "_get_URL_of4__".toList = false ∧
      (∀ word ∈ (Text.trim (· == '_') "_get_URL_of4__".toList).splitOn '_',
        word[1]?.any Char.isAlpha = true) ∧
      ({ oneCharWords := .never } : Casing).check false "_get_URL_of4__".toList =
        .invalid (some "_getUrlOf4__".toList) := by
  have ascii : ∀ x ∈ "_get_URL_of4__".toList, Text.isAscii x = true := List.all_eq_true.mp rfl
  have mixed : Word.isMixedSnake "_get_URL_of4__".toList = true := by cbv
  have constant : Word.isScreamingSnake "_get_URL_of4__".toList = false := by cbv
  have letter : ∀ word ∈ (Text.trim (· == '_') "_get_URL_of4__".toList).splitOn '_',
      word[1]?.any Char.isAlpha = true := List.all_eq_true.mp (by cbv)
  refine ⟨ascii, mixed, constant, letter, ?_⟩
  rw [snake_name_gets_camel_case .never _ ascii mixed constant letter]
  cbv

end Casing

end ScriptLint
