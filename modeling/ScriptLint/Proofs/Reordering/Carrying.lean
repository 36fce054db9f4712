import Mathlib
import ScriptLint.Proofs.Reordering.Sorting
import ScriptLint.Proofs.Syntax.Places

/-!
Sorting entries together with the text after them.

The text of the last entry ends at the closing brace, or at the `...` of a rest element before it.
The fragments that move make up the replaced slice, and at most a comma is new. A line comment
behind an entry ends before the next entry, the brace or the dots, so its line break goes along with
it, and nothing comes to stand behind it on its line.
-/
namespace ScriptLint

namespace Piece

theorem texts_carried_cons (f : SourceFile) (extra : Text) (stop : Nat) (s next : Span)
    (spans : List Span) :
    texts f extra (carried stop (s :: next :: spans)) =
      (f.slice s ++ f.slice ⟨s.stop, next.start⟩) ::
        texts f extra (carried stop (next :: spans)) := by
  cases spans <;> simp [carried, texts, text]

theorem flatten_texts_carried {f : SourceFile} {stop : Nat} {spans : List Span} {first last : Span}
    (extra : Text) (fit : SpansFit f.text spans) (head : spans.head? = some first)
    (final : spans.getLast? = some last) :
    (texts f extra (carried stop spans)).flatten =
      f.slice ⟨first.start, last.stop⟩ ++ extra ++ f.slice ⟨last.stop, stop⟩ := by
  induction spans generalizing first with
  | nil => simp at head
  | cons s spans ih =>
    obtain rfl : s = first := by simpa using head
    cases spans with
    | nil =>
      obtain rfl : s = last := by simpa using final
      simp [carried, texts, text]
    | cons next spans =>
      have rest := fit.sublist (List.sublist_cons_self s (next :: spans))
      have final' : (next :: spans).getLast? = some last := by simpa using final
      have own := fit.each s (by simp)
      have hull := rest.hull rfl final'
      have apart := (List.pairwise_cons.mp fit.apart).1 next (by simp)
      have front : f.slice s ++ f.slice ⟨s.stop, next.start⟩ = f.slice ⟨s.start, next.start⟩ :=
        Text.slice_append own.forward apart own.first own.last hull.first
      have both : f.slice ⟨s.start, next.start⟩ ++ f.slice ⟨next.start, last.stop⟩ =
          f.slice ⟨s.start, last.stop⟩ :=
        Text.slice_append (Nat.le_trans own.forward apart) hull.forward own.first hull.first
          hull.last
      rw [texts_carried_cons, List.flatten_cons, ih rest rfl final', front, ← both]
      simp only [List.append_assoc]

theorem texts_getElem? {f : SourceFile} {extra : Text} {pieces : List Piece} {i : Nat} {p : Piece}
    {fragment : Text} (piece : pieces[i]? = some p)
    (written : (texts f extra pieces)[i]? = some fragment) :
    ∃ front, fragment = front ++ f.slice ⟨p.entry.stop, p.stop⟩ := by
  fun_induction texts f extra pieces generalizing i with
  | case1 => simp at piece
  | case2 q =>
    cases i with
    | zero =>
      obtain rfl : q = p := by simpa using piece
      obtain rfl : q.text f extra = fragment := by simpa using written
      exact ⟨_, rfl⟩
    | succ i => simp at piece
  | case3 q r ps ih =>
    cases i with
    | zero =>
      obtain rfl : q = p := by simpa using piece
      obtain rfl : q.text f [] = fragment := by simpa using written
      exact ⟨_, rfl⟩
    | succ i => exact ih piece written

end Piece

namespace SourceFile

def nextMark? (f : SourceFile) (mark : Text) (offset : Nat) : Option Token :=
  f.tokens.toList.find? fun t => offset ≤ t.span.start && f.isPunctuator mark t

def firstMark? (f : SourceFile) (mark : Text) (s : Span) : Option Token :=
  f.tokens.toList.find? fun t => s.contains t.span && f.isPunctuator mark t

def restMark? (f : SourceFile) (last : Span) (closing : Token) : Option Token :=
  f.firstMark? ['.', '.', '.'] ⟨last.stop, closing.span.start⟩

def entriesEnd (f : SourceFile) (last : Span) (closing : Token) : Nat :=
  ((f.restMark? last closing).map (·.span.start)).getD closing.span.start

def missingComma (f : SourceFile) (last : Span) (closing : Token) : Text :=
  if f.restMark? last closing = none ∧
      f.firstMark? [','] ⟨last.stop, f.entriesEnd last closing⟩ = none then [',']
  else []

/-- Every line comment is directly followed by a line break. -/
def LineCommentsEnded (f : SourceFile) : Prop :=
  ∀ c ∈ f.comments.toList, c.kind = .line → f.slice ⟨c.span.stop, c.span.stop + 1⟩ = ['\n']

instance (f : SourceFile) : Decidable f.LineCommentsEnded :=
  inferInstanceAs (Decidable (∀ c ∈ _, _ → _))

section Ends

variable {f : SourceFile} {last : Span} {closing : Token}

theorem entriesEnd_mark (brace : f.nextMark? ['\x7d'] last.stop = some closing) :
    ∃ (t : Token) (rest : Text), last.stop ≤ t.span.start ∧
      t.span.start = f.entriesEnd last closing ∧
      (f.slice t.span = '\x7d' :: rest ∨ f.slice t.span = '.' :: rest) := by
  have holds := List.find?_some brace
  simp only [isPunctuator, tokenText, Bool.and_eq_true, beq_iff_eq, decide_eq_true_eq] at holds
  unfold entriesEnd
  cases dots : f.restMark? last closing with
  | none => exact ⟨closing, [], holds.1, rfl, Or.inl holds.2.2⟩
  | some t =>
    have inside := List.find?_some dots
    simp only [isPunctuator, tokenText, Span.contains, Bool.and_eq_true, beq_iff_eq,
      decide_eq_true_eq] at inside
    exact ⟨t, _, inside.1.1, rfl, Or.inr inside.2.2⟩

theorem entriesEnd_fits (brace : f.nextMark? ['\x7d'] last.stop = some closing) :
    last.stop ≤ f.entriesEnd last closing ∧
      f.text.isBoundary (f.entriesEnd last closing) = true := by
  obtain ⟨t, rest, after, start, mark⟩ := entriesEnd_mark brace
  have filled : f.text.slice t.span ≠ [] := by
    intro empty
    rw [slice, empty] at mark
    simp at mark
  rw [← start]
  exact ⟨after, (Text.slice_bounds filled).2.1⟩

theorem entriesEnd_solid (brace : f.nextMark? ['\x7d'] last.stop = some closing) (stop : Nat) :
    f.slice ⟨f.entriesEnd last closing, stop⟩ ≠ ['\n'] := by
  obtain ⟨t, rest, -, start, mark⟩ := entriesEnd_mark brace
  rw [← start]
  intro broken
  rcases mark with mark | mark
  · exact absurd (Text.slice_head_unique broken mark) (by decide)
  · exact absurd (Text.slice_head_unique broken mark) (by decide)

end Ends

variable {f : SourceFile} {c : Collation} {keys : List SortKey} {first last : SortKey}

theorem carryingEdit_marks (tokens : f.TokensOrdered) (head : keys.head? = some first)
    (final : keys.getLast? = some last) {closing : Token}
    (brace : f.nextMark? ['\x7d'] last.span.stop = some closing) :
    f.carryingEdit c keys = .ok (some ⟨⟨first.span.start, f.entriesEnd last.span closing⟩,
      (c.arrange (keys.map (·.name)) (Piece.texts f (f.missingComma last.span closing)
        (Piece.carried (f.entriesEnd last.span closing) (keys.map (·.span))))).flatten⟩) := by
  rw [nextMark?, ← punctuatorAfter?_eq tokens] at brace
  have edit := @carryingEdit_eq f c keys first last head final closing brace
  have rest : f.punctuatorBetween? ⟨last.span.stop, closing.span.start⟩ ['.', '.', '.'] =
      f.restMark? last.span closing := punctuatorBetween?_eq tokens _ _
  have comma : f.punctuatorBetween? ⟨last.span.stop, f.entriesEnd last.span closing⟩ [','] =
      f.firstMark? [','] ⟨last.span.stop, f.entriesEnd last.span closing⟩ :=
    punctuatorBetween?_eq tokens _ _
  have stop : ((f.restMark? last.span closing).map (·.span.start)).getD closing.span.start =
      f.entriesEnd last.span closing := rfl
  have added : (if (f.restMark? last.span closing).isNone &&
      !(f.firstMark? [','] ⟨last.span.stop, f.entriesEnd last.span closing⟩).isSome then [','] else
      []) = f.missingComma last.span closing := by
    rw [missingComma]
    simp [Option.isNone_iff_eq_none]
  simp only [rest, hasPunctuatorBetween, stop, comma, carriedTexts_eq, added] at edit
  exact edit

theorem carryingEdit_eq_error_iff (tokens : f.TokensOrdered) (head : keys.head? = some first)
    (final : keys.getLast? = some last) :
    f.carryingEdit c keys = .error (.noClosingBrace last.span) ↔
      ∀ t ∈ f.tokens.toList, f.isPunctuator ['\x7d'] t = true → t.span.start < last.span.stop := by
  cases brace : f.nextMark? ['\x7d'] last.span.stop with
  | none =>
    have missing := brace
    rw [nextMark?, ← punctuatorAfter?_eq tokens] at missing
    have behind := List.find?_eq_none.mp brace
    simp only [Bool.and_eq_true, decide_eq_true_eq, not_and] at behind
    rw [carryingEdit_unclosed head final missing]
    constructor
    · intro _ t member marked
      exact Nat.lt_of_not_le fun after => behind t member after marked
    · intro _
      rfl
  | some closing =>
    have holds := List.find?_some brace
    simp only [Bool.and_eq_true, decide_eq_true_eq] at holds
    rw [carryingEdit_marks tokens head final brace]
    constructor
    · intro failed
      cases failed
    · intro before
      have := before closing (List.mem_of_find?_eq_some brace) holds.2
      omega

/-- The line break after a line comment behind an entry belongs to the fragment of the entry. -/
theorem line_break_carried (fit : SpansFit f.text (keys.map (·.span))) {closing : Token}
    (brace : f.nextMark? ['\x7d'] last.span.stop = some closing)
    (solid : ∀ key ∈ keys, f.slice ⟨key.span.start, key.span.start + 1⟩ ≠ ['\n']) {p : Piece}
    (piece : p ∈ Piece.carried (f.entriesEnd last.span closing) (keys.map (·.span))) {n : Nat}
    (behind : p.entry.stop ≤ n) (inside : n ≤ p.stop) (broken : f.slice ⟨n, n + 1⟩ = ['\n']) :
    n < p.stop ∧ ∃ rest, f.slice ⟨p.entry.stop, p.stop⟩ =
      f.slice ⟨p.entry.stop, n⟩ ++ '\n' :: rest := by
  obtain ⟨entry, border⟩ := Piece.carried_stop piece
  have before : n < p.stop := by
    refine Nat.lt_of_le_of_ne inside fun same => ?_
    rcases border with stop | ⟨s, member, start⟩
    · rw [same, stop] at broken
      exact entriesEnd_solid brace _ broken
    · obtain ⟨key, listed, rfl⟩ := List.mem_map.mp member
      rw [same, start] at broken
      exact solid key listed broken
  obtain ⟨-, first, last'⟩ := Text.slice_bounds (by rw [← slice, broken]; simp :
    f.text.slice ⟨n, n + 1⟩ ≠ [])
  have stop : f.text.isBoundary p.stop = true := by
    rcases border with stop | ⟨s, member, start⟩
    · rw [stop]
      exact (entriesEnd_fits brace).2
    · rw [start]
      exact (fit.each s member).first
  have own := (fit.each p.entry entry).last
  have tail : f.slice ⟨n, n + 1⟩ ++ f.slice ⟨n + 1, p.stop⟩ = f.slice ⟨n, p.stop⟩ :=
    Text.slice_append (Nat.le_succ n) before first last' stop
  have whole : f.slice ⟨p.entry.stop, n⟩ ++ f.slice ⟨n, p.stop⟩ = f.slice ⟨p.entry.stop, p.stop⟩ :=
    Text.slice_append behind inside own first stop
  refine ⟨before, f.slice ⟨n + 1, p.stop⟩, ?_⟩
  rw [← whole, ← tail, broken]
  rfl

/-- Sorting entries with the text after them fails exactly when no closing brace comes behind the
last entry. Otherwise the edit goes to this brace, or to the first dots before it. It puts the
fragments in the order of their names. In their old order they make up the slice that they replace,
with a comma behind the last entry when that has none and no dots follow. If every line comment ends
in a line break and no entry starts at one, the break goes along with every comment. -/
theorem carrying_edit_permutes_entries (c : Collation) (tokens : f.TokensOrdered)
    (fit : SpansFit f.text (keys.map (·.span))) (head : keys.head? = some first)
    (final : keys.getLast? = some last) :
    (f.carryingEdit c keys = .error (.noClosingBrace last.span) ↔
      ∀ t ∈ f.tokens.toList, f.isPunctuator ['\x7d'] t = true → t.span.start < last.span.stop) ∧
    ∀ closing, f.nextMark? ['\x7d'] last.span.stop = some closing →
      let stop := f.entriesEnd last.span closing
      let comma := f.missingComma last.span closing
      let pieces := Piece.carried stop (keys.map (·.span))
      let fragments := Piece.texts f comma pieces
      (∃ moved,
        StablySorted (fun a b => c.compare a.1 b.1) ((keys.map (·.name)).zip fragments) moved ∧
        f.carryingEdit c keys =
          .ok (some ⟨⟨first.span.start, stop⟩, (moved.map Prod.snd).flatten⟩)) ∧
      f.slice ⟨first.span.start, stop⟩ =
        f.slice ⟨first.span.start, last.span.stop⟩ ++ f.slice ⟨last.span.stop, stop⟩ ∧
      fragments.flatten =
        f.slice ⟨first.span.start, last.span.stop⟩ ++ comma ++ f.slice ⟨last.span.stop, stop⟩ ∧
      (f.LineCommentsEnded →
        (∀ key ∈ keys, f.slice ⟨key.span.start, key.span.start + 1⟩ ≠ ['\n']) →
        ∀ comment ∈ f.comments.toList, comment.kind = .line →
        comment.span.start ≤ comment.span.stop →
        ∀ (i : Nat) (p : Piece) (fragment : Text),
          pieces[i]? = some p → fragments[i]? = some fragment →
          p.entry.stop ≤ comment.span.start → comment.span.stop ≤ p.stop →
          comment.span.stop < p.stop ∧ ∃ front rest,
            fragment = front ++ f.slice ⟨p.entry.stop, comment.span.stop⟩ ++ '\n' :: rest) := by
  refine ⟨carryingEdit_eq_error_iff tokens head final, fun closing brace => ?_⟩
  intro stop comma pieces fragments
  have headSpan : (keys.map (·.span)).head? = some first.span := by simp [head]
  have finalSpan : (keys.map (·.span)).getLast? = some last.span := by simp [final]
  obtain ⟨after, boundary⟩ := entriesEnd_fits brace
  have hull := fit.hull headSpan finalSpan
  refine ⟨?_, ?_, Piece.flatten_texts_carried comma fit headSpan finalSpan, ?_⟩
  · have lengths : fragments.length = (keys.map (·.name)).length := by
      rw [Piece.length_texts, Piece.length_carried, List.length_map, List.length_map]
    have moved := c.arrange_stablySorted Prod.fst ((keys.map (·.name)).zip fragments)
    rw [List.map_fst_zip (Nat.le_of_eq lengths.symm)] at moved
    refine ⟨_, moved, ?_⟩
    rw [← Collation.arrange_map, List.map_snd_zip (Nat.le_of_eq lengths)]
    exact carryingEdit_marks tokens head final brace
  · exact (Text.slice_append hull.forward after hull.first hull.last boundary).symm
  · intro ended solid comment listed line forward i p fragment piece written behind inside
    obtain ⟨before, rest, text⟩ := line_break_carried fit brace solid
      (List.mem_of_getElem? piece) (Nat.le_trans behind forward) inside (ended comment listed line)
    obtain ⟨front, whole⟩ := Piece.texts_getElem? piece written
    exact ⟨before, front, rest, by rw [whole, text, List.append_assoc]⟩

/-- The text `const {`, two entries with a line comment behind each of them, and `} = o;`. -/
def commentedEntries : SourceFile :=
  plainFile "const \x7b\n  b, // bee\n  a // ay\n\x7d = o;".toList
    [⟨.keyword, ⟨0, 5⟩⟩, ⟨.punctuator, ⟨6, 7⟩⟩, ⟨.identifier, ⟨10, 11⟩⟩,
      ⟨.punctuator, ⟨11, 12⟩⟩, ⟨.identifier, ⟨22, 23⟩⟩, ⟨.punctuator, ⟨30, 31⟩⟩,
      ⟨.punctuator, ⟨32, 33⟩⟩, ⟨.identifier, ⟨34, 35⟩⟩, ⟨.punctuator, ⟨35, 36⟩⟩]
    [⟨.line, ⟨13, 19⟩⟩, ⟨.line, ⟨24, 29⟩⟩]

theorem carrying_edit_permutes_entries_commented :
    let keys : List SortKey := [⟨⟨10, 11⟩, ['b']⟩, ⟨⟨22, 23⟩, ['a']⟩]
    commentedEntries.TokensOrdered ∧
      SpansFit commentedEntries.text (keys.map (·.span)) ∧ commentedEntries.LineCommentsEnded ∧
      (∀ key ∈ keys, commentedEntries.slice ⟨key.span.start, key.span.start + 1⟩ ≠ ['\n']) ∧
      (∃ moved, commentedEntries.carryingEdit {} keys =
        .ok (some ⟨⟨10, 30⟩, (moved.map Prod.snd).flatten⟩) ∧
        StablySorted (fun a b => Collation.compare {} a.1 b.1)
          [(['b'], "b, // bee\n  ".toList), (['a'], "a, // ay\n".toList)] moved) ∧
      ∃ front rest, "b, // bee\n  ".toList = front ++ ", // bee".toList ++ '\n' :: rest := by
  intro keys
  have tokens : commentedEntries.TokensOrdered := by decide
  have fit : SpansFit commentedEntries.text (keys.map (·.span)) := ⟨by decide, by decide⟩
  have ended : commentedEntries.LineCommentsEnded := by decide
  have solid : ∀ key ∈ keys,
      commentedEntries.slice ⟨key.span.start, key.span.start + 1⟩ ≠ ['\n'] := by decide
  obtain ⟨⟨moved, sorted, edit⟩, -, -, comments⟩ :=
    (carrying_edit_permutes_entries {} tokens fit rfl rfl).2 ⟨.punctuator, ⟨30, 31⟩⟩ (by decide)
  obtain ⟨-, carried⟩ := comments ended solid ⟨.line, ⟨13, 19⟩⟩ (by decide) rfl (by decide) 0
    ⟨⟨10, 11⟩, 22⟩ _ rfl rfl (by decide) (by decide)
  exact ⟨tokens, fit, ended, solid, ⟨moved, edit, sorted⟩, carried⟩

/-- An entry without any text that starts at the line break behind a comment takes the break away
from the comment. The closing brace then comes to stand behind it. -/
theorem empty_entry_takes_line_break :
    let keys : List SortKey := [⟨⟨10, 11⟩, ['b']⟩, ⟨⟨19, 19⟩, []⟩, ⟨⟨22, 23⟩, ['a']⟩]
    commentedEntries.TokensOrdered ∧
      SpansFit commentedEntries.text (keys.map (·.span)) ∧ commentedEntries.LineCommentsEnded ∧
      (∀ key ∈ keys, (commentedEntries.slice key.span).head? ≠ some '\n') ∧
      commentedEntries.carryingEdit {} keys =
        .ok (some ⟨⟨10, 30⟩, "\n  a, // ay\nb, // bee".toList⟩) ∧
      ¬ ∀ comment ∈ commentedEntries.comments.toList, comment.kind = .line →
        ∀ p ∈ Piece.carried 30 (keys.map (·.span)),
          p.entry.stop ≤ comment.span.start → comment.span.stop ≤ p.stop →
          comment.span.stop < p.stop := by
  intro keys
  refine ⟨by decide, ⟨by decide, by decide⟩, by decide, by decide, by cbv, ?_⟩
  intro carried
  have inside := carried ⟨.line, ⟨13, 19⟩⟩ (by decide) rfl ⟨⟨10, 11⟩, 19⟩ (by decide) (by decide)
    (by decide)
  exact absurd inside (by decide)

end SourceFile

end ScriptLint
