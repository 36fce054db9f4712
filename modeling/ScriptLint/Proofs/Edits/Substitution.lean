import Mathlib
import ScriptLint.Proofs.BinarySearch
import ScriptLint.Proofs.Edits.Overlaps

/-!
Applying edits one by one is substitution at once.

The last edit is made first. It leaves the text in front of it as it was, so the edits that are
still to come fit the changed text as they fit the first one. In the end the text is made of the
gaps between the edits and of the replacements, from left to right.
-/
namespace ScriptLint

namespace Text

theorem before_append_slice {t : Text} {a b : Nat} (fit : Span.Fits ⟨a, b⟩ t) :
    t.before a ++ t.slice ⟨a, b⟩ = t.before b := by
  obtain ⟨p, r, whole, start, stop⟩ := slice_parts fit.forward fit.first fit.last
  have first : t.before a = p := by
    rw [whole]
    exact before_append start
  have last : t.before b = p ++ t.slice ⟨a, b⟩ := by
    conv_lhs => rw [whole, ← List.append_assoc]
    exact before_append (by rwa [size_append])
  rw [first, last]

end Text

namespace Edit

/-- The text from `start` to `stop` with the edits in it made: a gap, a replacement, and so on. -/
def weave (text : Text) (stop : Nat) : Nat → List Edit → Text
  | start, [] => text.slice ⟨start, stop⟩
  | start, e :: es =>
    text.slice ⟨start, e.span.start⟩ ++ e.replacement ++ weave text stop e.span.stop es

def substitute (text : Text) (es : List Edit) : Text := weave text text.size 0 es

/-- Edits from left to right, and the gaps between them, are ranges of the text. -/
inductive Laid (text : Text) (stop : Nat) : Nat → List Edit → Prop where
  | nil {start : Nat} (gap : Span.Fits ⟨start, stop⟩ text) : Laid text stop start []
  | cons {start : Nat} {e : Edit} {es : List Edit} (gap : Span.Fits ⟨start, e.span.start⟩ text)
      (own : e.span.Fits text) (rest : Laid text stop e.span.stop es) :
      Laid text stop start (e :: es)

section Steps

variable {text : Text} {stop start : Nat} {e : Edit} {es : List Edit}

theorem splice_before (fit : e.span.Fits text) (rest : Text) :
    splice (text.before e.span.stop ++ rest) e =
      text.before e.span.start ++ e.replacement ++ rest := by
  have size := (Text.boundary_parts fit.first).2
  have size' := (Text.boundary_parts fit.last).2
  have inside : (text.before e.span.stop ++ rest).before e.span.start =
      text.before e.span.start := by
    rw [← Text.before_append_slice fit, List.append_assoc]
    exact Text.before_append size
  rw [splice, inside, Text.after_append size']

theorem fits_before (fit : e.span.Fits text) (rest : Text) :
    e.span.Fits (text.before e.span.stop ++ rest) := by
  have size := (Text.boundary_parts fit.first).2
  have size' := (Text.boundary_parts fit.last).2
  constructor
  · exact fit.forward
  · rw [← Text.before_append_slice fit, List.append_assoc]
    exact Text.isBoundary_iff.mpr ⟨_, _, rfl, size⟩
  · exact Text.isBoundary_iff.mpr ⟨_, _, rfl, size'⟩

theorem foldr_splice (laid : Laid text text.size start es) :
    es.foldr (fun e t => splice t e) text = text.before start ++ weave text text.size start es := by
  induction laid with
  | nil gap => rw [List.foldr_nil, weave, Text.before_append_slice gap, Text.before_size]
  | cons gap own rest ih =>
    rw [List.foldr_cons, ih, splice_before own, weave, ← Text.before_append_slice gap]
    simp only [List.append_assoc]

theorem Laid.suffix {front : List Edit} (laid : Laid text stop start (front ++ es)) :
    ∃ place, Laid text stop place es := by
  induction front generalizing start with
  | nil => exact ⟨start, laid⟩
  | cons e front ih =>
    cases laid with
    | cons gap own rest => exact ih rest

theorem Laid.step_fits {front : List Edit}
    (laid : Laid text text.size start (front ++ e :: es)) :
    e.span.Fits (es.foldr (fun e t => splice t e) text) := by
  obtain ⟨place, laid⟩ := laid.suffix
  cases laid with
  | cons gap own rest =>
    rw [foldr_splice rest]
    exact fits_before own _

theorem laid_of_precede (fit : ∀ e ∈ es, e.span.Fits text) (order : es.Pairwise Precedes)
    (boundary : text.isBoundary start = true) (behind : ∀ e ∈ es, start ≤ e.span.start) :
    Laid text text.size start es := by
  induction es generalizing start with
  | nil => exact .nil ⟨Text.boundary_le boundary, boundary, text.isBoundary_size⟩
  | cons e es ih =>
    obtain ⟨first, others⟩ := List.forall_mem_cons.mp fit
    obtain ⟨before, order⟩ := List.pairwise_cons.mp order
    have gap : Span.Fits ⟨start, e.span.start⟩ text := ⟨behind e (by simp), boundary, first.first⟩
    apply Laid.cons gap first
    apply ih others order first.last
    intro x member
    exact (before x member).2

end Steps

section Split

variable {text : Text} {stop start place : Nat} {es : List Edit}
  (inside : place ≤ stop) (boundary : text.isBoundary place = true)
  (behind : ∀ e ∈ es, place ≤ e.span.start)

include inside boundary behind

theorem Laid.skip (laid : Laid text stop start es) (after : start ≤ place) :
    Laid text stop place es ∧
      weave text stop start es = text.slice ⟨start, place⟩ ++ weave text stop place es := by
  cases laid with
  | nil gap =>
    constructor
    · exact .nil ⟨inside, boundary, gap.last⟩
    · exact (Text.slice_append after inside gap.first boundary gap.last).symm
  | @cons _ e es gap own rest =>
    have order := behind e (by simp)
    constructor
    · exact .cons ⟨order, boundary, gap.last⟩ own rest
    · rw [weave, weave, ← Text.slice_append after order gap.first boundary gap.last]
      simp only [List.append_assoc]

theorem Laid.split {front : List Edit} (laid : Laid text stop start (front ++ es))
    (after : start ≤ place) (before : ∀ e ∈ front, e.span.stop ≤ place) :
    Laid text place start front ∧ Laid text stop place es ∧
      weave text stop start (front ++ es) =
        weave text place start front ++ weave text stop place es := by
  induction front generalizing start with
  | nil =>
    obtain ⟨rest, same⟩ := Laid.skip inside boundary behind laid after
    have first : text.isBoundary start = true := by
      cases laid with
      | nil gap => exact gap.first
      | cons gap own rest => exact gap.first
    exact ⟨.nil ⟨after, first, boundary⟩, rest, same⟩
  | cons e front ih =>
    cases laid with
    | cons gap own rest =>
      obtain ⟨first, others⟩ := List.forall_mem_cons.mp before
      obtain ⟨laidFront, laidRest, same⟩ := ih rest first others
      refine ⟨.cons gap own laidFront, laidRest, ?_⟩
      rw [List.cons_append, weave, weave, same]
      simp only [List.append_assoc]

end Split

section Kept

variable {text : Text} {stop start : Nat} {es : List Edit}

def removed (es : List Edit) : Nat := (es.map fun e => e.span.stop - e.span.start).sum

def added (es : List Edit) : Nat := (es.map fun e => e.replacement.size).sum

def upTo (place : Nat) (es : List Edit) : List Edit :=
  es.filter fun e => e.span.stop ≤ place

theorem size_weave (laid : Laid text stop start es) :
    (weave text stop start es).size + start + removed es = stop + added es := by
  induction laid with
  | @nil start gap =>
    have forward := gap.forward
    have size := Text.size_slice gap.forward gap.first gap.last
    simp only [weave, removed, added, List.map_nil, List.sum_nil] at *
    omega
  | @cons start e es gap own rest ih =>
    have before := gap.forward
    have forward := own.forward
    have size := Text.size_slice gap.forward gap.first gap.last
    simp only [weave, removed, added, List.map_cons, List.sum_cons, Text.size_append] at *
    omega

theorem upTo_perm {es' : List Edit} (same : es.Perm es') (place : Nat) :
    removed (upTo place es) = removed (upTo place es') ∧
      added (upTo place es) = added (upTo place es') := by
  have front : (upTo place es).Perm (upTo place es') := same.filter _
  exact ⟨(front.map _).sum_eq, (front.map _).sum_eq⟩

theorem upTo_append (order : es.Pairwise Precedes) (fit : ∀ e ∈ es, e.span.Fits text)
    (place : Nat) : ∃ others, es = upTo place es ++ others ∧
      ∀ e ∈ others, e ∈ es ∧ place < e.span.stop := by
  have partitioned : Partitioned (fun e : Edit => decide (e.span.stop ≤ place)) es := by
    apply order.imp_of_mem
    intro a b _ member before inside
    have forward := (fit b member).forward
    simp only [Precedes, decide_eq_true_eq] at *
    omega
  refine ⟨es.dropWhile fun e => e.span.stop ≤ place, ?_, ?_⟩
  · rw [upTo, ← takeWhile_eq_filter partitioned, List.takeWhile_append_dropWhile]
  · intro e member
    rw [dropWhile_eq_filter partitioned] at member
    simpa using member

/-- A range that no edit touches is found again behind what the edits in front of it have made. -/
theorem substitute_keeps (fit : ∀ e ∈ es, e.span.Fits text) (order : es.Pairwise Precedes)
    {kept : Span} (range : kept.Fits text)
    (free : ∀ e ∈ es, e.span.stop ≤ kept.start ∨ kept.stop ≤ e.span.start) :
    ∃ front back, substitute text es = front ++ text.slice kept ++ back ∧
      front.size + removed (upTo kept.start es) = kept.start + added (upTo kept.start es) := by
  have forward := range.forward
  have bound := Text.boundary_le range.last
  obtain ⟨others, whole, later⟩ := upTo_append order fit kept.start
  have before : ∀ e ∈ upTo kept.start es, e.span.stop ≤ kept.start := by
    intro e member
    simpa using (List.mem_filter.mp member).2
  have behind : ∀ e ∈ others, kept.stop ≤ e.span.start := by
    intro e member
    obtain ⟨listed, stop⟩ := later e member
    have side := free e listed
    omega
  have laid : Laid text text.size 0 (upTo kept.start es ++ others) := by
    rw [← whole]
    exact laid_of_precede fit order text.isBoundary_zero fun e _ => Nat.zero_le _
  obtain ⟨laidFront, laidOthers, same⟩ := Laid.split (Nat.le_trans forward bound) range.first
    (fun e member => Nat.le_trans forward (behind e member)) laid (Nat.zero_le _) before
  obtain ⟨-, skipped⟩ := Laid.skip bound range.last behind laidOthers forward
  refine ⟨weave text kept.start 0 (upTo kept.start es), weave text text.size kept.stop others,
    ?_, ?_⟩
  · conv_lhs => rw [whole]
    rw [substitute, same, skipped, List.append_assoc]
  · have size := size_weave laidFront
    omega

end Kept

section Order

theorem sorted_startsAfter (es : List Edit) :
    (es.mergeSort startsAfter).Pairwise fun a b => b.span.start ≤ a.span.start := by
  have ordered : (es.mergeSort startsAfter).Pairwise fun a b => a.startsAfter b = true := by
    apply List.pairwise_mergeSort
    · intro a b c
      simp only [startsAfter, decide_eq_true_eq]
      omega
    · intro a b
      simp only [startsAfter, Bool.or_eq_true, decide_eq_true_eq]
      omega
  simpa [startsAfter] using ordered

variable {text : Text} {es : List Edit} (fit : ∀ e ∈ es, e.span.Fits text)
  (apart : es.Pairwise fun a b => a.overlaps b = false)

include fit apart

theorem precede_of_sorted {sorted : List Edit} (same : sorted.Perm es)
    (order : sorted.Pairwise fun a b => a.span.start ≤ b.span.start) :
    sorted.Pairwise Precedes := by
  apply precede_of_neighbours
  · intro e member
    exact (fit e (same.mem_iff.mp member)).forward
  · exact order
  · exact ((apart_perm same).mpr apart).isChain

theorem laid_of_sorted {sorted : List Edit} (same : sorted.Perm es)
    (order : sorted.Pairwise fun a b => a.span.start ≤ b.span.start) :
    Laid text text.size 0 sorted := by
  apply laid_of_precede
  · intro e member
    exact fit e (same.mem_iff.mp member)
  · exact precede_of_sorted fit apart same order
  · exact text.isBoundary_zero
  · intro e _
    exact Nat.zero_le _

theorem mergeSort_startsAfter {sorted : List Edit} (same : sorted.Perm es)
    (order : sorted.Pairwise fun a b => a.span.start ≤ b.span.start) :
    es.mergeSort startsAfter = sorted.reverse := by
  have perm := List.mergeSort_perm es startsAfter
  have backwards : (es.mergeSort startsAfter).reverse.Perm es := (List.reverse_perm _).trans perm
  have order' : (es.mergeSort startsAfter).reverse.Pairwise
      fun a b => a.span.start ≤ b.span.start := by
    rw [List.pairwise_reverse]
    exact sorted_startsAfter es
  have equal : (es.mergeSort startsAfter).reverse = sorted := by
    apply List.Perm.eq_of_pairwise _ (precede_of_sorted fit apart backwards order')
      (precede_of_sorted fit apart same order) (backwards.trans same.symm)
    intro a b _ _ first second
    exact absurd second first.asymm
  rw [← equal, List.reverse_reverse]

end Order

theorem applyAll_eq (text : Text) (es : List Edit) :
    applyAll text es =
      (checkAll text es).map fun _ => (es.mergeSort startsAfter).foldl splice text := by
  cases es with
  | nil => simp [applyAll, checkAll, checkEach, checkNeighbours, Except.map]
  | cons e es =>
    rw [applyAll]
    · cases checkAll text (e :: es) <;> rfl
    · simp

theorem applyAll_eq_ok_iff {text fixed : Text} {es : List Edit} :
    applyAll text es = .ok fixed ↔
      checkAll text es = .ok () ∧ (es.mergeSort startsAfter).foldl splice text = fixed := by
  rw [applyAll_eq]
  cases checkAll text es with
  | ok => simp [Except.map]
  | error cause => simp [Except.map]

theorem applyAll_eq_splice {text : Text} {e : Edit} (fit : e.span.Fits text) :
    applyAll text [e] = .ok (splice text e) := by
  have checked : checkAll text [e] = .ok () := by
    rw [checkAll_eq_ok_iff, List.forall_mem_singleton]
    exact ⟨fit, List.pairwise_singleton _ _⟩
  refine applyAll_eq_ok_iff.mpr ⟨checked, ?_⟩
  rw [List.mergeSort_singleton]
  rfl

theorem splice_same_size {text : Text} {e : Edit} (fit : e.span.Fits text)
    (room : e.replacement.size = e.span.stop - e.span.start) :
    (splice text e).size = text.size ∧
      (splice text e).before e.span.start = text.before e.span.start ∧
      (splice text e).after e.span.stop = text.after e.span.stop := by
  have forward := fit.forward
  obtain ⟨-, start⟩ := Text.boundary_parts fit.first
  obtain ⟨whole, stop⟩ := Text.boundary_parts fit.last
  have sizes : Text.size (text.before e.span.start ++ e.replacement) = e.span.stop := by
    rw [Text.size_append, start, room]
    omega
  refine ⟨?_, ?_, Text.after_append sizes⟩
  · conv_rhs => rw [whole]
    rw [splice, Text.size_append, Text.size_append _ (text.after _), sizes, stop]
  · rw [splice, List.append_assoc]
    exact Text.before_append start

theorem foldl_splice {text : Text} {es sorted : List Edit} (checked : checkAll text es = .ok ())
    (same : sorted.Perm es) (order : sorted.Pairwise fun a b => a.span.start ≤ b.span.start) :
    (es.mergeSort startsAfter).foldl splice text = substitute text sorted := by
  obtain ⟨fit, apart⟩ := checkAll_eq_ok_iff.mp checked
  have laid := laid_of_sorted fit apart same order
  have nothing : text.before 0 = [] := @Text.before_append [] text 0 rfl
  rw [mergeSort_startsAfter fit apart same order, List.foldl_reverse, foldr_splice laid, nothing]
  rfl

theorem splice_fits {text : Text} {es made rest : List Edit} {e : Edit}
    (checked : checkAll text es = .ok ()) (turn : es.mergeSort startsAfter = made ++ e :: rest) :
    e.check (made.foldl splice text) = .ok () := by
  obtain ⟨fit, apart⟩ := checkAll_eq_ok_iff.mp checked
  have same := List.mergeSort_perm es startsBefore
  have laid := laid_of_sorted fit apart same (sorted_startsBefore es)
  have order := mergeSort_startsAfter fit apart same (sorted_startsBefore es)
  have parts : es.mergeSort startsBefore = rest.reverse ++ e :: made.reverse := by
    rw [← List.reverse_reverse (es.mergeSort startsBefore), ← order, turn]
    simp
  rw [parts] at laid
  have fits := laid.step_fits
  rw [List.foldr_reverse] at fits
  exact check_eq_ok_iff.mpr fits

theorem applyAll_perm {text : Text} {es es' : List Edit} (same : es.Perm es') (fixed : Text) :
    applyAll text es = .ok fixed ↔ applyAll text es' = .ok fixed := by
  have checks : checkAll text es = .ok () ↔ checkAll text es' = .ok () := by
    rw [checkAll_eq_ok_iff, checkAll_eq_ok_iff, apart_perm same]
    simp only [same.mem_iff]
  rw [applyAll_eq_ok_iff, applyAll_eq_ok_iff, ← checks]
  apply and_congr_right
  intro checked
  have order := List.mergeSort_perm es startsBefore
  rw [foldl_splice checked order (sorted_startsBefore es),
    foldl_splice (checks.mp checked) (order.trans same) (sorted_startsBefore es)]

/-- Edits are made at once. They are made when they pass the check. No step cuts into a character or
reaches behind the text, though the text has already changed. The result is made of the gaps and the
replacements in the order of the starts, so the order of the list does not matter, and a range of
the text that no edit touches is part of it. -/
theorem edits_apply_at_once (text : Text) (es : List Edit) :
    applyAll text [] = .ok text ∧
    ((∃ fixed, applyAll text es = .ok fixed) ↔ checkAll text es = .ok ()) ∧
    (∀ es', es.Perm es' →
      ∀ fixed, applyAll text es = .ok fixed ↔ applyAll text es' = .ok fixed) ∧
    ∀ fixed, applyAll text es = .ok fixed →
      (∀ made e rest, es.mergeSort startsAfter = made ++ e :: rest →
        e.check (made.foldl splice text) = .ok ()) ∧
      (∀ sorted, sorted.Perm es → (sorted.Pairwise fun a b => a.span.start ≤ b.span.start) →
        fixed = substitute text sorted) ∧
      ∀ kept : Span, kept.Fits text →
        (∀ e ∈ es, e.span.stop ≤ kept.start ∨ kept.stop ≤ e.span.start) →
        ∃ front back, fixed = front ++ text.slice kept ++ back ∧
          front.size + removed (upTo kept.start es) = kept.start + added (upTo kept.start es) := by
  refine ⟨rfl, ?_, ?_, ?_⟩
  · simp only [applyAll_eq_ok_iff]
    simp
  · intro es' same fixed
    exact applyAll_perm same fixed
  · intro fixed applied
    obtain ⟨checked, rfl⟩ := applyAll_eq_ok_iff.mp applied
    obtain ⟨fit, apart⟩ := checkAll_eq_ok_iff.mp checked
    refine ⟨?_, ?_, ?_⟩
    · intro made e rest turn
      exact splice_fits checked turn
    · intro sorted same order
      exact foldl_splice checked same order
    · intro kept range free
      have same := List.mergeSort_perm es startsBefore
      have order := precede_of_sorted fit apart same (sorted_startsBefore es)
      obtain ⟨removes, adds⟩ := upTo_perm same kept.start
      rw [foldl_splice checked same (sorted_startsBefore es), ← removes, ← adds]
      apply substitute_keeps _ order range
      · intro e member
        exact free e (same.mem_iff.mp member)
      · intro e member
        exact fit e (same.mem_iff.mp member)

theorem edits_apply_at_once_naive :
    applyAll "naïve".toList [⟨⟨4, 4⟩, ['-']⟩, ⟨⟨2, 4⟩, ['i']⟩] = .ok "nai-ve".toList ∧
      applyAll "naïve".toList [⟨⟨2, 4⟩, ['i']⟩, ⟨⟨4, 4⟩, ['-']⟩] = .ok "nai-ve".toList ∧
      ∃ front back, "nai-ve".toList = front ++ "ve".toList ++ back ∧ Text.size front = 4 := by
  have applied : applyAll "naïve".toList [⟨⟨4, 4⟩, ['-']⟩, ⟨⟨2, 4⟩, ['i']⟩] =
      .ok "nai-ve".toList := by cbv
  obtain ⟨-, -, reordered, made⟩ :=
    edits_apply_at_once "naïve".toList [⟨⟨4, 4⟩, ['-']⟩, ⟨⟨2, 4⟩, ['i']⟩]
  obtain ⟨-, -, keeps⟩ := made _ applied
  obtain ⟨front, back, whole, size⟩ := keeps ⟨4, 6⟩ (by decide) (by simp)
  refine ⟨applied, (reordered _ (List.Perm.swap _ _ []) _).mp applied, front, back, whole, ?_⟩
  exact Nat.add_right_cancel size

end Edit

end ScriptLint
