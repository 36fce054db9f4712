import ScriptLint.Proofs.Source.Lines
import ScriptLint.Proofs.Source.Neighbours
import ScriptLint.Reordering

/-!
Source files whose text was moved piece by piece.

An edit that rearranges a text leaves it in pieces that stand elsewhere. Tokens and comments move
with the piece that they are in. Whether two neighbours are adjacent is the same before and after
when one piece holds both of them and the text between; when two pieces meet between them, the
comments after the first one are those at the end of its piece and those at the start of the next.
-/
namespace ScriptLint

/-- A piece of a text and the offset at which it stands in another text. -/
structure Segment where
  source : Span
  target : Nat
  deriving DecidableEq, Repr

namespace Segment

def shift (g : Segment) (n : Nat) : Nat := n - g.source.start + g.target

def stop (g : Segment) : Nat := g.shift g.source.stop

def move (g : Segment) (s : Span) : Span := ⟨g.shift s.start, g.shift s.stop⟩

def Copies (g : Segment) (old new : Text) : Prop :=
  ∃ p m r p' r', old = p ++ (m ++ r) ∧ Text.size p = g.source.start ∧
    Text.size p + Text.size m = g.source.stop ∧ new = p' ++ (m ++ r') ∧ Text.size p' = g.target

end Segment

def relocate (layout : List Segment) (spans : List Span) : List Span :=
  layout.flatMap fun g => (spans.filter g.source.contains).map g.move

def within (lower upper : Nat) (spans : List Span) : List Span :=
  spans.filter fun s => lower ≤ s.start && s.stop ≤ upper

/-- Whether no line is left empty between an offset, the comments after it and a second offset. -/
def closeUp (line : Nat → Nat) (comments : List Span) (left right : Nat) : Bool :=
  match comments.head?, comments.getLast? with
  | some first, some last => line first.start - line left ≤ 1 && line right - line last.stop ≤ 1
  | _, _ => line right - line left ≤ 1

theorem closeUp_nil (line : Nat → Nat) (left right : Nat) :
    closeUp line [] left right = decide (line right - line left ≤ 1) :=
  rfl

theorem closeUp_ends {comments : List Span} {first last : Span}
    (head : comments.head? = some first) (final : comments.getLast? = some last)
    (line : Nat → Nat) (left right : Nat) :
    closeUp line comments left right =
      (decide (line first.start - line left ≤ 1) && decide (line right - line last.stop ≤ 1)) := by
  rw [closeUp, head, final]

theorem exists_ends {comments : List Span} (nonempty : comments ≠ []) :
    ∃ first last, comments.head? = some first ∧ comments.getLast? = some last :=
  ⟨comments.head nonempty, comments.getLast nonempty, List.head?_eq_some_head nonempty,
    List.getLast?_eq_some_getLast nonempty⟩

theorem Span.contains_iff {s t : Span} :
    s.contains t = true ↔ s.start ≤ t.start ∧ t.stop ≤ s.stop := by
  simp only [Span.contains, Bool.and_eq_true, decide_eq_true_eq]

theorem mem_relocate {layout : List Segment} {spans : List Span} {s : Span} :
    s ∈ relocate layout spans ↔
      ∃ g ∈ layout, ∃ t ∈ spans, g.source.start ≤ t.start ∧ t.stop ≤ g.source.stop ∧ g.move t = s := by
  simp only [relocate, List.mem_flatMap, List.mem_map, List.mem_filter, Span.contains,
    Bool.and_eq_true, decide_eq_true_eq, and_assoc]

theorem relocate_append (front back : List Segment) (spans : List Span) :
    relocate (front ++ back) spans = relocate front spans ++ relocate back spans :=
  List.flatMap_append

theorem within_append (lower upper : Nat) (spans others : List Span) :
    within lower upper (spans ++ others) = within lower upper spans ++ within lower upper others :=
  List.filter_append ..

theorem mem_within {lower upper : Nat} {spans : List Span} {s : Span} :
    s ∈ within lower upper spans ↔ s ∈ spans ∧ lower ≤ s.start ∧ s.stop ≤ upper := by
  simp only [within, List.mem_filter, Bool.and_eq_true, decide_eq_true_eq]

/-- Pieces in order that share no offset of the text in which they are put. -/
def Successive (layout : List Segment) : Prop := layout.Pairwise fun g h => g.stop ≤ h.target

theorem successive_split {front back : List Segment} {g : Segment}
    (laid : Successive (front ++ g :: back)) :
    (∀ h ∈ front, h.stop ≤ g.target) ∧ ∀ h ∈ back, g.stop ≤ h.target := by
  obtain ⟨-, rest, across⟩ := List.pairwise_append.mp laid
  constructor
  · intro h member
    exact across h member g List.mem_cons_self
  · exact (List.pairwise_cons.mp rest).1

theorem relocate_ordered {layout : List Segment} {spans : List Span} (laid : Successive layout)
    (ordered : Ordered spans) : Ordered (relocate layout spans) := by
  constructor
  · intro s member
    obtain ⟨g, -, t, inside, lower, upper, rfl⟩ := mem_relocate.mp member
    have forward := ordered.forward t inside
    simp only [Segment.move, Segment.shift]
    omega
  · unfold relocate
    rw [List.flatMap_def, List.pairwise_flatten]
    constructor
    · intro moved member
      obtain ⟨g, -, rfl⟩ := List.mem_map.mp member
      rw [List.pairwise_map]
      apply (ordered.apart.sublist List.filter_sublist).imp
      intro a b before
      simp only [Segment.move, Segment.shift]
      omega
    · rw [List.pairwise_map]
      apply laid.imp
      intro g h before a first b second
      obtain ⟨s, kept, rfl⟩ := List.mem_map.mp first
      obtain ⟨t, -, rfl⟩ := List.mem_map.mp second
      have inside := Span.contains_iff.mp (List.mem_filter.mp kept).2
      simp only [Segment.stop, Segment.shift] at before
      simp only [Segment.move, Segment.shift]
      omega

section Windows

variable {spans : List Span} {lower upper : Nat}

theorem within_front (proper : ∀ s ∈ spans, s.start < s.stop) {layout : List Segment}
    (before : ∀ g ∈ layout, g.stop ≤ lower) : within lower upper (relocate layout spans) = [] := by
  rw [List.eq_nil_iff_forall_not_mem]
  intro s member
  obtain ⟨found, low, -⟩ := mem_within.mp member
  obtain ⟨g, here, t, inside, first, last, rfl⟩ := mem_relocate.mp found
  have := before g here
  have := proper t inside
  simp only [Segment.move, Segment.stop, Segment.shift] at *
  omega

theorem within_back (proper : ∀ s ∈ spans, s.start < s.stop) {layout : List Segment}
    (after : ∀ g ∈ layout, upper ≤ g.target) : within lower upper (relocate layout spans) = [] := by
  rw [List.eq_nil_iff_forall_not_mem]
  intro s member
  obtain ⟨found, -, high⟩ := mem_within.mp member
  obtain ⟨g, here, t, inside, first, last, rfl⟩ := mem_relocate.mp found
  have := after g here
  have := proper t inside
  simp only [Segment.move, Segment.shift] at *
  omega

theorem within_segment (forward : ∀ s ∈ spans, s.start ≤ s.stop) (g : Segment) {low high : Nat}
    (start : g.source.start ≤ low) (stop : high ≤ g.source.stop)
    (first : ∀ n, g.source.start ≤ n → (lower ≤ g.shift n ↔ low ≤ n))
    (last : ∀ n, g.source.start ≤ n → n ≤ g.source.stop → (g.shift n ≤ upper ↔ n ≤ high)) :
    within lower upper (relocate [g] spans) = (within low high spans).map g.move := by
  unfold relocate within
  rw [List.flatMap_singleton, List.filter_map, List.filter_filter]
  congr 1
  apply List.filter_congr
  intro s member
  have ordered := forward s member
  rw [Bool.eq_iff_iff]
  simp only [Function.comp_apply, Span.contains, Bool.and_eq_true, decide_eq_true_eq]
  constructor
  · rintro ⟨⟨above, below⟩, left, right⟩
    exact ⟨(first _ left).mp above, (last _ (Nat.le_trans left ordered) right).mp below⟩
  · rintro ⟨above, below⟩
    have left := Nat.le_trans start above
    have right := Nat.le_trans below stop
    exact ⟨⟨(first _ left).mpr above, (last _ (Nat.le_trans left ordered) right).mpr below⟩,
      left, right⟩

end Windows

namespace SourceFile

theorem lineOf_shift {f f' : SourceFile} (lined : f.Lined) (lined' : f'.Lined) {g : Segment}
    (copies : g.Copies f.text f'.text) {i j : Nat}
    (first : g.source.start ≤ i ∧ i ≤ g.source.stop)
    (second : g.source.start ≤ j ∧ j ≤ g.source.stop) :
    f'.lineOf (g.shift j) - f'.lineOf (g.shift i) = f.lineOf j - f.lineOf i := by
  obtain ⟨p, m, r, p', r', whole, start, stop, whole', target⟩ := copies
  have fits : i - g.source.start ≤ Text.size m := by omega
  have fits' : j - g.source.start ≤ Text.size m := by omega
  have old := lineOf_sub lined whole fits fits'
  have new := lineOf_sub lined' whole' fits fits'
  rw [show Text.size p + (j - g.source.start) = j by omega,
    show Text.size p + (i - g.source.start) = i by omega] at old
  rw [target, Nat.add_comm g.target, Nat.add_comm g.target] at new
  exact new.trans old.symm

theorem closeUp_shift {f f' : SourceFile} (lined : f.Lined) (lined' : f'.Lined) {g : Segment}
    (copies : g.Copies f.text f'.text) {left right : Nat} (start : g.source.start ≤ left)
    (order : left ≤ right) (stop : right ≤ g.source.stop) {comments : List Span}
    (inside : ∀ s ∈ comments, left ≤ s.start ∧ s.start < s.stop ∧ s.stop ≤ right) :
    closeUp f'.lineOf (comments.map g.move) (g.shift left) (g.shift right) =
      closeUp f.lineOf comments left right := by
  have lines := fun i j : Nat => @lineOf_shift f f' lined lined' g copies i j
  by_cases empty : comments = []
  · rw [empty, List.map_nil, closeUp_nil, closeUp_nil, lines _ _ (by omega) (by omega)]
  · obtain ⟨c, d, head, final⟩ := exists_ends empty
    have := inside c (List.mem_of_mem_head? head)
    have := inside d (List.mem_of_getLast? final)
    have head' : (comments.map g.move).head? = some (g.move c) := by rw [List.head?_map, head]; rfl
    have final' : (comments.map g.move).getLast? = some (g.move d) := by
      rw [List.getLast?_map, final]
      rfl
    rw [closeUp_ends head final, closeUp_ends head' final', Segment.move, Segment.move,
      lines _ _ (by omega) (by omega), lines _ _ (by omega) (by omega)]

theorem commentsAfter_spans {f : SourceFile} (tokens : f.TokensOrdered)
    (comments : f.CommentsOrdered) (s : Span) :
    (f.commentsAfter s).map (·.span) =
      within s.stop (f.nextTokenStart s.stop) (f.comments.toList.map (·.span)) := by
  rw [commentsAfter_eq tokens comments, within, List.filter_map]
  rfl

theorem areAdjacent_eq (f : SourceFile) (left right : Span) :
    f.areAdjacent left right =
      closeUp f.lineOf ((f.commentsAfter left).map (·.span)) left.stop right.start := by
  simp only [areAdjacent, closeUp, List.head?_map, List.getLast?_map]
  cases (f.commentsAfter left).head? <;> cases (f.commentsAfter left).getLast? <;> rfl

theorem nextTokenStart_mem {f : SourceFile} {n : Nat} {t : Token} (member : t ∈ f.tokens.toList)
    (after : n ≤ t.span.start) :
    ∃ u ∈ f.tokens.toList, u.span.start = f.nextTokenStart n ∧ n ≤ f.nextTokenStart n := by
  have present : (f.tokens.toList.find? fun t => n ≤ t.span.start).isSome :=
    List.find?_isSome.mpr ⟨t, member, decide_eq_true after⟩
  obtain ⟨u, found⟩ := Option.isSome_iff_exists.mp present
  have start : f.nextTokenStart n = u.span.start := by
    unfold nextTokenStart
    rw [found]
    rfl
  have late := List.find?_some found
  rw [start]
  exact ⟨u, List.mem_of_find?_eq_some found, rfl, of_decide_eq_true late⟩

end SourceFile

/-- A file and the one that its pieces make up, with tokens and comments in their new places. -/
structure Relocated (layout : List Segment) (f f' : SourceFile) : Prop where
  tokensOrdered : f.TokensOrdered
  tokensProper : ∀ t ∈ f.tokens.toList, t.span.start < t.span.stop
  commentsOrdered : f.CommentsOrdered
  commentsProper : ∀ c ∈ f.comments.toList, c.span.start < c.span.stop
  lined : f.Lined
  lined' : f'.Lined
  successive : Successive layout
  copies : ∀ g ∈ layout, g.Copies f.text f'.text
  tokens : f'.tokens.toList.map (·.span) = relocate layout (f.tokens.toList.map (·.span))
  comments : f'.comments.toList.map (·.span) = relocate layout (f.comments.toList.map (·.span))

namespace Relocated

variable {layout : List Segment} {f f' : SourceFile}

theorem tokensOrdered' (moved : Relocated layout f f') : f'.TokensOrdered := by
  unfold SourceFile.TokensOrdered
  rw [moved.tokens]
  exact relocate_ordered moved.successive moved.tokensOrdered

theorem commentsOrdered' (moved : Relocated layout f f') : f'.CommentsOrdered := by
  unfold SourceFile.CommentsOrdered
  rw [moved.comments]
  exact relocate_ordered moved.successive moved.commentsOrdered

theorem comment_spans_proper (moved : Relocated layout f f') :
    ∀ s ∈ f.comments.toList.map (·.span), s.start < s.stop := by
  rw [List.forall_mem_map]
  exact moved.commentsProper

theorem comment_spans_forward (moved : Relocated layout f f') :
    ∀ s ∈ f.comments.toList.map (·.span), s.start ≤ s.stop := by
  intro s member
  exact Nat.le_of_lt (moved.comment_spans_proper s member)

theorem nextTokenStart_eq (moved : Relocated layout f f') {n m : Nat} (order : n ≤ m)
    (lands : ∃ g ∈ layout, ∃ t ∈ f.tokens.toList, g.source.contains t.span = true ∧
      g.shift t.span.start = m)
    (first : ∀ g ∈ layout, ∀ t ∈ f.tokens.toList, g.source.start ≤ t.span.start →
      t.span.start < t.span.stop → t.span.stop ≤ g.source.stop → n ≤ g.shift t.span.start →
      m ≤ g.shift t.span.start) :
    f'.nextTokenStart n = m := by
  obtain ⟨g, piece, t, token, inside, start⟩ := lands
  have there : g.move t.span ∈ f'.tokens.toList.map (·.span) := by
    rw [moved.tokens, mem_relocate]
    rw [Span.contains_iff] at inside
    exact ⟨g, piece, t.span, List.mem_map_of_mem token, inside.1, inside.2, rfl⟩
  obtain ⟨t', token', same⟩ := List.mem_map.mp there
  have start' : t'.span.start = m := by
    rw [same]
    exact start
  rw [SourceFile.nextTokenStart_eq moved.tokensOrdered' token' (by omega), start']
  intro u other after
  have found : u.span ∈ relocate layout (f.tokens.toList.map (·.span)) := by
    rw [← moved.tokens]
    exact List.mem_map_of_mem other
  obtain ⟨h, here, s, source, lower, upper, place⟩ := mem_relocate.mp found
  obtain ⟨t₀, token₀, rfl⟩ := List.mem_map.mp source
  rw [start', ← place]
  apply first h here t₀ token₀ lower (moved.tokensProper t₀ token₀) upper
  rw [← place] at after
  exact after

theorem commentsAfter' (moved : Relocated layout f f') (s : Span) :
    (f'.commentsAfter s).map (·.span) =
      within s.stop (f'.nextTokenStart s.stop)
        (relocate layout (f.comments.toList.map (·.span))) := by
  rw [SourceFile.commentsAfter_spans moved.tokensOrdered' moved.commentsOrdered', moved.comments]

section OnePiece

variable {front back : List Segment} {g : Segment} {n : Nat}

theorem nextTokenStart_shift (moved : Relocated (front ++ g :: back) f f')
    (start : g.source.start ≤ n) (next : n ≤ f.nextTokenStart n)
    (stop : f.nextTokenStart n ≤ g.source.stop)
    (lands : ∃ h ∈ front ++ g :: back, ∃ t ∈ f.tokens.toList, h.source.contains t.span = true ∧
      h.shift t.span.start = g.shift (f.nextTokenStart n)) :
    f'.nextTokenStart (g.shift n) = g.shift (f.nextTokenStart n) := by
  obtain ⟨before, after⟩ := successive_split moved.successive
  apply moved.nextTokenStart_eq _ lands
  · intro h member t token lower proper upper late
    rcases List.mem_append.mp member with early | later
    · have := before h early
      simp only [Segment.stop, Segment.shift] at *
      omega
    rcases List.mem_cons.mp later with rfl | later
    · have := SourceFile.nextTokenStart_le moved.tokensOrdered token
        (by simp only [Segment.shift] at late; omega : n ≤ t.span.start)
      simp only [Segment.shift] at *
      omega
    · have := after h later
      simp only [Segment.stop, Segment.shift] at *
      omega
  · simp only [Segment.shift]
    omega

theorem areAdjacent_shift (moved : Relocated (front ++ g :: back) f f') {left right left' right' : Span}
    (start : g.source.start ≤ left.stop) (next : left.stop ≤ f.nextTokenStart left.stop)
    (below : f.nextTokenStart left.stop ≤ right.start) (stop : right.start ≤ g.source.stop)
    (lands : ∃ h ∈ front ++ g :: back, ∃ t ∈ f.tokens.toList, h.source.contains t.span = true ∧
      h.shift t.span.start = g.shift (f.nextTokenStart left.stop))
    (first : left'.stop = g.shift left.stop) (second : right'.start = g.shift right.start) :
    f'.areAdjacent left' right' = f.areAdjacent left right := by
  obtain ⟨before, after⟩ := successive_split moved.successive
  have token := moved.nextTokenStart_shift start next (by omega) lands
  have comments : (f'.commentsAfter left').map (·.span) =
      ((f.commentsAfter left).map (·.span)).map g.move := by
    have early : ∀ h ∈ front, h.stop ≤ g.shift left.stop := by
      intro h member
      have := before h member
      simp only [Segment.shift]
      omega
    have late : ∀ h ∈ back, g.shift (f.nextTokenStart left.stop) ≤ h.target := by
      intro h member
      have := after h member
      simp only [Segment.stop, Segment.shift] at *
      omega
    rw [moved.commentsAfter', first, token, relocate_append, within_append,
      within_front moved.comment_spans_proper early, List.nil_append, ← List.singleton_append,
      relocate_append, within_append, within_back moved.comment_spans_proper late, List.append_nil,
      SourceFile.commentsAfter_spans moved.tokensOrdered moved.commentsOrdered]
    apply within_segment moved.comment_spans_forward g start (by omega)
    · intro k lower
      simp only [Segment.shift]
      omega
    · intro k lower upper
      simp only [Segment.shift]
      omega
  have inside : ∀ s ∈ (f.commentsAfter left).map (·.span),
      left.stop ≤ s.start ∧ s.start < s.stop ∧ s.stop ≤ right.start := by
    intro s member
    rw [SourceFile.commentsAfter_spans moved.tokensOrdered moved.commentsOrdered] at member
    obtain ⟨found, lower, upper⟩ := mem_within.mp member
    exact ⟨lower, moved.comment_spans_proper s found, by omega⟩
  rw [SourceFile.areAdjacent_eq, SourceFile.areAdjacent_eq, comments, first, second]
  exact SourceFile.closeUp_shift moved.lined moved.lined' (moved.copies g (by simp)) start
    (by omega) stop inside

end OnePiece

section TwoPieces

variable {front back : List Segment} {g h : Segment} {n m : Nat}

theorem after_second (moved : Relocated (front ++ g :: h :: back) f f') :
    ∀ k ∈ back, h.stop ≤ k.target := by
  have rest := (List.pairwise_append.mp moved.successive).2.1
  exact (List.pairwise_cons.mp (List.pairwise_cons.mp rest).2).1

theorem nextTokenStart_across (moved : Relocated (front ++ g :: h :: back) f f')
    (stop : n ≤ g.source.stop)
    (clear : ∀ t ∈ f.tokens.toList, g.source.contains t.span = true → t.span.start < n)
    (next : f.nextTokenStart h.source.start = m)
    (found : ∃ t ∈ f.tokens.toList, h.source.contains t.span = true ∧ t.span.start = m) :
    f'.nextTokenStart (g.shift n) = h.shift m := by
  obtain ⟨before, after⟩ := successive_split moved.successive
  have step := after h List.mem_cons_self
  obtain ⟨t, token, inside, first⟩ := found
  apply moved.nextTokenStart_eq
  · simp only [Segment.stop, Segment.shift] at *
    omega
  · exact ⟨h, by simp, t, token, inside, by rw [first]⟩
  · -- A token at or after the place stands in the next piece or in a later one.
    intro k member u other lower proper upper late
    rcases List.mem_append.mp member with early | later
    · have := before k early
      simp only [Segment.stop, Segment.shift] at *
      omega
    rcases List.mem_cons.mp later with rfl | later
    · have := clear u other (Span.contains_iff.mpr ⟨lower, upper⟩)
      simp only [Segment.shift] at *
      omega
    rcases List.mem_cons.mp later with rfl | later
    · have := SourceFile.nextTokenStart_le moved.tokensOrdered other lower
      simp only [Segment.shift] at *
      omega
    · have := moved.after_second k later
      have := Span.contains_iff.mp inside
      have := moved.tokensProper t token
      simp only [Segment.stop, Segment.shift] at *
      omega

theorem commentsAfter_across (moved : Relocated (front ++ g :: h :: back) f f')
    (start : g.source.start ≤ n) (stop : n ≤ g.source.stop)
    (clear : ∀ t ∈ f.tokens.toList, g.source.contains t.span = true → t.span.start < n)
    (next : f.nextTokenStart h.source.start = m)
    (found : ∃ t ∈ f.tokens.toList, h.source.contains t.span = true ∧ t.span.start = m)
    {s : Span} (here : s.stop = g.shift n) :
    (f'.commentsAfter s).map (·.span) =
      (within n g.source.stop (f.comments.toList.map (·.span))).map g.move ++
        (within h.source.start m (f.comments.toList.map (·.span))).map h.move := by
  have ceiling := moved.nextTokenStart_across stop clear next found
  obtain ⟨before, after⟩ := successive_split moved.successive
  have step := after h List.mem_cons_self
  obtain ⟨t, token, inside, first⟩ := found
  have proper := moved.tokensProper t token
  have bounds := Span.contains_iff.mp inside
  have early : ∀ k ∈ front, k.stop ≤ g.shift n := by
    intro k member
    have := before k member
    simp only [Segment.shift]
    omega
  have late : ∀ k ∈ back, h.shift m ≤ k.target := by
    intro k member
    have := moved.after_second k member
    simp only [Segment.stop, Segment.shift] at *
    omega
  rw [moved.commentsAfter', here, ceiling, relocate_append, within_append,
    within_front moved.comment_spans_proper early, List.nil_append, ← List.singleton_append,
    relocate_append, within_append, ← @List.singleton_append _ h back, relocate_append,
    within_append, within_back moved.comment_spans_proper late, List.append_nil]
  congr 1
  · apply within_segment moved.comment_spans_forward g start (Nat.le_refl _)
    · intro k lower
      simp only [Segment.shift]
      omega
    · intro k lower upper
      simp only [Segment.stop, Segment.shift] at *
      omega
  · apply within_segment moved.comment_spans_forward h (Nat.le_refl _) (by omega)
    · intro k lower
      simp only [Segment.stop, Segment.shift] at *
      omega
    · intro k lower upper
      simp only [Segment.shift]
      omega

end TwoPieces

end Relocated

end ScriptLint
