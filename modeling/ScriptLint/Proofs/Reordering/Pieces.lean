import ScriptLint.Proofs.Source.Neighbours
import ScriptLint.Proofs.Text.Slices
import ScriptLint.Reordering

/-!
Pieces of a text that an edit moves.

A piece is an entry with the text after it that goes along. The pieces and the gaps between
neighbours tile the span of an edit. An edit rearranges the pieces when its replacement holds the
text of each piece once, in some order, with other joints in place of the gaps.
-/
namespace ScriptLint

/-- Spans that follow one another from `start` to `stop` without a hole. -/
inductive Tiling : Nat → Nat → List Span → Prop where
  | nil (stop : Nat) : Tiling stop stop []
  | cons {start stop : Nat} {s : Span} {rest : List Span} (first : s.start = start)
      (forward : s.start ≤ s.stop) (tail : Tiling s.stop stop rest) : Tiling start stop (s :: rest)

def Span.Meets (a b : Span) : Prop :=
  a.start < b.stop ∧ b.start < a.stop ∧ a.start < a.stop ∧ b.start < b.stop

def Span.InOrBeside (inner outer : Span) : Prop :=
  inner.stop ≤ outer.start ∨ outer.stop ≤ inner.start ∨
    (outer.start ≤ inner.start ∧ inner.stop ≤ outer.stop)

instance (inner outer : Span) : Decidable (inner.InOrBeside outer) :=
  inferInstanceAs (Decidable (_ ∨ _ ∨ _))

structure Piece where
  entry : Span
  /-- Where the text ends that goes along with the entry. -/
  stop : Nat
  deriving DecidableEq, Repr

namespace Piece

def span (p : Piece) : Span := ⟨p.entry.start, p.stop⟩

def text (f : SourceFile) (extra : Text) (p : Piece) : Text :=
  f.slice p.entry ++ extra ++ f.slice ⟨p.entry.stop, p.stop⟩

structure Fits (t : Text) (p : Piece) : Prop where
  entry_forward : p.entry.start ≤ p.entry.stop
  forward : p.entry.stop ≤ p.stop
  start_boundary : t.isBoundary p.entry.start = true
  entry_boundary : t.isBoundary p.entry.stop = true
  stop_boundary : t.isBoundary p.stop = true

def gaps : List Piece → List Span
  | p :: q :: ps => ⟨p.stop, q.entry.start⟩ :: gaps (q :: ps)
  | _ => []

def tiles : List Piece → List Span
  | [] => []
  | [p] => [p.span]
  | p :: q :: ps => p.span :: ⟨p.stop, q.entry.start⟩ :: tiles (q :: ps)

def texts (f : SourceFile) (extra : Text) : List Piece → List Text
  | [] => []
  | [p] => [p.text f extra]
  | p :: q :: ps => p.text f [] :: texts f extra (q :: ps)

def Laid (t : Text) : List Piece → Prop
  | [] => True
  | [p] => p.Fits t
  | p :: q :: ps => p.Fits t ∧ p.stop ≤ q.entry.start ∧ Laid t (q :: ps)

end Piece

/-- The edit replaces the pieces and the gaps between them by the same pieces in some order with
joints between them. Only `extra` is new, and every comment in the span stays in one part. -/
structure Rearrangement (f : SourceFile) (e : Edit) (pieces : List Piece) (extra : Text)
    (joints : List Text) : Prop where
  laid : Piece.Laid f.text pieces
  tiling : Tiling e.span.start e.span.stop (Piece.tiles pieces)
  split : f.slice e.span =
    SourceFile.weave (pieces.map (f.slice ·.span)) ((Piece.gaps pieces).map f.slice)
  count : joints.length + 1 = pieces.length
  moved : ∃ texts, texts.Perm (Piece.texts f extra pieces) ∧
    e.replacement = SourceFile.weave texts joints
  comments : ∀ c ∈ f.comments.toList, c.span.Meets e.span →
    (Piece.tiles pieces).countP (·.contains c.span) = 1

theorem tiling_le {start stop : Nat} {spans : List Span} (tiling : Tiling start stop spans) :
    start ≤ stop := by
  induction tiling with
  | nil => exact Nat.le_refl _
  | cons first forward tail ih => omega

theorem tiling_bounds {start stop : Nat} {spans : List Span} (tiling : Tiling start stop spans) :
    ∀ s ∈ spans, start ≤ s.start ∧ s.stop ≤ stop := by
  induction tiling with
  | nil => simp
  | cons first forward tail ih =>
    intro u member
    rcases List.mem_cons.mp member with same | later
    · subst u
      exact ⟨by omega, tiling_le tail⟩
    · have bounds := ih u later
      exact ⟨by omega, bounds.2⟩

/-- A span that crosses no border of the tiles lies in exactly one of them. -/
theorem tiling_contains_once {start stop : Nat} {spans : List Span} {c : Span}
    (tiling : Tiling start stop spans) (proper : c.start < c.stop)
    (lower : start ≤ c.start) (upper : c.stop ≤ stop)
    (uncrossed : ∀ s ∈ spans, c.stop ≤ s.start ∨ s.start ≤ c.start) :
    spans.countP (·.contains c) = 1 := by
  induction tiling with
  | nil => omega
  | @cons start stop s rest first forward tail ih =>
    by_cases inside : c.stop ≤ s.stop
    · -- No later tile reaches back to the span.
      have others : rest.countP (·.contains c) = 0 := by
        refine List.countP_eq_zero.mpr fun u member => ?_
        have := (tiling_bounds tail u member).1
        simp only [Span.contains, Bool.and_eq_true, decide_eq_true_eq, not_and]
        omega
      have here : s.contains c = true := by
        simp only [Span.contains, Bool.and_eq_true, decide_eq_true_eq]
        omega
      rw [List.countP_cons, if_pos here, others]
    · have missed : ¬ s.contains c = true := by
        simp only [Span.contains, Bool.and_eq_true, decide_eq_true_eq, not_and]
        omega
      rw [List.countP_cons, if_neg missed, Nat.add_zero]
      refine ih ?_ upper fun u member => uncrossed u (List.mem_cons_of_mem _ member)
      cases tail with
      | nil => omega
      | @cons _ _ u rest first' forward' tail' =>
        have border := uncrossed u (by simp)
        omega

namespace Piece

theorem laid_head {t : Text} {p : Piece} {ps : List Piece} (laid : Laid t (p :: ps)) :
    p.Fits t := by
  cases ps with
  | nil => exact laid
  | cons q ps => exact laid.1

theorem laid_tail {t : Text} {p : Piece} {ps : List Piece} (laid : Laid t (p :: ps)) :
    Laid t ps := by
  cases ps with
  | nil => trivial
  | cons q ps => exact laid.2.2

theorem laid_mem {t : Text} {ps : List Piece} (laid : Laid t ps) {p : Piece} (member : p ∈ ps) :
    p.Fits t := by
  induction ps with
  | nil => simp at member
  | cons q ps ih =>
    rcases List.mem_cons.mp member with same | later
    · subst q
      exact laid_head laid
    · exact ih (laid_tail laid) later

theorem laid_of_neighbours {t : Text} {ps : List Piece} (fits : ∀ p ∈ ps, p.Fits t)
    (apart : ∀ p q, [p, q] <:+: ps → p.stop ≤ q.entry.start) : Laid t ps := by
  induction ps with
  | nil => trivial
  | cons p ps ih =>
    have rest := ih (fun q member => fits q (List.mem_cons_of_mem _ member))
      fun q r pair => apart q r (pair.trans (List.suffix_cons p ps).isInfix)
    cases ps with
    | nil => exact fits p (by simp)
    | cons q ps => exact ⟨fits p (by simp), apart p q ⟨[], ps, rfl⟩, rest⟩

theorem mem_gaps {ps : List Piece} {s : Span} (member : s ∈ gaps ps) :
    ∃ p q, [p, q] <:+: ps ∧ s = ⟨p.stop, q.entry.start⟩ := by
  fun_induction gaps ps with
  | case1 p q ps ih =>
    rcases List.mem_cons.mp member with same | later
    · exact ⟨p, q, ⟨[], ps, rfl⟩, same⟩
    · obtain ⟨p', q', pair, same⟩ := ih later
      exact ⟨p', q', pair.trans (List.suffix_cons p (q :: ps)).isInfix, same⟩
  | case2 => simp at member

theorem tiling_of_laid {t : Text} {p last : Piece} {ps : List Piece}
    (laid : Laid t (p :: ps)) (final : (p :: ps).getLast? = some last) :
    Tiling p.entry.start last.stop (tiles (p :: ps)) := by
  induction ps generalizing p with
  | nil =>
    have same : p = last := by simpa using final
    subst same
    have fits := laid_head laid
    exact Tiling.cons rfl (Nat.le_trans fits.entry_forward fits.forward) (.nil _)
  | cons q ps ih =>
    have fits := laid.1
    have rest := ih (laid_tail laid) (by simpa using final)
    exact Tiling.cons rfl (Nat.le_trans fits.entry_forward fits.forward)
      (Tiling.cons rfl laid.2.1 rest)

theorem text_nil_eq {f : SourceFile} {p : Piece} (fits : p.Fits f.text) :
    p.text f [] = f.slice p.span := by
  rw [text, List.append_nil]
  exact Text.slice_append fits.entry_forward fits.forward fits.start_boundary fits.entry_boundary
    fits.stop_boundary

theorem texts_nil_eq {f : SourceFile} {ps : List Piece} (laid : Laid f.text ps) :
    texts f [] ps = ps.map (f.slice ·.span) := by
  fun_induction texts f [] ps with
  | case1 => rfl
  | case2 p => simp [text_nil_eq laid]
  | case3 p q ps ih => simp [ih laid.2.2, text_nil_eq laid.1]

theorem length_texts (f : SourceFile) (extra : Text) (ps : List Piece) :
    (texts f extra ps).length = ps.length := by
  fun_induction texts f extra ps <;> simp_all

theorem length_gaps {pieces : List Piece} (nonempty : pieces ≠ []) :
    (gaps pieces).length + 1 = pieces.length := by
  fun_induction gaps pieces with
  | case1 p q ps ih => simp [ih]
  | case2 pieces short =>
    cases pieces with
    | nil => contradiction
    | cons p ps =>
      cases ps with
      | nil => rfl
      | cons q ps => exact absurd rfl (short p q ps)

theorem slice_of_laid {f : SourceFile} {p last : Piece} {ps : List Piece}
    (laid : Laid f.text (p :: ps)) (final : (p :: ps).getLast? = some last) :
    f.slice ⟨p.entry.start, last.stop⟩ = SourceFile.weave ((p :: ps).map (f.slice ·.span))
      ((gaps (p :: ps)).map f.slice) := by
  induction ps generalizing p with
  | nil =>
    have same : p = last := by simpa using final
    subst same
    simp [gaps, SourceFile.weave, span]
  | cons q ps ih =>
    have fits := laid.1
    have rest := laid_tail laid
    have lastFits := laid_mem rest (List.mem_of_getLast? (by simpa using final))
    have whole := ih rest (by simpa using final)
    have ends := tiling_le (tiling_of_laid rest (by simpa using final))
    have inner := (laid_head rest).start_boundary
    have front : f.slice p.span ++ f.slice ⟨p.stop, q.entry.start⟩ =
        f.slice ⟨p.entry.start, q.entry.start⟩ :=
      Text.slice_append (Nat.le_trans fits.entry_forward fits.forward) laid.2.1
        fits.start_boundary fits.stop_boundary inner
    have both : f.slice ⟨p.entry.start, q.entry.start⟩ ++ f.slice ⟨q.entry.start, last.stop⟩ =
        f.slice ⟨p.entry.start, last.stop⟩ :=
      Text.slice_append
        (Nat.le_trans (Nat.le_trans fits.entry_forward fits.forward) laid.2.1) ends
        fits.start_boundary inner lastFits.stop_boundary
    rw [← both, ← front, whole]
    rfl

theorem tile_start {ps : List Piece} {s : Span} (member : s ∈ tiles ps) :
    ∃ p ∈ ps, s.start = p.entry.start ∨ s.start = p.stop := by
  fun_induction tiles ps with
  | case1 => simp at member
  | case2 p => exact ⟨p, by simp, by simp_all [span]⟩
  | case3 p q ps ih =>
    rcases List.mem_cons.mp member with piece | member
    · subst s
      exact ⟨p, by simp, Or.inl rfl⟩
    · rcases List.mem_cons.mp member with gap | member
      · subst s
        exact ⟨p, by simp, Or.inr rfl⟩
      · obtain ⟨r, found, start⟩ := ih member
        exact ⟨r, List.mem_cons_of_mem _ found, start⟩

end Piece

/-- The border at `n` does not cut the comment in two. -/
def Comment.Spares (c : Comment) (n : Nat) : Prop := c.span.stop ≤ n ∨ n ≤ c.span.start

theorem spares_of_inOrBeside {c : Comment} {s : Span} (forward : s.start ≤ s.stop)
    (beside : c.span.InOrBeside s) : c.Spares s.start ∧ c.Spares s.stop := by
  simp only [Comment.Spares]
  rcases beside with before | after | inside
  · exact ⟨Or.inl before, Or.inl (Nat.le_trans before forward)⟩
  · exact ⟨Or.inr (Nat.le_trans forward after), Or.inr after⟩
  · exact ⟨Or.inr inside.1, Or.inl inside.2⟩

theorem rearrangement_of_laid {f : SourceFile} {first last : Piece} {pieces : List Piece}
    {extra : Text} {texts joints : List Text} (laid : Piece.Laid f.text pieces)
    (head : pieces.head? = some first) (final : pieces.getLast? = some last)
    (count : joints.length + 1 = pieces.length)
    (moved : texts.Perm (Piece.texts f extra pieces))
    (spared : ∀ c ∈ f.comments.toList, ∀ p ∈ pieces, c.Spares p.entry.start ∧ c.Spares p.stop) :
    Rearrangement f ⟨⟨first.entry.start, last.stop⟩, SourceFile.weave texts joints⟩ pieces extra
      joints := by
  obtain ⟨ps, rfl⟩ := List.head?_eq_some_iff.mp head
  have tiling := Piece.tiling_of_laid laid final
  refine ⟨laid, tiling, Piece.slice_of_laid laid final, count, ⟨texts, moved, rfl⟩, ?_⟩
  intro c member meets
  obtain ⟨before, after, proper, -⟩ := meets
  have start := (spared c member first (by simp)).1
  have stop := (spared c member last (List.mem_of_getLast? final)).2
  simp only [Comment.Spares] at start stop before after
  refine tiling_contains_once tiling proper (by omega) (by omega) ?_
  intro s tile
  obtain ⟨p, found, same | same⟩ := Piece.tile_start tile
  · rw [same]
    exact (spared c member p found).1
  · rw [same]
    exact (spared c member p found).2

end ScriptLint
