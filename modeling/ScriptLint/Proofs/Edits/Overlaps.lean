import Mathlib
import ScriptLint.Edit
import ScriptLint.Proofs.Syntax.Places

/-!
Edits that fit a text and do not overlap.

Of two such edits one precedes the other: it starts earlier, and it stops at the start of the other
one at the latest. No two of them start at one place, so this order is transitive, and the edits
sorted by their starts precede one another when all neighbours do. That is why no edit has to be
compared with any but the next one.
-/
namespace ScriptLint.Edit

theorem check_eq_ok_iff {text : Text} {e : Edit} :
    e.check text = .ok () ↔ e.span.Fits text := by
  constructor
  · intro checked
    rw [check] at checked
    split at checked
    · cases checked
    · split at checked
      · cases checked
      · split at checked
        · cases checked
        · split at checked
          · cases checked
          · rename_i forward _ first last
            exact ⟨Nat.le_of_not_lt forward, by simpa using first, by simpa using last⟩
  · intro fit
    have bound := Text.boundary_le fit.last
    rw [check, if_neg (Nat.not_lt.mpr fit.forward), if_neg (Nat.not_lt.mpr bound),
      if_neg (by simp [fit.first]), if_neg (by simp [fit.last])]

theorem check_ne_overlapping (text : Text) (e : Edit) (offset : Nat) :
    e.check text ≠ .error (.overlapping offset) := by
  unfold check
  split
  · simp
  · split
    · simp
    · split
      · simp
      · split <;> simp

theorem checkEach_eq_ok_iff {text : Text} {es : List Edit} :
    checkEach text es = .ok () ↔ ∀ e ∈ es, e.check text = .ok () := by
  induction es with
  | nil => simp [checkEach]
  | cons e es ih =>
    rw [checkEach, List.forall_mem_cons]
    cases e.check text with
    | ok => simpa using ih
    | error cause => simp

theorem checkEach_eq_error_iff {text : Text} {es : List Edit} {cause : EditError} :
    checkEach text es = .error cause ↔ ∃ front e back, es = front ++ e :: back ∧
      (∀ earlier ∈ front, earlier.check text = .ok ()) ∧ e.check text = .error cause := by
  constructor
  · intro failed
    induction es with
    | nil => cases failed
    | cons e es ih =>
      rw [checkEach] at failed
      cases checked : e.check text with
      | error first =>
        rw [checked] at failed
        exact ⟨[], e, es, rfl, by simp, checked.trans (by simpa using failed)⟩
      | ok =>
        rw [checked] at failed
        obtain ⟨front, x, back, rfl, passed, found⟩ := ih failed
        exact ⟨e :: front, x, back, rfl, List.forall_mem_cons.mpr ⟨checked, passed⟩, found⟩
  · rintro ⟨front, e, back, rfl, passed, found⟩
    induction front with
    | nil => rw [List.nil_append, checkEach, found]
    | cons first front ih =>
      obtain ⟨checked, passed⟩ := List.forall_mem_cons.mp passed
      rw [List.cons_append, checkEach, checked]
      exact ih passed

theorem overlaps_eq_false_iff {a b : Edit} :
    a.overlaps b = false ↔
      (b.span.stop ≤ a.span.start ∨ a.span.stop ≤ b.span.start) ∧ a.span.start ≠ b.span.start := by
  simp only [overlaps, Bool.or_eq_false_iff, Bool.and_eq_false_iff, decide_eq_false_iff_not,
    Nat.not_lt, beq_eq_false_iff_ne]

theorem overlaps_comm (a b : Edit) : a.overlaps b = b.overlaps a := by
  rw [overlaps, overlaps, Bool.and_comm, Bool.beq_comm]

/-- Starts earlier than `b`, and stops where `b` starts at the latest. -/
def Precedes (a b : Edit) : Prop := a.span.start < b.span.start ∧ a.span.stop ≤ b.span.start

section Order

variable {a b c : Edit}

theorem Precedes.trans (first : a.Precedes b) (second : b.Precedes c) : a.Precedes c := by
  unfold Precedes at *
  omega

instance : Trans Precedes Precedes Precedes := ⟨Precedes.trans⟩

theorem Precedes.asymm (first : a.Precedes b) : ¬ b.Precedes a := by
  unfold Precedes at *
  omega

theorem Precedes.apart (first : a.Precedes b) : a.overlaps b = false := by
  unfold Precedes at first
  rw [overlaps_eq_false_iff]
  omega

theorem precedes_of_apart (forward : b.span.start ≤ b.span.stop)
    (order : a.span.start ≤ b.span.start) (apart : a.overlaps b = false) : a.Precedes b := by
  rw [overlaps_eq_false_iff] at apart
  unfold Precedes
  omega

theorem overlaps_behind (filled : a.span.start < a.span.stop)
    (behind : a.span.stop ≤ b.span.start) : a.overlaps b = false := by
  have first : a.Precedes b := ⟨Nat.lt_of_lt_of_le filled behind, behind⟩
  exact first.apart

theorem overlaps_inside (filled : b.span.start < b.span.stop)
    (inside : a.span.contains b.span = true) : a.overlaps b = true := by
  simp only [Span.contains, Bool.and_eq_true, decide_eq_true_eq] at inside
  rw [← Bool.not_eq_false, overlaps_eq_false_iff]
  omega

theorem startsBefore_iff :
    a.startsBefore b = true ↔ a.span.start < b.span.start ∨
      (a.span.start = b.span.start ∧ a.span.stop ≤ b.span.stop) := by
  simp [startsBefore]

end Order

theorem sorted_startsBefore (es : List Edit) :
    (es.mergeSort startsBefore).Pairwise fun a b => a.span.start ≤ b.span.start := by
  have ordered : (es.mergeSort startsBefore).Pairwise fun a b => a.startsBefore b = true := by
    apply List.pairwise_mergeSort
    · intro a b c
      simp only [startsBefore_iff]
      omega
    · intro a b
      rw [Bool.or_eq_true, startsBefore_iff, startsBefore_iff]
      omega
  apply ordered.imp
  intro a b before
  rw [startsBefore_iff] at before
  omega

theorem checkNeighbours_eq_ok_iff {es : List Edit} :
    checkNeighbours es = .ok () ↔ es.IsChain fun a b => a.overlaps b = false := by
  fun_induction checkNeighbours es with
  | case1 a b es overlap => simp [overlap]
  | case2 a b es apart ih => simp [ih, apart]
  | case3 es short =>
    match es with
    | [] => simp
    | [a] => simp
    | a :: b :: es => exact absurd rfl (short a b es)

section Sorted

variable {es : List Edit} (forward : ∀ e ∈ es, e.span.start ≤ e.span.stop)
  (sorted : es.Pairwise fun a b => a.span.start ≤ b.span.start)

include forward sorted

/-- In edits that are sorted by their starts, neighbours speak for all pairs. -/
theorem precede_of_neighbours (apart : es.IsChain fun a b => a.overlaps b = false) :
    es.Pairwise Precedes := by
  apply List.isChain_iff_pairwise.mp
  induction es with
  | nil => exact .nil
  | cons a es ih =>
    cases es with
    | nil => exact .singleton a
    | cons b es =>
      obtain ⟨first, rest⟩ := List.pairwise_cons.mp sorted
      rw [List.isChain_cons_cons] at apart ⊢
      constructor
      · have behind := forward b (by simp)
        exact precedes_of_apart behind (first b (by simp)) apart.1
      · apply ih
        · intro e member
          exact forward e (List.mem_cons_of_mem a member)
        · exact rest
        · exact apart.2

end Sorted

section Pairs

theorem apart_perm {es es' : List Edit} (same : es.Perm es') :
    (es.Pairwise fun a b => a.overlaps b = false) ↔
      es'.Pairwise fun a b => a.overlaps b = false := by
  apply same.pairwise_iff
  intro a b apart
  rwa [overlaps_comm]

theorem checkAll_eq_ok_iff {text : Text} {es : List Edit} :
    checkAll text es = .ok () ↔
      (∀ e ∈ es, e.span.Fits text) ∧ es.Pairwise fun a b => a.overlaps b = false := by
  have order := List.mergeSort_perm es startsBefore
  have neighbours : (∀ e ∈ es, e.span.Fits text) →
      (checkNeighbours (es.mergeSort startsBefore) = .ok () ↔
        es.Pairwise fun a b => a.overlaps b = false) := by
    intro fit
    rw [checkNeighbours_eq_ok_iff, ← apart_perm order]
    constructor
    · intro chain
      have forward : ∀ e ∈ es.mergeSort startsBefore, e.span.start ≤ e.span.stop := by
        intro e member
        exact (fit e (List.mem_mergeSort.mp member)).forward
      apply (precede_of_neighbours forward (sorted_startsBefore es) chain).imp
      intro a b first
      exact first.apart
    · exact List.Pairwise.isChain
  have each : checkEach text es = .ok () ↔ ∀ e ∈ es, e.span.Fits text := by
    rw [checkEach_eq_ok_iff]
    simp only [check_eq_ok_iff]
  unfold checkAll
  cases checked : checkEach text es with
  | ok =>
    have fit := each.mp checked
    rw [and_iff_right fit, neighbours fit]
  | error cause =>
    have unfit : ¬ ∀ e ∈ es, e.span.Fits text := by
      rw [← each, checked]
      simp
    simp [unfit]

theorem apart_iff_getElem? {es : List Edit} :
    (es.Pairwise fun a b => a.overlaps b = false) ↔
      ∀ (i j : Nat) (a b : Edit), i ≠ j → es[i]? = some a → es[j]? = some b →
        a.overlaps b = false := by
  rw [List.pairwise_iff_getElem]
  constructor
  · intro apart i j a b other first second
    obtain ⟨bound, rfl⟩ := List.getElem?_eq_some_iff.mp first
    obtain ⟨bound', rfl⟩ := List.getElem?_eq_some_iff.mp second
    rcases Nat.lt_or_gt_of_ne other with less | greater
    · exact apart i j bound bound' less
    · rw [overlaps_comm]
      exact apart j i bound' bound greater
  · intro apart i j bound bound' less
    exact apart i j _ _ (Nat.ne_of_lt less) (List.getElem?_eq_getElem bound)
      (List.getElem?_eq_getElem bound')

end Pairs

/-- Sorting and comparing neighbours finds out whether any two edits of the list overlap. -/
theorem neighbours_decide_overlap (text : Text) (es : List Edit) :
    (∀ a b : Edit, a.overlaps b = b.overlaps a) ∧
      (checkAll text es = .ok () ↔ (∀ e ∈ es, e.check text = .ok ()) ∧
        ∀ (i j : Nat) (a b : Edit), i ≠ j → es[i]? = some a → es[j]? = some b →
          a.overlaps b = false) := by
  refine ⟨overlaps_comm, ?_⟩
  rw [checkAll_eq_ok_iff, apart_iff_getElem?]
  simp only [check_eq_ok_iff]

/-- An insertion may touch the end of another edit. A long edit and one inside it are found to
overlap, also when the list names them in another order and an insertion is between them. -/
theorem neighbours_decide_overlap_inside :
    checkAll "0123456789".toList [⟨⟨3, 3⟩, ['x']⟩, ⟨⟨0, 3⟩, []⟩] = .ok () ∧
      checkAll "0123456789".toList [⟨⟨5, 6⟩, []⟩, ⟨⟨9, 9⟩, ['x']⟩, ⟨⟨0, 8⟩, []⟩] ≠ .ok () := by
  constructor
  · apply (neighbours_decide_overlap _ _).2.mpr
    constructor
    · decide
    · intro i j a b other first second
      match i, j with
      | 0, 0 | 1, 1 => exact absurd rfl other
      | 0, 1 | 1, 0 =>
        cases first
        cases second
        rfl
      | i + 2, _ => cases first
      | _, j + 2 => cases second
  · intro passed
    have apart := ((neighbours_decide_overlap _ _).2.mp passed).2 0 2 _ _ (by decide) rfl rfl
    cases apart

end ScriptLint.Edit
