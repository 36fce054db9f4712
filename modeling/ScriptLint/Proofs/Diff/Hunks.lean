import Mathlib
import ScriptLint.Diff

/-!
The lines that the hunks of a diff show.

Changed lines come in increasing order, so only the last hunk can grow. The hunks are apart from
each other, stay within the two texts and hold every changed line.
-/
namespace ScriptLint.Diff

theorem mem_changedLines {before after : List Text} {i : Nat} :
    i ∈ changedLines before after ↔ before[i]? ≠ after[i]? := by
  rw [changedLines, List.mem_filter, List.mem_range, bne_iff_ne, and_iff_right_iff_imp]
  intro differ
  by_contra past
  rw [List.getElem?_eq_none (by omega), List.getElem?_eq_none (by omega)] at differ
  exact differ rfl

theorem changedLines_lt {before after : List Text} {i : Nat}
    (changed : i ∈ changedLines before after) : i < max before.length after.length :=
  List.mem_range.mp (List.mem_filter.mp changed).1

theorem changedLines_increasing (before after : List Text) :
    (changedLines before after).Pairwise (· < ·) :=
  List.pairwise_lt_range.filter _

theorem changedLines_eq_nil_iff {before after : List Text} :
    changedLines before after = [] ↔ before = after := by
  rw [List.eq_nil_iff_forall_not_mem, List.ext_getElem?_iff]
  simp only [mem_changedLines, not_not]

def Hunk.Holds (h : Hunk) (i : Nat) : Prop := h.first ≤ i ∧ i < h.last

instance (h : Hunk) (i : Nat) : Decidable (h.Holds i) := inferInstanceAs (Decidable (_ ∧ _))

/-- Hunks that show all changes from line `start` on of texts with `total` lines. -/
structure Shows (start total : Nat) (changed : Nat → Prop) (hs : List Hunk) : Prop where
  apart : hs.Pairwise fun h k => h.last < k.first
  inside : ∀ h ∈ hs, start ≤ h.first ∧ h.first < h.last ∧ h.last ≤ total
  holds : ∀ i, start ≤ i → changed i → ∃ h ∈ hs, h.Holds i

namespace Shows

variable {start total : Nat} {changed : Nat → Prop} {h : Hunk} {hs : List Hunk}

theorem tail (shown : Shows start total changed (h :: hs)) : Shows h.last total changed hs := by
  obtain ⟨behind, apart⟩ := List.pairwise_cons.mp shown.apart
  obtain ⟨here, others⟩ := List.forall_mem_cons.mp shown.inside
  refine ⟨apart, fun k member => ⟨(behind k member).le, (others k member).2⟩, ?_⟩
  intro i later changed
  obtain ⟨k, member, held⟩ := shown.holds i (by omega) changed
  rcases List.mem_cons.mp member with rfl | among
  · exact absurd held.2 (by omega)
  · exact ⟨k, among, held⟩

theorem unchanged_before (shown : Shows start total changed (h :: hs)) {i : Nat} (from_start : start ≤ i)
    (before : i < h.first) : ¬ changed i := by
  intro changed
  obtain ⟨behind, -⟩ := List.pairwise_cons.mp shown.apart
  have here := shown.inside h List.mem_cons_self
  obtain ⟨k, member, held⟩ := shown.holds i from_start changed
  rcases List.mem_cons.mp member with rfl | among
  · exact absurd held.1 (by omega)
  · have := behind k among
    exact absurd held.1 (by omega)

theorem countP_holds (shown : Shows start total changed hs) {i : Nat} (from_start : start ≤ i)
    (differs : changed i) : hs.countP (fun h => h.Holds i) = 1 := by
  induction hs generalizing start with
  | nil =>
    obtain ⟨h, member, -⟩ := shown.holds i from_start differs
    cases member
  | cons h hs ih =>
    obtain ⟨behind, -⟩ := List.pairwise_cons.mp shown.apart
    by_cases here : h.Holds i
    · have others : hs.countP (fun h => h.Holds i) = 0 := by
        rw [List.countP_eq_zero]
        intro k member held
        have := behind k member
        have := (of_decide_eq_true held).1
        exact absurd here.2 (by omega)
      rw [List.countP_cons_of_pos (by simpa using here), others]
    · have past : h.last ≤ i := by
        by_contra early
        exact shown.unchanged_before from_start (by unfold Hunk.Holds at here; omega) differs
      rw [List.countP_cons_of_neg (by simpa using here)]
      exact ih shown.tail past

end Shows

/-- The induction is on the changed lines still to come. None of them lies before the hunk that may
grow, and none has surroundings that end before it. -/
theorem growHunks_shows {context total : Nat} (h : Hunk) (changed : List Nat)
    (filled : h.first < h.last) (within : h.last ≤ total) (increasing : changed.Pairwise (· < ·))
    (later : ∀ i ∈ changed, h.first ≤ i ∧ i < total ∧ h.last ≤ i + context + 1) :
    Shows h.first total (fun i => h.Holds i ∨ i ∈ changed) (growHunks context total h changed) := by
  fun_induction growHunks context total h changed with
  | case1 h =>
    refine ⟨List.pairwise_singleton _ _, ?_, ?_⟩
    · simpa using ⟨filled, within⟩
    · simp
  | case2 h i is stop touches ih =>
    obtain ⟨above, rest⟩ := List.pairwise_cons.mp increasing
    obtain ⟨here, others⟩ := List.forall_mem_cons.mp later
    have longer : h.last ≤ stop := by omega
    have reached : i < stop := by omega
    have grown := ih (by simp only; omega) (by simp only; omega) rest fun j member => by
      have := above j member
      have := others j member
      simp only
      omega
    refine ⟨grown.apart, grown.inside, fun j from_start shown => grown.holds j from_start ?_⟩
    rcases shown with held | member
    · exact .inl ⟨held.1, Nat.lt_of_lt_of_le held.2 longer⟩
    · rcases List.mem_cons.mp member with rfl | member
      · exact .inl ⟨here.1, reached⟩
      · exact .inr member
  | case3 h i is stop away ih =>
    obtain ⟨above, rest⟩ := List.pairwise_cons.mp increasing
    obtain ⟨here, others⟩ := List.forall_mem_cons.mp later
    have reached : i < stop := by omega
    have next := ih (by simp only; omega) (by simp only; omega) rest fun j member => by
      have := above j member
      have := others j member
      simp only
      omega
    have gap : h.last < i - context := by omega
    have behind : ∀ k ∈ growHunks context total ⟨i - context, stop⟩ is, h.last < k.first := by
      intro k member
      exact Nat.lt_of_lt_of_le gap (next.inside k member).1
    refine ⟨List.pairwise_cons.mpr ⟨behind, next.apart⟩, ?_, ?_⟩
    · refine List.forall_mem_cons.mpr ⟨⟨Nat.le_refl _, filled, within⟩, fun k member => ?_⟩
      have := behind k member
      exact ⟨by omega, (next.inside k member).2⟩
    · rintro j from_start (held | member)
      · exact ⟨h, List.mem_cons_self, held⟩
      · have shown : i - context ≤ j ∧ (Hunk.Holds ⟨i - context, stop⟩ j ∨ j ∈ is) := by
          rcases List.mem_cons.mp member with rfl | member
          · exact ⟨Nat.sub_le _ _, .inl ⟨Nat.sub_le _ _, reached⟩⟩
          · have := above j member
            exact ⟨by omega, .inr member⟩
        obtain ⟨k, among, held⟩ := next.holds j shown.1 shown.2
        exact ⟨k, List.mem_cons_of_mem _ among, held⟩

theorem hunks_show (context : Nat) (before after : List Text) :
    Shows 0 (max before.length after.length) (fun i => before[i]? ≠ after[i]?)
      (hunks context (max before.length after.length) (changedLines before after)) := by
  have increasing := changedLines_increasing before after
  have bounds : ∀ i ∈ changedLines before after, i < max before.length after.length :=
    fun i member => changedLines_lt member
  have changed : ∀ i, before[i]? ≠ after[i]? → i ∈ changedLines before after :=
    fun i differs => mem_changedLines.mpr differs
  cases lines : changedLines before after with
  | nil =>
    rw [lines] at changed
    exact ⟨List.Pairwise.nil, fun h member => absurd member List.not_mem_nil,
      fun i _ differs => absurd (changed i differs) List.not_mem_nil⟩
  | cons i is =>
    rw [lines] at increasing bounds changed
    obtain ⟨above, rest⟩ := List.pairwise_cons.mp increasing
    obtain ⟨here, others⟩ := List.forall_mem_cons.mp bounds
    have shown := @growHunks_shows context (max before.length after.length)
      ⟨i - context, min (i + context + 1) (max before.length after.length)⟩ is
      (by simp only; omega) (by simp only; omega) rest fun j member => by
        have := above j member
        have := others j member
        simp only
        omega
    refine ⟨shown.apart, fun h member => ⟨Nat.zero_le _, (shown.inside h member).2⟩, ?_⟩
    intro j _ differs
    rcases List.mem_cons.mp (changed j differs) with rfl | member
    · exact shown.holds j (Nat.sub_le _ _) (.inl ⟨Nat.sub_le _ _, by simp only; omega⟩)
    · have := above j member
      exact shown.holds j (by simp only; omega) (.inr member)

end ScriptLint.Diff
