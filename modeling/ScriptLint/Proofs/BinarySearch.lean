import ScriptLint.BinarySearch

/-!
What binary search finds.

When the entries with a property come first, the search answers how many there are, so the entries
up to its answer are those with the property and the entries from there on are the others. Entries
in any order bound the answer by their number.
-/
namespace ScriptLint

def Partitioned (p : α → Bool) (entries : List α) : Prop :=
  entries.Pairwise fun a b => p b = true → p a = true

theorem partitioned_tail {p : α → Bool} {a : α} {entries : List α}
    (sorted : Partitioned p (a :: entries)) : Partitioned p entries :=
  (List.pairwise_cons.mp sorted).2

theorem partitioned_none_after {p : α → Bool} {a : α} {entries : List α}
    (sorted : Partitioned p (a :: entries)) (no : p a = false) : ∀ b ∈ entries, p b = false := by
  intro b member
  have before := (List.pairwise_cons.mp sorted).1 b member
  cases hb : p b with
  | false => rfl
  | true => exact absurd (before hb) (by simp [no])

theorem takeWhile_eq_filter {p : α → Bool} {entries : List α} (sorted : Partitioned p entries) :
    entries.takeWhile p = entries.filter p := by
  induction entries with
  | nil => rfl
  | cons a entries ih =>
    cases ha : p a with
    | true => simp [ha, ih (partitioned_tail sorted)]
    | false =>
      have rest := partitioned_none_after sorted ha
      have none : entries.filter p = [] := List.filter_eq_nil_iff.mpr fun b member => by
        simp [rest b member]
      simp [ha, none]

theorem dropWhile_eq_filter {p : α → Bool} {entries : List α} (sorted : Partitioned p entries) :
    entries.dropWhile p = entries.filter (!p ·) := by
  induction entries with
  | nil => rfl
  | cons a entries ih =>
    cases ha : p a with
    | true => simp [ha, ih (partitioned_tail sorted)]
    | false =>
      have rest := partitioned_none_after sorted ha
      have all : entries.filter (!p ·) = entries := List.filter_eq_self.mpr fun b member => by
        simp [rest b member]
      simp [ha, all]

theorem any_iff_lt_takeWhile {p : α → Bool} {entries : List α} (sorted : Partitioned p entries)
    (i : Nat) : entries[i]?.any p = decide (i < (entries.takeWhile p).length) := by
  induction entries generalizing i with
  | nil => simp
  | cons a entries ih =>
    cases ha : p a with
    | true => cases i <;> simp [ha, ih (partitioned_tail sorted)]
    | false =>
      have rest := partitioned_none_after sorted ha
      cases i with
      | zero => simp [ha]
      | succ i =>
        cases found : entries[i]? with
        | none => simp [ha, found]
        | some b => simp [ha, found, rest b (List.mem_of_getElem? found)]

theorem partitionFrom_le (entries : Array α) (p : α → Bool) {base size : Nat}
    (inside : base + size ≤ entries.size) : partitionFrom entries p base size ≤ entries.size := by
  induction size using Nat.strongRecOn generalizing base with
  | ind size ih =>
    rw [partitionFrom]
    by_cases many : 1 < size
    · rw [dif_pos many]
      refine ih (size - size / 2) (by omega) ?_
      split <;> omega
    · rw [dif_neg many]
      split
      · rename_i held
        obtain ⟨a, found, -⟩ := (Option.any_eq_true ..).mp held
        exact (Array.getElem?_eq_some_iff.mp found).1
      · omega

theorem partitionPoint_le (entries : Array α) (p : α → Bool) :
    partitionPoint entries p ≤ entries.size :=
  partitionFrom_le entries p (Nat.le_of_eq (Nat.zero_add _))

theorem partitionFrom_eq {entries : Array α} {p : α → Bool} {k : Nat}
    (split : ∀ i, entries[i]?.any p = decide (i < k)) (base size : Nat)
    (lower : base ≤ k) (upper : k ≤ base + size) : partitionFrom entries p base size = k := by
  induction size using Nat.strongRecOn generalizing base with
  | ind size ih =>
    rw [partitionFrom]
    by_cases many : 1 < size
    · rw [dif_pos many]
      simp only [split, decide_eq_true_eq]
      by_cases half : base + size / 2 < k
      · rw [if_pos half]
        exact ih (size - size / 2) (by omega) _ (by omega) (by omega)
      · rw [if_neg half]
        exact ih (size - size / 2) (by omega) _ lower (by omega)
    · rw [dif_neg many]
      simp only [split, decide_eq_true_eq]
      by_cases here : base < k
      · rw [if_pos here]
        omega
      · rw [if_neg here]
        omega

theorem partitionPoint_eq {entries : Array α} {p : α → Bool}
    (sorted : Partitioned p entries.toList) :
    partitionPoint entries p = (entries.toList.takeWhile p).length := by
  refine partitionFrom_eq (fun i => ?_) 0 entries.size (Nat.zero_le _) ?_
  · rw [← any_iff_lt_takeWhile sorted, Array.getElem?_toList]
  · have := (List.takeWhile_prefix p (l := entries.toList)).length_le
    simpa using this

theorem drop_takeWhile_take (p : α → Bool) (n : Nat) (entries : List α) :
    (entries.take n).drop (entries.takeWhile p).length = (entries.take n).dropWhile p := by
  induction entries generalizing n with
  | nil => simp
  | cons a entries ih =>
    cases n with
    | zero => simp
    | succ n => cases ha : p a <;> simp [ha, ih]

theorem drop_partitionPoint {entries : Array α} {p : α → Bool}
    (sorted : Partitioned p entries.toList) :
    entries.toList.drop (partitionPoint entries p) = entries.toList.filter (!p ·) := by
  have dropped := drop_takeWhile_take p entries.toList.length entries.toList
  rw [List.take_length] at dropped
  rw [partitionPoint_eq sorted, dropped, dropWhile_eq_filter sorted]

theorem extract_partitionPoint {entries : Array α} {p q : α → Bool}
    (first : Partitioned p entries.toList) (last : Partitioned q entries.toList) :
    (entries.extract (partitionPoint entries p) (partitionPoint entries q)).toList =
      entries.toList.filter fun a => !p a && q a := by
  have front : entries.toList.take (partitionPoint entries q) = entries.toList.filter q := by
    rw [partitionPoint_eq last, ← takeWhile_eq_filter last]
    exact (List.prefix_iff_eq_take.mp (List.takeWhile_prefix q)).symm
  rw [Array.toList_extract, List.extract_eq_drop_take', partitionPoint_eq first,
    drop_takeWhile_take, front, dropWhile_eq_filter (first.filter q), List.filter_filter]

theorem getLast?_filter_partitionPoint {entries : Array α} {p : α → Bool}
    (sorted : Partitioned p entries.toList) :
    (entries.toList.filter p).getLast? =
      if partitionPoint entries p = 0 then none else entries[partitionPoint entries p - 1]? := by
  have front : entries.toList.filter p = entries.toList.take (partitionPoint entries p) := by
    rw [partitionPoint_eq sorted, ← takeWhile_eq_filter sorted]
    exact List.prefix_iff_eq_take.mp (List.takeWhile_prefix p)
  have bound := partitionPoint_le entries p
  rw [front, List.getLast?_take, Array.getElem?_toList]
  split
  · rfl
  · rw [Array.getElem?_eq_getElem (by omega), Option.some_or]

end ScriptLint
