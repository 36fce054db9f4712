import ScriptLint.Rules.ImportGroups

/-!
The orders of names and of imports are total.

Plain order is the lexicographic order of bytes. Natural order is a lexicographic order as well, of
parts that are single bytes or whole runs of digits. Such comparisons are transitive, and so is
every combination of them that breaks ties by a further comparison. What sorting leaves is then in
order, and items that tie keep the order that they had.
-/
namespace ScriptLint

open Std

theorem transCmp_on {α β : Type} {cmp : β → β → Ordering} [TransCmp cmp] (f : α → β) :
    TransCmp fun a b => cmp (f a) (f b) where
  eq_swap := OrientedCmp.eq_swap
  isLE_trans := TransCmp.isLE_trans

/-- The items in sorted order, each as often as before. Those that tie stand in their old order. -/
structure StablySorted {α : Type} (cmp : α → α → Ordering) (xs sorted : List α) : Prop where
  perm : sorted.Perm xs
  ordered : sorted.Pairwise fun a b => cmp a b ≠ .gt
  stable : ∀ a, sorted.filter (cmp a · == .eq) = xs.filter (cmp a · == .eq)

section Sorting

variable {α : Type} {cmp : α → α → Ordering} [TransCmp cmp]

theorem ne_gt_trans {a b c : α} (first : cmp a b ≠ .gt) (second : cmp b c ≠ .gt) :
    cmp a c ≠ .gt := by
  rw [Ne, ← Ordering.isLE_iff_ne_gt] at first second ⊢
  exact TransCmp.isLE_trans first second

theorem ne_gt_total (a b : α) : cmp a b ≠ .gt ∨ cmp b a ≠ .gt := by
  have turned : cmp b a = (cmp a b).swap := OrientedCmp.eq_swap
  rw [turned]
  cases cmp a b <;> decide

theorem stablySorted_mergeSort (xs : List α) :
    StablySorted cmp xs (xs.mergeSort fun a b => cmp a b != .gt) := by
  have trans : ∀ a b c : α, (cmp a b != .gt) = true → (cmp b c != .gt) = true →
      (cmp a c != .gt) = true := by
    intro a b c first second
    rw [bne_iff_ne] at first second ⊢
    exact ne_gt_trans first second
  have total : ∀ a b : α, (cmp a b != .gt || cmp b a != .gt) = true := by
    intro a b
    rw [Bool.or_eq_true, bne_iff_ne, bne_iff_ne]
    exact ne_gt_total a b
  have perm := List.mergeSort_perm xs fun a b => cmp a b != .gt
  refine ⟨perm, ?_, ?_⟩
  · apply (List.pairwise_mergeSort trans total xs).imp
    intro a b ordered
    exact bne_iff_ne.mp ordered
  · intro a
    -- Items that tie are in order as they stand, so sorting keeps them as a sublist.
    have tied : (xs.filter (cmp a · == .eq)).Pairwise fun b c => (cmp b c != .gt) = true := by
      apply List.pairwise_of_forall_mem_list
      intro b left c right
      have first := eq_of_beq (List.mem_filter.mp left).2
      have second := eq_of_beq (List.mem_filter.mp right).2
      rw [TransCmp.eq_trans (OrientedCmp.eq_symm first) second]
      rfl
    have kept := List.sublist_mergeSort trans total tied List.filter_sublist
    have same := kept.filter (cmp a · == .eq)
    rw [List.filter_filter] at same
    simp only [Bool.and_self] at same
    exact (same.eq_of_length (perm.filter _).length_eq.symm).symm

end Sorting

namespace Collation

theorem plain_eq (a b : List UInt8) : plain a b = List.compareLex compare a b := by
  induction a generalizing b with
  | nil => cases b <;> rfl
  | cons x xs ih =>
    cases b with
    | nil => rfl
    | cons y ys =>
      rw [List.compareLex_cons_cons, ← ih]
      rfl

instance : TransCmp plain := by
  have same : plain = List.compareLex compare := by
    funext a b
    exact plain_eq a b
  rw [same]
  infer_instance

/-- A byte that is no digit stands for itself, and a run of digits for its number. All runs have the
same first component, which no other byte has. -/
def parts : List UInt8 → List (UInt8 × List UInt8)
  | [] => []
  | b :: bs =>
    if isDigitByte b then
      (48, stripZeros (b :: bs.takeWhile isDigitByte)) :: parts (bs.dropWhile isDigitByte)
    else (b, []) :: parts bs
termination_by bs => bs.length
decreasing_by
  · have := (List.dropWhile_suffix isDigitByte (l := bs)).length_le
    simp only [List.length_cons]
    omega
  · simp only [List.length_cons]
    omega

def compareParts : UInt8 × List UInt8 → UInt8 × List UInt8 → Ordering :=
  compareLex (compareOn (·.1)) (compareLex (compareOn (·.2.length)) fun a b => plain a.2 b.2)

instance : TransCmp compareParts := by
  have runs : TransCmp fun a b : UInt8 × List UInt8 => plain a.2 b.2 := transCmp_on Prod.snd
  unfold compareParts
  infer_instance

theorem compare_toNat (a b : UInt8) : compare a b = compare a.toNat b.toNat := by
  change compareOfLessAndEq a b = compareOfLessAndEq a.toNat b.toNat
  unfold compareOfLessAndEq
  simp only [UInt8.lt_iff_toNat_lt, ← UInt8.toNat_inj]

theorem digit_range {d : UInt8} : isDigitByte d = true ↔ 48 ≤ d.toNat ∧ d.toNat ≤ 57 := by
  simp [isDigitByte, UInt8.le_iff_toNat_le]

theorem compare_digit {a b : UInt8} (digit : isDigitByte a = true) (other : isDigitByte b = false) :
    compare a b ≠ .eq ∧ compare 48 b = compare a b := by
  rw [digit_range] at digit
  rw [← Bool.not_eq_true, digit_range] at other
  have low : UInt8.toNat 48 = 48 := rfl
  rw [compare_toNat, compare_toNat 48, low]
  by_cases before : b.toNat < 48
  · rw [Nat.compare_eq_gt.mpr before, Nat.compare_eq_gt.mpr (by omega)]
    exact ⟨by decide, rfl⟩
  · rw [Nat.compare_eq_lt.mpr (by omega), Nat.compare_eq_lt.mpr (by omega)]
    exact ⟨by decide, rfl⟩

theorem compare_other {a b : UInt8} (other : isDigitByte a = false) (digit : isDigitByte b = true) :
    compare a b ≠ .eq ∧ compare a 48 = compare a b := by
  obtain ⟨decided, same⟩ := compare_digit digit other
  have turned : ∀ x : UInt8, compare a x = (compare x a).swap := fun x => OrientedCmp.eq_swap
  rw [turned b, turned 48, same]
  exact ⟨fun equal => decided (Ordering.swap_eq_eq.mp equal), rfl⟩

theorem then_of_ne {o p : Ordering} (decided : o ≠ .eq) : o.then p = o := by
  cases o with
  | eq => exact absurd rfl decided
  | lt => rfl
  | gt => rfl

theorem compareParts_of_ne {a b : UInt8} (as bs : List UInt8) (decided : compare a b ≠ .eq) :
    compareParts (a, as) (b, bs) = compare a b :=
  then_of_ne decided

theorem compareParts_bytes (a b : UInt8) : compareParts (a, []) (b, []) = compare a b := by
  change (compare a b).then _ = compare a b
  cases compare a b <;> rfl

theorem parts_digit {b : UInt8} (bs : List UInt8) (digit : isDigitByte b = true) :
    parts (b :: bs) =
      (48, stripZeros (b :: bs.takeWhile isDigitByte)) :: parts (bs.dropWhile isDigitByte) := by
  rw [parts, if_pos digit]

theorem parts_other {b : UInt8} (bs : List UInt8) (other : isDigitByte b = false) :
    parts (b :: bs) = (b, []) :: parts bs := by
  rw [parts, if_neg (by rw [other]; exact Bool.false_ne_true)]

theorem naturalOrder_eq (a b : List UInt8) :
    naturalOrder a b = List.compareLex compareParts (parts a) (parts b) := by
  fun_induction naturalOrder a b with
  | case1 => rw [parts, List.compareLex_nil_nil]
  | case2 b bs =>
    cases digit : isDigitByte b with
    | true => rw [parts_digit bs digit, parts, List.compareLex_nil_cons]
    | false => rw [parts_other bs digit, parts, List.compareLex_nil_cons]
  | case3 a as =>
    cases digit : isDigitByte a with
    | true => rw [parts_digit as digit, parts, List.compareLex_cons_nil]
    | false => rw [parts_other as digit, parts, List.compareLex_cons_nil]
  | case4 a as b bs both ih =>
    rw [Bool.and_eq_true] at both
    rw [parts_digit as both.1, parts_digit bs both.2, List.compareLex_cons_cons, ih]
    rfl
  | case5 a as b bs other ih =>
    cases left : isDigitByte a with
    | true =>
      have right : isDigitByte b = false := by simpa [left] using other
      obtain ⟨decided, same⟩ := compare_digit left right
      rw [parts_digit as left, parts_other bs right, List.compareLex_cons_cons,
        compareParts_of_ne _ _ (same ▸ decided), same, then_of_ne decided, then_of_ne decided]
    | false =>
      rw [parts_other as left]
      cases right : isDigitByte b with
      | true =>
        obtain ⟨decided, same⟩ := compare_other left right
        rw [parts_digit bs right, List.compareLex_cons_cons,
          compareParts_of_ne _ _ (same ▸ decided), same, then_of_ne decided, then_of_ne decided]
      | false => rw [parts_other bs right, List.compareLex_cons_cons, compareParts_bytes, ih]

instance : TransCmp naturalOrder := by
  have same : naturalOrder = fun a b => List.compareLex compareParts (parts a) (parts b) := by
    funext a b
    exact naturalOrder_eq a b
  rw [same]
  exact transCmp_on parts

instance (natural : Bool) : TransCmp (compareFolded natural) := by
  cases natural with
  | false => exact transCmp_on Text.bytes
  | true =>
    have runs : TransCmp fun a b : Text => naturalOrder a.bytes b.bytes := transCmp_on Text.bytes
    have ties : TransCmp fun a b : Text => plain a.bytes b.bytes := transCmp_on Text.bytes
    change TransCmp (compareLex (fun a b : Text => naturalOrder a.bytes b.bytes)
      fun a b : Text => plain a.bytes b.bytes)
    infer_instance

instance (c : Collation) : TransCmp c.compare := by
  obtain ⟨ignoreCase, natural⟩ := c
  cases ignoreCase with
  | false => exact inferInstanceAs (TransCmp (compareFolded natural))
  | true => exact @transCmp_on _ _ (compareFolded natural) _ Text.lowercase

end Collation

namespace ImportOrder

instance (r : ImportOrder) : TransCmp r.compareKinds where
  eq_swap {a b} := by
    unfold compareKinds
    cases a <;> cases b <;> rcases r.typeImportsFirst with _ | typeFirst <;>
      first | rfl | cases typeFirst <;> rfl
  isLE_trans {a b c} := by
    unfold compareKinds
    cases a <;> cases b <;> cases c <;> rcases r.typeImportsFirst with _ | typeFirst <;>
      first | decide | cases typeFirst <;> decide

def compareEffects (r : ImportOrder) (a b : ImportEntry) : Ordering :=
  if r.sideEffectsFirst && a.sideEffect != b.sideEffect then
    if a.sideEffect then .lt else .gt
  else .eq

instance (r : ImportOrder) : TransCmp r.compareEffects where
  eq_swap {a b} := by
    unfold compareEffects
    cases r.sideEffectsFirst <;> cases a.sideEffect <;> cases b.sideEffect <;> rfl
  isLE_trans {a b c} := by
    unfold compareEffects
    cases r.sideEffectsFirst <;> cases a.sideEffect <;> cases b.sideEffect <;>
      cases c.sideEffect <;> decide

theorem compare_eq (r : ImportOrder) (a b : ImportEntry) : r.compare a b =
    (r.compareEffects a b).then
      ((r.collation.compare a.path b.path).then (r.compareKinds a.kind b.kind)) := by
  unfold ImportOrder.compare compareEffects
  split
  · split <;> rfl
  · rfl

instance (r : ImportOrder) : TransCmp r.compare := by
  have paths : TransCmp fun a b : ImportEntry => r.collation.compare a.path b.path :=
    transCmp_on ImportEntry.path
  have kinds : TransCmp fun a b : ImportEntry => r.compareKinds a.kind b.kind :=
    transCmp_on ImportEntry.kind
  have same : r.compare = compareLex r.compareEffects (compareLex
      (fun a b : ImportEntry => r.collation.compare a.path b.path)
      fun a b => r.compareKinds a.kind b.kind) := by
    funext a b
    exact r.compare_eq a b
  rw [same]
  infer_instance

theorem isAfter_eq_false_iff {r : ImportOrder} {a b : ImportEntry} :
    r.isAfter a b = false ↔ r.compare a b ≠ .gt :=
  beq_eq_false_iff_ne

theorem stablySorted (r : ImportOrder) (entries : List (ImportEntry × Nat)) :
    StablySorted (fun a b => r.compare a.1 b.1) entries
      (entries.mergeSort fun a b => !r.isAfter a.1 b.1) := by
  have order : TransCmp fun a b : ImportEntry × Nat => r.compare a.1 b.1 := transCmp_on Prod.fst
  exact stablySorted_mergeSort entries

theorem sorted (r : ImportOrder) (entries : List (ImportEntry × Nat)) :
    (entries.mergeSort fun a b => !r.isAfter a.1 b.1).Pairwise
      fun a b => r.isAfter a.1 b.1 = false := by
  apply (r.stablySorted entries).ordered.imp
  intro a b ordered
  exact isAfter_eq_false_iff.mpr ordered

end ImportOrder

end ScriptLint
