import Mathlib
import ScriptLint.Proofs.Collation
import ScriptLint.Proofs.Text.Utf8

/-!
What the orders of names tell apart, and what natural order means.

Names that compare as equal are equal, or have the same lower case when case is ignored. Natural
order cuts both names into single bytes and the longest runs of digits, and compares these pieces
one by one, a run as the number that it writes. It never computes that number: of two runs without
leading zeros the longer one is larger, and runs of one length compare like their digits.
-/
namespace ScriptLint

open Std

namespace Collation

section Ties

instance : LawfulEqCmp plain where
  eq_of_compare {a b} equal := by
    rw [plain_eq] at equal
    exact LawfulEqCmp.eq_of_compare equal

instance (natural : Bool) : LawfulEqCmp (compareFolded natural) where
  eq_of_compare {a b} equal := by
    apply Text.bytes_injective
    unfold compareFolded at equal
    split at equal
    · exact LawfulEqCmp.eq_of_compare (Ordering.then_eq_eq.mp equal).2
    · exact LawfulEqCmp.eq_of_compare equal

theorem compare_eq_eq_iff (c : Collation) (a b : Text) :
    c.compare a b = .eq ↔ if c.ignoreCase then a.lowercase = b.lowercase else a = b := by
  unfold Collation.compare
  split
  · exact LawfulEqCmp.compare_eq_iff_eq
  · exact LawfulEqCmp.compare_eq_iff_eq

end Ties

/-- Every collation is a total preorder, and names that tie are the same up to ignored case. -/
theorem compare_total_preorder (c : Collation) :
    (∀ a b, c.compare a b = (c.compare b a).swap) ∧
      (∀ a b d, c.compare a b ≠ .gt → c.compare b d ≠ .gt → c.compare a d ≠ .gt) ∧
      ∀ a b, c.compare a b = .eq ↔ if c.ignoreCase then a.lowercase = b.lowercase else a = b := by
  refine ⟨fun a b => OrientedCmp.eq_swap, ?_, c.compare_eq_eq_iff⟩
  intro a b d first second
  apply Ordering.isLE_iff_ne_gt.mp
  exact TransCmp.isLE_trans (Ordering.isLE_iff_ne_gt.mpr first) (Ordering.isLE_iff_ne_gt.mpr second)

theorem compare_total_preorder_leadingZero :
    let c : Collation := ⟨false, true⟩
    c.compare "a1".toList "a02".toList ≠ .gt ∧ c.compare "a02".toList "aé".toList ≠ .gt ∧
      c.compare "a1".toList "aé".toList ≠ .gt := by
  intro c
  have first : c.compare "a1".toList "a02".toList ≠ .gt := of_decide_eq_true (by cbv)
  have second : c.compare "a02".toList "aé".toList ≠ .gt := of_decide_eq_true (by cbv)
  exact ⟨first, second, (compare_total_preorder c).2.1 _ _ _ first second⟩

/-- What natural order compares as one: a run of digits, or any other byte. -/
inductive Piece where
  | run (first : UInt8) (rest : List UInt8)
  | byte (b : UInt8)
  deriving DecidableEq, Repr

def number (digits : List UInt8) : Nat :=
  Nat.ofDigits 10 (digits.map fun d => d.toNat - 48).reverse

namespace Piece

def bytes : Piece → List UInt8
  | run first rest => first :: rest
  | byte b => [b]

def first : Piece → UInt8
  | run first _ => first
  | byte b => b

def isRun : Piece → Bool
  | run .. => true
  | byte _ => false

def Proper : Piece → Prop
  | run first rest => ∀ d ∈ first :: rest, isDigitByte d = true
  | byte b => isDigitByte b = false

protected def compare : Piece → Piece → Ordering
  | run a as, run b bs => Ord.compare (number (a :: as)) (number (b :: bs))
  | p, q => Ord.compare p.first q.first

end Piece

/-- The pieces are the bytes, cut around each byte that is no digit and nowhere else. -/
structure IsCut (pieces : List Piece) (bs : List UInt8) : Prop where
  joined : pieces.flatMap Piece.bytes = bs
  proper : ∀ p ∈ pieces, p.Proper
  longest : pieces.IsChain fun p q => ¬ (p.isRun = true ∧ q.isRun = true)

def pieces : List UInt8 → List Piece
  | [] => []
  | b :: bs =>
    if isDigitByte b then
      .run b (bs.takeWhile isDigitByte) :: pieces (bs.dropWhile isDigitByte)
    else .byte b :: pieces bs
termination_by bs => bs.length
decreasing_by
  · have := (List.dropWhile_suffix isDigitByte (l := bs)).length_le
    simp only [List.length_cons]
    omega
  · simp only [List.length_cons]
    omega

section Cuts

theorem pieces_digit {b : UInt8} (bs : List UInt8) (digit : isDigitByte b = true) :
    pieces (b :: bs) =
      .run b (bs.takeWhile isDigitByte) :: pieces (bs.dropWhile isDigitByte) := by
  rw [pieces, if_pos digit]

theorem pieces_other {b : UInt8} (bs : List UInt8) (other : isDigitByte b = false) :
    pieces (b :: bs) = .byte b :: pieces bs := by
  rw [pieces, if_neg (by rw [other]; exact Bool.false_ne_true)]

theorem pieces_after_run (bs : List UInt8) :
    ∀ p ∈ (pieces (bs.dropWhile isDigitByte)).head?, p.isRun = false := by
  intro p leads
  cases rest : bs.dropWhile isDigitByte with
  | nil =>
    rw [rest, pieces] at leads
    cases leads
  | cons b rest' =>
    have other : isDigitByte b = false := by
      have stopped := List.head?_dropWhile_not isDigitByte bs
      rw [rest] at stopped
      simpa using stopped
    rw [rest, pieces_other rest' other] at leads
    cases leads
    rfl

theorem isCut_pieces (bs : List UInt8) : IsCut (pieces bs) bs := by
  fun_induction pieces bs with
  | case1 => exact ⟨rfl, by simp, List.isChain_nil⟩
  | case2 b bs digit ih =>
    refine ⟨?_, ?_, ?_⟩
    · rw [List.flatMap_cons, ih.joined]
      exact congrArg (b :: ·) List.takeWhile_append_dropWhile
    · intro p member
      rcases List.mem_cons.mp member with rfl | later
      · intro d inside
        rcases List.mem_cons.mp inside with rfl | taken
        · exact digit
        · exact List.mem_takeWhile_imp taken
      · exact ih.proper p later
    · rw [List.isChain_cons]
      refine ⟨?_, ih.longest⟩
      rintro q leads ⟨-, run⟩
      rw [pieces_after_run bs q leads] at run
      cases run
  | case3 b bs other ih =>
    refine ⟨?_, ?_, ?_⟩
    · rw [List.flatMap_cons, ih.joined]
      rfl
    · intro p member
      rcases List.mem_cons.mp member with rfl | later
      · exact Bool.eq_false_iff.mpr other
      · exact ih.proper p later
    · rw [List.isChain_cons]
      refine ⟨?_, ih.longest⟩
      rintro q - ⟨run, -⟩
      cases run

theorem IsCut.after_run {first : UInt8} {rest : List UInt8} {ps : List Piece} {bs : List UInt8}
    (cut : IsCut (.run first rest :: ps) bs) :
    (ps.flatMap Piece.bytes).head?.all (!isDigitByte ·) = true := by
  cases ps with
  | nil => rfl
  | cons q ps =>
    have apart := (List.isChain_cons_cons.mp cut.longest).1
    cases q with
    | run => exact absurd ⟨rfl, rfl⟩ apart
    | byte b =>
      have other : isDigitByte b = false := cut.proper (.byte b) (by simp)
      simp [Piece.bytes, other]

theorem run_ends {bs : List UInt8} (stops : bs.head?.all (!isDigitByte ·) = true) :
    bs.takeWhile isDigitByte = [] ∧ bs.dropWhile isDigitByte = bs := by
  cases bs with
  | nil => exact ⟨rfl, rfl⟩
  | cons b bs =>
    have other : isDigitByte b = false := by simpa using stops
    simp [other]

theorem IsCut.tail {p : Piece} {ps : List Piece} {bs : List UInt8} (cut : IsCut (p :: ps) bs) :
    IsCut ps (ps.flatMap Piece.bytes) :=
  ⟨rfl, fun q member => cut.proper q (List.mem_cons_of_mem p member), cut.longest.tail⟩

theorem eq_pieces_of_isCut {ps : List Piece} {bs : List UInt8} (cut : IsCut ps bs) :
    ps = pieces bs := by
  induction ps generalizing bs with
  | nil =>
    rw [← cut.joined, List.flatMap_nil, pieces]
  | cons p ps ih =>
    have later := ih cut.tail
    rw [← cut.joined, List.flatMap_cons]
    cases p with
    | run first rest =>
      have digits : ∀ d ∈ first :: rest, isDigitByte d = true := cut.proper _ List.mem_cons_self
      have inside : ∀ d ∈ rest, isDigitByte d = true := fun d member =>
        digits d (List.mem_cons_of_mem first member)
      obtain ⟨none, all⟩ := run_ends cut.after_run
      rw [Piece.bytes, List.cons_append, pieces_digit _ (digits first List.mem_cons_self),
        List.takeWhile_append_of_pos inside, List.dropWhile_append_of_pos inside, none, all,
        List.append_nil, ← later]
    | byte b =>
      have other : isDigitByte b = false := cut.proper _ List.mem_cons_self
      rw [Piece.bytes, List.singleton_append, pieces_other _ other, ← later]

end Cuts

section Numbers

theorem number_cons (d : UInt8) (ds : List UInt8) :
    number (d :: ds) = number ds + 10 ^ ds.length * (d.toNat - 48) := by
  rw [number, List.map_cons, Nat.ofDigits_reverse_cons, List.length_map]
  rfl

theorem number_lt {ds : List UInt8} (digits : ∀ d ∈ ds, isDigitByte d = true) :
    number ds < 10 ^ ds.length := by
  induction ds with
  | nil => decide
  | cons d ds ih =>
    have range := digit_range.mp (digits d List.mem_cons_self)
    have rest := ih fun x member => digits x (List.mem_cons_of_mem d member)
    have top : 10 ^ ds.length * (d.toNat - 48) ≤ 10 ^ ds.length * 9 :=
      Nat.mul_le_mul_left _ (by omega)
    rw [number_cons, List.length_cons, Nat.pow_succ]
    omega

theorem number_stripZeros (ds : List UInt8) : number (stripZeros ds) = number ds := by
  induction ds with
  | nil => rfl
  | cons d ds ih =>
    rw [stripZeros, List.dropWhile_cons]
    split
    · rename_i zero
      obtain rfl := eq_of_beq zero
      rw [number_cons]
      exact ih
    · rfl

theorem compare_add_left (k m n : Nat) : compare (k + m) (k + n) = compare m n := by
  simp only [Nat.compare_eq_ite_lt, Nat.add_lt_add_iff_left]

theorem compare_number {as bs : List UInt8} (left : ∀ d ∈ as, isDigitByte d = true)
    (right : ∀ d ∈ bs, isDigitByte d = true) (same : as.length = bs.length) :
    compare (number as) (number bs) = plain as bs := by
  induction as generalizing bs with
  | nil =>
    rw [List.length_eq_zero_iff.mp same.symm]
    rfl
  | cons a as ih =>
    cases bs with
    | nil => cases same
    | cons b bs =>
      have lengths : as.length = bs.length := by simpa using same
      have insideA : ∀ d ∈ as, isDigitByte d = true := fun d member =>
        left d (List.mem_cons_of_mem a member)
      have insideB : ∀ d ∈ bs, isDigitByte d = true := fun d member =>
        right d (List.mem_cons_of_mem b member)
      have rangeA := digit_range.mp (left a List.mem_cons_self)
      have rangeB := digit_range.mp (right b List.mem_cons_self)
      have smallA := number_lt insideA
      have smallB := number_lt insideB
      rw [lengths] at smallA
      rw [number_cons, number_cons, lengths, plain, ← ih insideA insideB lengths]
      rcases Nat.lt_trichotomy a.toNat b.toNat with less | equal | greater
      · have step : 10 ^ bs.length * (a.toNat - 48 + 1) ≤ 10 ^ bs.length * (b.toNat - 48) :=
          Nat.mul_le_mul_left _ (by omega)
        rw [Nat.mul_succ] at step
        rw [compare_toNat, Nat.compare_eq_lt.mpr less, Nat.compare_eq_lt.mpr (by omega)]
        rfl
      · obtain rfl := UInt8.toNat_inj.mp equal
        rw [compare_self, Nat.add_comm, Nat.add_comm (number bs), compare_add_left]
        rfl
      · have step : 10 ^ bs.length * (b.toNat - 48 + 1) ≤ 10 ^ bs.length * (a.toNat - 48) :=
          Nat.mul_le_mul_left _ (by omega)
        rw [Nat.mul_succ] at step
        rw [compare_toNat, Nat.compare_eq_gt.mpr greater, Nat.compare_eq_gt.mpr (by omega)]
        rfl

theorem number_lt_of_length_lt {as bs : List UInt8} (left : ∀ d ∈ as, isDigitByte d = true)
    (right : ∀ d ∈ bs, isDigitByte d = true) (leading : bs.head? ≠ some 48)
    (shorter : as.length < bs.length) : number as < number bs := by
  cases bs with
  | nil => cases shorter
  | cons b bs =>
    have range := digit_range.mp (right b List.mem_cons_self)
    have nonzero : b.toNat ≠ 48 := by
      intro zero
      apply leading
      rw [List.head?_cons, UInt8.toNat_inj.mp (show b.toNat = UInt8.toNat 48 from zero)]
    have small := number_lt left
    have fits : 10 ^ as.length ≤ 10 ^ bs.length :=
      Nat.pow_le_pow_right (by decide) (by simpa [Nat.lt_succ_iff] using shorter)
    have top : 10 ^ bs.length * 1 ≤ 10 ^ bs.length * (b.toNat - 48) :=
      Nat.mul_le_mul_left _ (by omega)
    rw [number_cons]
    omega

theorem stripZeros_digits {ds : List UInt8} (digits : ∀ d ∈ ds, isDigitByte d = true) :
    ∀ d ∈ stripZeros ds, isDigitByte d = true := fun d member =>
  digits d ((List.dropWhile_suffix _).subset member)

theorem stripZeros_leading (ds : List UInt8) : (stripZeros ds).head? ≠ some 48 := by
  intro zero
  have stopped := List.head?_dropWhile_not (· == 48) ds
  rw [stripZeros] at zero
  rw [zero] at stopped
  simp at stopped

theorem compareRuns_eq {as bs : List UInt8} (left : ∀ d ∈ as, isDigitByte d = true)
    (right : ∀ d ∈ bs, isDigitByte d = true) :
    compareRuns as bs = compare (number as) (number bs) := by
  have digitsA := stripZeros_digits left
  have digitsB := stripZeros_digits right
  rw [← number_stripZeros as, ← number_stripZeros bs, compareRuns]
  rcases Nat.lt_trichotomy (stripZeros as).length (stripZeros bs).length with
    shorter | same | longer
  · have less := number_lt_of_length_lt digitsA digitsB (stripZeros_leading bs) shorter
    rw [Nat.compare_eq_lt.mpr shorter, Nat.compare_eq_lt.mpr less]
    rfl
  · rw [Nat.compare_eq_eq.mpr same, compare_number digitsA digitsB same]
    rfl
  · have greater := number_lt_of_length_lt digitsB digitsA (stripZeros_leading as) longer
    rw [Nat.compare_eq_gt.mpr longer, Nat.compare_eq_gt.mpr greater]
    rfl

end Numbers

section Meaning

def Piece.part : Piece → UInt8 × List UInt8
  | run first rest => (48, stripZeros (first :: rest))
  | byte b => (b, [])

theorem parts_eq (bs : List UInt8) : parts bs = (pieces bs).map Piece.part := by
  fun_induction pieces bs with
  | case1 => rw [parts, List.map_nil]
  | case2 b bs digit ih => rw [parts_digit bs digit, ih, List.map_cons, Piece.part]
  | case3 b bs other ih =>
    rw [parts_other bs (Bool.eq_false_iff.mpr other), ih, List.map_cons, Piece.part]

theorem compareParts_part {p q : Piece} (left : p.Proper) (right : q.Proper) :
    compareParts p.part q.part = p.compare q := by
  cases p with
  | run a as =>
    cases q with
    | run b bs => exact compareRuns_eq left right
    | byte b =>
      obtain ⟨decided, same⟩ := compare_digit (left a List.mem_cons_self) right
      exact (compareParts_of_ne _ _ (same ▸ decided)).trans same
  | byte a =>
    cases q with
    | run b bs =>
      obtain ⟨decided, same⟩ := compare_other left (right b List.mem_cons_self)
      exact (compareParts_of_ne _ _ (same ▸ decided)).trans same
    | byte b => exact compareParts_bytes a b

theorem compareLex_parts {ps qs : List Piece} (left : ∀ p ∈ ps, p.Proper)
    (right : ∀ q ∈ qs, q.Proper) :
    List.compareLex compareParts (ps.map Piece.part) (qs.map Piece.part) =
      List.compareLex Piece.compare ps qs := by
  induction ps generalizing qs with
  | nil => cases qs <;> rfl
  | cons p ps ih =>
    cases qs with
    | nil => rfl
    | cons q qs =>
      rw [List.map_cons, List.map_cons, List.compareLex_cons_cons, List.compareLex_cons_cons,
        compareParts_part (left p List.mem_cons_self) (right q List.mem_cons_self),
        ih (fun x member => left x (List.mem_cons_of_mem p member))
          (fun x member => right x (List.mem_cons_of_mem q member))]

theorem naturalOrder_pieces (as bs : List UInt8) :
    naturalOrder as bs = List.compareLex Piece.compare (pieces as) (pieces bs) := by
  rw [naturalOrder_eq, parts_eq, parts_eq]
  exact compareLex_parts (isCut_pieces as).proper (isCut_pieces bs).proper

end Meaning

/-- Natural order compares piece by piece, with runs of digits as numbers, and plain order decides
between names that are then equal. There is one way only to cut a name into pieces. -/
theorem natural_order_compares_numbers (a b : Text) :
    (∀ (t : Text) ps, IsCut ps t.bytes ↔ ps = pieces t.bytes) ∧
      Collation.compare ⟨false, true⟩ a b =
        (List.compareLex Piece.compare (pieces a.bytes) (pieces b.bytes)).then
          (List.compareLex compare a.bytes b.bytes) := by
  constructor
  · intro t ps
    constructor
    · exact eq_pieces_of_isCut
    · rintro rfl
      exact isCut_pieces t.bytes
  · rw [← naturalOrder_pieces, ← plain_eq]
    rfl

example : Collation.compare ⟨false, true⟩ "v01".toList "v1".toList = .lt := by cbv

end Collation

end ScriptLint
