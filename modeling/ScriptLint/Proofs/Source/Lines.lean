import ScriptLint.Proofs.BinarySearch
import ScriptLint.Proofs.Text.Slices
import ScriptLint.Source

/-!
Lines of a text.

The line that holds an offset is told by the line breaks that end by then. The number of lines
between two offsets of a piece of text is a matter of the piece alone, wherever it stands.
-/
namespace ScriptLint

def breaksBy (t : Text) (n : Nat) : Nat := (laterLineStarts 0 t).countP (· ≤ n)

theorem laterLineStarts_cons (n : Nat) (c : Char) (t : Text) :
    laterLineStarts n (c :: t) =
      if c = '\n' then (n + c.utf8Size) :: laterLineStarts (n + c.utf8Size) t
      else laterLineStarts (n + c.utf8Size) t :=
  rfl

theorem laterLineStarts_shift (t : Text) (m n : Nat) :
    laterLineStarts (m + n) t = (laterLineStarts n t).map (m + ·) := by
  induction t generalizing n with
  | nil => rfl
  | cons c t ih =>
    rw [laterLineStarts_cons, laterLineStarts_cons, Nat.add_assoc, ih]
    split <;> rfl

theorem laterLineStarts_append (p r : Text) (n : Nat) :
    laterLineStarts n (p ++ r) = laterLineStarts n p ++ laterLineStarts (n + Text.size p) r := by
  induction p generalizing n with
  | nil => rfl
  | cons c p ih =>
    rw [List.cons_append, laterLineStarts_cons, laterLineStarts_cons, ih, Text.size_cons,
      Nat.add_assoc]
    split <;> rfl

theorem laterLineStarts_bounds {t : Text} {n k : Nat} (member : k ∈ laterLineStarts n t) :
    n < k ∧ k ≤ n + Text.size t := by
  induction t generalizing n with
  | nil => cases member
  | cons c t ih =>
    have positive := c.utf8Size_pos
    rw [laterLineStarts_cons] at member
    rw [Text.size_cons]
    split at member
    · rcases List.mem_cons.mp member with same | later
      · omega
      · have := ih later
        omega
    · have := ih member
      omega

theorem laterLineStarts_increasing (t : Text) (n : Nat) :
    (n :: laterLineStarts n t).Pairwise (· < ·) := by
  induction t generalizing n with
  | nil => exact List.pairwise_singleton _ _
  | cons c t ih =>
    have positive := c.utf8Size_pos
    have rest := ih (n + c.utf8Size)
    rw [List.pairwise_cons]
    refine ⟨fun k member => (laterLineStarts_bounds member).1, ?_⟩
    rw [laterLineStarts_cons]
    split
    · exact rest
    · exact (List.pairwise_cons.mp rest).2

theorem length_laterLineStarts (t : Text) (n : Nat) :
    (laterLineStarts n t).length = t.count '\n' := by
  induction t generalizing n with
  | nil => rfl
  | cons c t ih =>
    rw [laterLineStarts_cons]
    by_cases broken : c = '\n'
    · rw [if_pos broken, broken, List.count_cons_self, List.length_cons, ih]
    · rw [if_neg broken, ih, List.count_cons_of_ne broken]

theorem breaksBy_zero (t : Text) : breaksBy t 0 = 0 := by
  unfold breaksBy
  rw [List.countP_eq_zero]
  intro k member
  have := (laterLineStarts_bounds member).1
  simp only [decide_eq_true_eq]
  omega

theorem breaksBy_size {t : Text} {n : Nat} (past : Text.size t ≤ n) :
    breaksBy t n = t.count '\n' := by
  unfold breaksBy
  rw [← length_laterLineStarts t 0, List.countP_eq_length]
  intro k member
  have := (laterLineStarts_bounds member).2
  simp only [decide_eq_true_eq]
  omega

theorem breaksBy_inside (p m r : Text) {i : Nat} (inside : i ≤ Text.size m) :
    breaksBy (p ++ (m ++ r)) (Text.size p + i) = p.count '\n' + breaksBy m i := by
  have before := breaksBy_size (Nat.le_add_right (Text.size p) i)
  have here : (laterLineStarts (Text.size p) m).countP (· ≤ Text.size p + i) = breaksBy m i := by
    have shifted := laterLineStarts_shift m (Text.size p) 0
    rw [Nat.add_zero] at shifted
    unfold breaksBy
    rw [shifted, List.countP_map]
    congr 1
    funext k
    simp only [Function.comp_apply, Nat.add_le_add_iff_left]
  have after : (laterLineStarts (Text.size p + Text.size m) r).countP (· ≤ Text.size p + i) = 0 := by
    rw [List.countP_eq_zero]
    intro k member
    have := (laterLineStarts_bounds member).1
    simp only [decide_eq_true_eq]
    omega
  rw [← before, ← here]
  unfold breaksBy
  rw [laterLineStarts_append, laterLineStarts_append, List.countP_append, List.countP_append,
    Nat.zero_add, after, Nat.add_zero]

namespace SourceFile

def Lined (f : SourceFile) : Prop := f.lineStarts = (0 :: laterLineStarts 0 f.text).toArray

instance (f : SourceFile) : Decidable f.Lined := inferInstanceAs (Decidable (_ = _))

theorem lineStarts_partitioned {f : SourceFile} (lined : f.Lined) (n : Nat) :
    Partitioned (fun k : Nat => decide (k ≤ n)) f.lineStarts.toList := by
  rw [lined]
  apply (laterLineStarts_increasing f.text 0).imp
  intro a b less
  simp only [decide_eq_true_eq]
  omega

theorem lineOf_eq {f : SourceFile} (lined : f.Lined) (n : Nat) :
    f.lineOf n = 1 + breaksBy f.text n := by
  have sorted := lineStarts_partitioned lined n
  unfold lineOf breaksBy
  rw [partitionPoint_eq sorted, takeWhile_eq_filter sorted, ← List.countP_eq_length_filter, lined,
    List.countP_cons_of_pos (by simp), Nat.add_comm]

theorem lineOf_sub {f : SourceFile} (lined : f.Lined) {p m r : Text} (whole : f.text = p ++ (m ++ r))
    {i j : Nat} (first : i ≤ Text.size m) (second : j ≤ Text.size m) :
    f.lineOf (Text.size p + j) - f.lineOf (Text.size p + i) = breaksBy m j - breaksBy m i := by
  rw [lineOf_eq lined, lineOf_eq lined, whole, breaksBy_inside p m r first,
    breaksBy_inside p m r second]
  omega

theorem lineOf_across {f : SourceFile} (lined : f.Lined) {p m r : Text}
    (whole : f.text = p ++ (m ++ r)) :
    f.lineOf (Text.size p + Text.size m) - f.lineOf (Text.size p) = m.count '\n' := by
  have lines := lineOf_sub lined whole (Nat.zero_le _) (Nat.le_refl (Text.size m))
  rw [Nat.add_zero, breaksBy_zero, breaksBy_size (Nat.le_refl _)] at lines
  exact lines

end SourceFile

end ScriptLint
