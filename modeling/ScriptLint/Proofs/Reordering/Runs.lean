import Mathlib.Data.List.Nodup
import Mathlib.Data.List.SplitBy
import ScriptLint.Reordering

/-!
Runs of adjacent neighbours.

Which entries form a run is a matter of which neighbours are adjacent, and of nothing else. Two
neighbours are in the same run exactly when they are adjacent.
-/
namespace ScriptLint

def runsFrom {α : Type} (holds : α → α → Bool) (n : Nat) (xs : List α) : List (List Nat) :=
  ((xs.zipIdx n).splitBy fun a b => holds a.1 b.1).map (·.map Prod.snd)

theorem splitBy_cons_cons {α : Type} (holds : α → α → Bool) (a b : α) (xs : List α) :
    (a :: b :: xs).splitBy holds =
      if holds a b then ((b :: xs).splitBy holds).modifyHead (a :: ·)
      else [a] :: (b :: xs).splitBy holds := by
  by_cases tied : holds a b = true
  · rw [if_pos tied, List.splitBy_eq_iff]
    obtain ⟨whole, filled, chains, breaks⟩ :=
      List.splitBy_eq_iff.mp (Eq.refl ((b :: xs).splitBy holds))
    cases split : (b :: xs).splitBy holds with
    | nil =>
      rw [split] at whole
      cases whole
    | cons run runs =>
      rw [split] at whole filled chains breaks
      cases run with
      | nil => exact absurd List.mem_cons_self filled
      | cons c run =>
        obtain ⟨rfl, rest⟩ : b = c ∧ xs = run ++ runs.flatten := by simpa using whole
        rw [List.modifyHead_cons]
        have others := List.forall_mem_cons.mp chains
        constructor
        · rw [rest]
          rfl
        · constructor
          · simpa using filled
          · constructor
            · rw [List.forall_mem_cons]
              exact ⟨others.1.cons_cons tied, others.2⟩
            · cases runs with
              | nil => exact List.isChain_singleton _
              | cons next runs =>
                rw [List.isChain_cons_cons] at breaks ⊢
                obtain ⟨⟨_, later, apart⟩, tail⟩ := breaks
                exact ⟨⟨by simp, later, by simpa using apart⟩, tail⟩
  · have apart : holds a b = false := Bool.eq_false_iff.mpr tied
    have last : ∀ x ∈ [a].getLast?, holds x b = false := by simpa using apart
    rw [if_neg tied]
    exact List.splitBy_append_cons xs last

section Runs

variable {α β : Type} {holds : α → α → Bool}

theorem runsFrom_cons_cons (holds : α → α → Bool) (n : Nat) (a b : α) (xs : List α) :
    runsFrom holds n (a :: b :: xs) =
      if holds a b then (runsFrom holds (n + 1) (b :: xs)).modifyHead (n :: ·)
      else [n] :: runsFrom holds (n + 1) (b :: xs) := by
  unfold runsFrom
  rw [List.zipIdx_cons, List.zipIdx_cons, splitBy_cons_cons]
  split
  · cases ((b, n + 1) :: xs.zipIdx (n + 1 + 1)).splitBy fun a b => holds a.1 b.1 <;> rfl
  · rfl

theorem runsFrom_head (holds : α → α → Bool) (n : Nat) (a : α) (xs : List α) :
    ∃ run runs, runsFrom holds n (a :: xs) = (n :: run) :: runs := by
  induction xs generalizing n a with
  | nil => exact ⟨[], [], rfl⟩
  | cons b xs ih =>
    obtain ⟨run, runs, rest⟩ := ih (n + 1) b
    rw [runsFrom_cons_cons, rest]
    split
    · exact ⟨_, _, rfl⟩
    · exact ⟨_, _, rfl⟩

theorem runsFrom_congr {holds' : β → β → Bool} {xs : List α} {ys : List β}
    (lengths : xs.length = ys.length)
    (same : ∀ (i : Nat) (a b : α) (c d : β), xs[i]? = some a → xs[i + 1]? = some b →
      ys[i]? = some c → ys[i + 1]? = some d → holds a b = holds' c d) (n : Nat) :
    runsFrom holds n xs = runsFrom holds' n ys := by
  induction xs generalizing ys n with
  | nil =>
    obtain rfl := List.length_eq_zero_iff.mp lengths.symm
    rfl
  | cons a xs ih =>
    cases ys with
    | nil => simp at lengths
    | cons c ys =>
      have rest := ih (Nat.succ.inj lengths)
        (fun i a b c d first second => same (i + 1) a b c d first second) (n + 1)
      cases xs with
      | nil =>
        obtain rfl := List.length_eq_zero_iff.mp (Nat.succ.inj lengths).symm
        rfl
      | cons b xs =>
        cases ys with
        | nil => simp at lengths
        | cons d ys =>
          rw [runsFrom_cons_cons, runsFrom_cons_cons, rest, same 0 a b c d rfl rfl rfl rfl]

theorem findIdx_modifyHead {n k : Nat} (other : k ≠ n) (runs : List (List Nat)) :
    (runs.modifyHead (n :: ·)).findIdx (·.contains k) = runs.findIdx (·.contains k) := by
  cases runs with
  | nil => rfl
  | cons run runs => simp [List.findIdx_cons, other]

theorem findIdx_alone {n k : Nat} (other : k ≠ n) (runs : List (List Nat)) :
    ([n] :: runs).findIdx (·.contains k) = runs.findIdx (·.contains k) + 1 := by
  simp [List.findIdx_cons, other]

theorem findIdx_runsFrom_iff {xs : List α} {i : Nat} {a b : α} (first : xs[i]? = some a)
    (second : xs[i + 1]? = some b) (n : Nat) :
    (runsFrom holds n xs).findIdx (·.contains (n + i)) =
        (runsFrom holds n xs).findIdx (·.contains (n + (i + 1))) ↔ holds a b = true := by
  induction xs generalizing i n with
  | nil => simp at first
  | cons x xs ih =>
    cases xs with
    | nil => simp at second
    | cons y xs =>
      rw [runsFrom_cons_cons]
      cases i with
      | zero =>
        obtain rfl : x = a := by simpa using first
        obtain rfl : y = b := by simpa using second
        obtain ⟨run, runs, rest⟩ := runsFrom_head holds (n + 1) y xs
        by_cases tied : holds x y = true
        · simp [rest, tied, List.findIdx_cons]
        · simp [rest, tied, List.findIdx_cons]
      | succ i =>
        have later := ih first second (n + 1)
        rw [show n + 1 + i = n + (i + 1) by omega,
          show n + 1 + (i + 1) = n + (i + 1 + 1) by omega] at later
        split
        · rw [findIdx_modifyHead (by omega), findIdx_modifyHead (by omega), later]
        · rw [findIdx_alone (by omega), findIdx_alone (by omega), Nat.add_right_cancel_iff, later]

end Runs

theorem findIdx_of_mem {runs : List (List Nat)} (once : runs.flatten.Nodup) {k : Nat}
    {run : List Nat} (here : runs[k]? = some run) {i : Nat} (member : i ∈ run) :
    runs.findIdx (·.contains i) = k := by
  obtain ⟨bound, rfl⟩ := List.getElem?_eq_some_iff.mp here
  have apart := List.pairwise_iff_getElem.mp (List.nodup_flatten.mp once).2
  rw [List.findIdx_eq bound]
  constructor
  · simpa using member
  · intro j before
    have other := apart j k (Nat.lt_trans before bound) bound before
    simpa using fun inside => other inside member

namespace SourceFile

theorem adjacentRuns_eq (f : SourceFile) (spans : List Span) :
    f.adjacentRuns spans = runsFrom f.areAdjacent 0 spans :=
  rfl

end SourceFile

end ScriptLint
