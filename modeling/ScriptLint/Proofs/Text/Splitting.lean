import Mathlib
import ScriptLint.Text.Basic

/-!
Texts cut into pieces at a separator, and put together again.
-/
namespace ScriptLint

theorem not_mem_of_mem_splitOn {α : Type} [DecidableEq α] {sep : α} {xs piece : List α}
    (member : piece ∈ xs.splitOn sep) : sep ∉ piece := by
  induction xs generalizing piece with
  | nil =>
    rw [List.splitOn_nil] at member
    rw [List.mem_singleton.mp member]
    exact List.not_mem_nil
  | cons x xs ih =>
    rw [List.splitOn_cons_eq_if_modifyHead] at member
    split at member
    · rcases List.mem_cons.mp member with rfl | later
      · exact List.not_mem_nil
      · exact ih later
    · rename_i other
      cases pieces : xs.splitOn sep with
      | nil => exact absurd pieces (List.splitOn_ne_nil sep xs)
      | cons first rest =>
        rw [pieces] at member ih
        rcases List.mem_cons.mp member with rfl | later
        · intro inside
          rcases List.mem_cons.mp inside with same | deeper
          · exact other (beq_iff_eq.mpr same.symm)
          · exact ih List.mem_cons_self deeper
        · exact ih (List.mem_cons_of_mem _ later)

namespace Text

theorem splitOn_eq (sep : Char) (t : Text) : splitOn sep t = List.splitOn sep t := by
  induction t with
  | nil => rfl
  | cons c t ih =>
    rw [List.splitOn_cons_eq_if_modifyHead, ← ih, splitOn]
    by_cases same : c = sep
    · simp [same]
    · rw [if_neg same, if_neg (by simpa using same)]
      cases pieces : splitOn sep t with
      | nil => exact absurd (ih.symm.trans pieces) (List.splitOn_ne_nil sep t)
      | cons piece rest => rfl

theorem joinWith_eq (separator : Text) (pieces : List Text) :
    joinWith separator pieces = separator.intercalate pieces := by
  induction pieces with
  | nil => rfl
  | cons t pieces ih =>
    cases pieces with
    | nil => exact List.intercalate_singleton.symm
    | cons next pieces =>
      rw [List.intercalate_cons_cons, ← ih]
      rfl

theorem splitOn_joinWith {sep : Char} {pieces : List Text} (some : pieces ≠ [])
    (plain : ∀ piece ∈ pieces, sep ∉ piece) : splitOn sep (joinWith [sep] pieces) = pieces := by
  rw [splitOn_eq, joinWith_eq]
  exact List.splitOn_intercalate sep plain some

theorem joinWith_splitOn (sep : Char) (t : Text) : joinWith [sep] (splitOn sep t) = t := by
  rw [splitOn_eq, joinWith_eq]
  exact List.intercalate_splitOn sep

theorem splitOn_ne_nil (sep : Char) (t : Text) : splitOn sep t ≠ [] := by
  rw [splitOn_eq]
  exact List.splitOn_ne_nil sep t

theorem not_mem_of_mem_splitOn {sep : Char} {t piece : Text} (member : piece ∈ splitOn sep t) :
    sep ∉ piece := by
  rw [splitOn_eq] at member
  exact ScriptLint.not_mem_of_mem_splitOn member

theorem splitOn_flatten (sep : Char) (t : Text) :
    (splitOn sep t).flatten = t.filter (· != sep) := by
  induction t with
  | nil => rfl
  | cons c t ih =>
    rw [splitOn]
    by_cases same : c = sep
    · simp [same, ih]
    · rw [if_neg same, List.filter_cons_of_pos (by simp [same]), ← ih]
      cases splitOn sep t with
      | nil => rfl
      | cons piece pieces => rfl

theorem joinWith_append {sep : Text} {front back : List Text} (some : front ≠ [])
    (more : back ≠ []) :
    joinWith sep (front ++ back) = joinWith sep front ++ sep ++ joinWith sep back := by
  rw [joinWith_eq, joinWith_eq, joinWith_eq]
  induction front with
  | nil => exact absurd rfl some
  | cons piece front ih =>
    cases front with
    | nil =>
      rw [List.singleton_append, List.intercalate_cons_of_ne_nil more, List.intercalate_singleton]
    | cons next front =>
      rw [List.cons_append, List.cons_append, List.intercalate_cons_cons, ← List.cons_append,
        ih (List.cons_ne_nil next front), List.intercalate_cons_cons]
      simp

theorem mem_joinWith {sep piece : Text} {pieces : List Text} (listed : piece ∈ pieces) {c : Char}
    (member : c ∈ piece) : c ∈ joinWith sep pieces := by
  obtain ⟨front, back, rfl⟩ := List.append_of_mem listed
  have start : c ∈ joinWith sep (piece :: back) := by
    cases back with
    | nil => exact member
    | cons next back => exact List.mem_append_left _ (List.mem_append_left _ member)
  cases front with
  | nil => exact start
  | cons first front =>
    rw [joinWith_append (List.cons_ne_nil first front) (List.cons_ne_nil piece back)]
    exact List.mem_append_right _ start

theorem mem_of_mem_splitOn {sep : Char} {t piece : Text} (listed : piece ∈ splitOn sep t) {c : Char}
    (member : c ∈ piece) : c ∈ t := by
  rw [← joinWith_splitOn sep t]
  exact mem_joinWith listed member

theorem nil_mem_splitOn {sep : Char} {t : Text} (listed : [] ∈ splitOn sep t) :
    t = [] ∨ t.head? = some sep ∨ t.getLast? = some sep ∨
      ∃ front back, t = front ++ sep :: sep :: back := by
  obtain ⟨front, back, pieces⟩ := List.append_of_mem listed
  have whole := joinWith_splitOn sep t
  rw [pieces] at whole
  cases front with
  | nil =>
    cases back with
    | nil => exact .inl whole.symm
    | cons next back => exact .inr (.inl (by rw [← whole]; rfl))
  | cons first front =>
    rw [joinWith_append (List.cons_ne_nil first front) (List.cons_ne_nil [] back)] at whole
    cases back with
    | nil => exact .inr (.inr (.inl (by rw [← whole]; simp [joinWith])))
    | cons next back =>
      refine .inr (.inr (.inr ⟨joinWith [sep] (first :: front), joinWith [sep] (next :: back), ?_⟩))
      rw [← whole]
      simp [joinWith]

theorem splitOn_between (sep : Char) (front back : Text) :
    splitOn sep (front ++ sep :: back) = splitOn sep front ++ splitOn sep back := by
  rw [splitOn_eq, splitOn_eq, splitOn_eq, List.splitOn_append_cons_self]

end Text

end ScriptLint
