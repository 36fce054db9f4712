import Mathlib
import ScriptLint.Command.Run
import ScriptLint.Proofs.Text.Splitting
import ScriptLint.Proofs.Text.Utf8

/-!
The pieces of paths and the names of backups.

A path whose last piece names a file has a backup that differs from it in the last piece only. Two
names have the same backup when one of them has no extension and the other one is the same with a
dot behind it, or when their extensions are shown alike and are not both texts.
-/
namespace ScriptLint

namespace Path

def IsName (piece : Name) : Prop := isVoid piece = false ∧ piece ≠ up

instance (piece : Name) : Decidable (IsName piece) := inferInstanceAs (Decidable (_ ∧ _))

theorem IsName.ne_nil {name : Name} (proper : IsName name) : name ≠ [] := by
  rintro rfl
  cases proper.1

theorem isAbsolute_iff {p : Path} :
    p.isAbsolute = true ↔ ∃ next rest, p.parts = [] :: next :: rest := by
  unfold isAbsolute parts
  cases p with
  | nil => simp
  | cons b p =>
    rw [List.splitOn_cons_eq_if_modifyHead]
    cases pieces : p.splitOn slash with
    | nil => exact absurd pieces (List.splitOn_ne_nil slash p)
    | cons piece rest =>
      by_cases divides : b = slash
      · simp [divides]
      · simp [divides]

theorem isAbsolute_congr {p q : Path} {front : List Name} {name other : Name}
    (parts : p.parts = front ++ [name]) (parts' : q.parts = front ++ [other]) :
    p.isAbsolute = q.isAbsolute := by
  rw [Bool.eq_iff_iff, isAbsolute_iff, isAbsolute_iff, parts, parts']
  cases front with
  | nil => simp
  | cons first front => cases front <;> simp

section Pieces

variable {p : Path} {front : List Name} {name : Name}
  (parts : p.parts = front ++ [name]) (proper : IsName name)
include parts

theorem parts_plain : ∀ piece ∈ front ++ [name], slash ∉ piece := by
  intro piece member
  rw [← parts] at member
  exact not_mem_of_mem_splitOn member

include proper

theorem fullPieces_eq : p.fullPieces = front ++ [name] := by
  unfold fullPieces
  rw [parts]
  cases front with
  | nil => rfl
  | cons first front =>
    simp only [List.cons_append]
    rw [List.reverse_append, List.reverse_singleton, List.singleton_append,
      List.dropWhile_cons_of_neg (by simp [proper.1])]
    simp

theorem fileName?_eq : p.fileName? = some name := by
  have last : p.pieces.getLast? = some name := by
    unfold pieces
    rw [parts]
    cases front with
    | nil => rfl
    | cons first front =>
      simp only [List.cons_append]
      rw [List.filter_append, List.filter_singleton, proper.1, ← List.cons_append]
      exact List.getLast?_concat
  unfold fileName?
  rw [last]
  simp [proper.1, proper.2]

end Pieces

theorem splitName_cases (name : Name) :
    splitName name = (name, none) ∨ ∃ stem extension, name = stem ++ dot :: extension ∧
      dot ∉ extension ∧ splitName name = (stem, some extension) := by
  have whole := List.takeWhile_append_dropWhile (p := (· != dot)) (l := name.reverse)
  unfold splitName
  cases rest : name.reverse.dropWhile (· != dot) with
  | nil => exact Or.inl rfl
  | cons last tail =>
    have isDot : last = dot := by
      have some : name.reverse.dropWhile (· != dot) ≠ [] := by simp [rest]
      have stops := List.head_dropWhile_not (· != dot) some
      simpa [rest] using stops
    rw [List.reverse_cons, List.dropLast_concat]
    cases stem : tail.reverse with
    | nil => exact Or.inl rfl
    | cons b stem' =>
      right
      refine ⟨b :: stem', (name.reverse.takeWhile (· != dot)).reverse, ?_, ?_, rfl⟩
      · have back := congrArg List.reverse whole
        rw [rest, isDot, List.reverse_append, List.reverse_cons, stem, List.reverse_reverse] at back
        simpa using back.symm
      · intro inside
        simpa using List.mem_takeWhile_imp (List.mem_reverse.mp inside)

end Path

namespace Command

def backupName (name : Name) : Name :=
  (Path.splitName name).1 ++
    Path.dot :: Text.bytes (Text.shown ((Path.splitName name).2.getD []) ++ ".bak".toList)

theorem backupName_isName (name : Name) : Path.IsName (backupName name) := by
  have long : 3 < (backupName name).length := by
    have four : (Text.bytes ".bak".toList).length = 4 := rfl
    unfold backupName
    rw [Text.bytes_append, List.length_append, List.length_cons, List.length_append]
    omega
  constructor
  · unfold Path.isVoid
    simp only [Bool.or_eq_false_iff, beq_eq_false_iff_ne]
    constructor
    · cases some : backupName name with
      | nil =>
        rw [some] at long
        exact absurd long (by decide)
      | cons b rest => rfl
    · intro same
      rw [same] at long
      exact absurd long (by decide)
  · intro same
    rw [same] at long
    exact absurd long (by decide)

theorem mem_shown {b : UInt8} (ascii : b < 128) {bytes : List UInt8}
    (member : b ∈ Text.bytes (Text.shown bytes)) : b ∈ bytes :=
  (Text.mem_bytes_shown member).resolve_right fun high => absurd ascii (UInt8.not_lt.mpr high)

theorem slash_not_mem_backupName {name : Name} (plain : Path.slash ∉ name) :
    Path.slash ∉ backupName name := by
  have suffix : Path.slash ∉ Text.bytes ".bak".toList := by decide
  have stem : Path.slash ∉ (Path.splitName name).1 := by
    rcases Path.splitName_cases name with split | ⟨stem, extension, whole, -, split⟩
    · rwa [split]
    · rw [split]
      exact fun inside => plain (by simp [whole, inside])
  have extension : Path.slash ∉ (Path.splitName name).2.getD [] := by
    rcases Path.splitName_cases name with split | ⟨stem, extension, whole, -, split⟩
    · simp [split]
    · rw [split]
      exact fun inside => plain (by rw [whole]; simp [show Path.slash ∈ extension from inside])
  have shown : Path.slash ∉ Text.bytes (Text.shown ((Path.splitName name).2.getD [])) :=
    fun inside => extension (mem_shown (by decide) inside)
  have divides : Path.slash ≠ Path.dot := by decide
  unfold backupName
  rw [Text.bytes_append]
  simp only [List.mem_append, List.mem_cons]
  rintro (inStem | same | inShown | inSuffix)
  · exact stem inStem
  · exact divides same
  · exact shown inShown
  · exact suffix inSuffix

theorem dot_not_mem_shown (name : Name) :
    Path.dot ∉ Text.bytes (Text.shown ((Path.splitName name).2.getD [])) := by
  rcases Path.splitName_cases name with split | ⟨stem, extension, -, plain, split⟩
  · rw [split]
    exact List.not_mem_nil
  · rw [split]
    exact fun inside => plain (mem_shown (by decide) inside)

theorem backupName_inj {a b : Name} (same : backupName a = backupName b) :
    (Path.splitName a).1 = (Path.splitName b).1 ∧
      Text.shown ((Path.splitName a).2.getD []) = Text.shown ((Path.splitName b).2.getD []) := by
  unfold backupName at same
  rw [Text.bytes_append, Text.bytes_append, ← List.cons_append, ← List.cons_append,
    ← List.append_assoc, ← List.append_assoc, List.append_left_inj] at same
  -- No extension has a dot, so both sides are cut at the last one.
  have back := congrArg List.reverse same
  simp only [List.reverse_append, List.reverse_cons, List.append_assoc, List.singleton_append]
    at back
  have pieces := congrArg (List.splitOn Path.dot) back
  rw [List.splitOn_append_cons_self_of_not_mem (by simpa using dot_not_mem_shown a),
    List.splitOn_append_cons_self_of_not_mem (by simpa using dot_not_mem_shown b)] at pieces
  have extensions := (List.cons.inj pieces).1
  rw [extensions] at back
  have stems := (List.cons.inj (List.append_cancel_left back)).2
  exact ⟨List.reverse_injective stems, Text.bytes_injective (List.reverse_injective extensions)⟩

/-- Different names with one backup: one has no extension and the other one is the same with a dot
behind it, or their extensions are shown alike, which those of two texts are not. -/
def TwinNames (a b : Name) : Prop :=
  (Path.splitName a).2 = none ∧ b = a ++ [Path.dot] ∨
    (Path.splitName b).2 = none ∧ a = b ++ [Path.dot] ∨
    ∃ stem e e', Path.splitName a = (stem, some e) ∧ Path.splitName b = (stem, some e') ∧
      e ≠ e' ∧ Text.shown e = Text.shown e' ∧ (Text.ofBytes? e = none ∨ Text.ofBytes? e' = none)

theorem ofBytes?_eq_none_of_shown {e e' : Name} (different : e ≠ e')
    (alike : Text.shown e = Text.shown e') : Text.ofBytes? e = none ∨ Text.ofBytes? e' = none := by
  cases valid : Text.ofBytes? e with
  | none => exact Or.inl rfl
  | some t =>
    cases valid' : Text.ofBytes? e' with
    | none => exact Or.inr rfl
    | some t' =>
      have bytes := Text.bytes_of_ofBytes? valid
      have bytes' := Text.bytes_of_ofBytes? valid'
      rw [← bytes, ← bytes', Text.shown_bytes, Text.shown_bytes] at alike
      rw [← bytes, ← bytes', alike] at different
      exact absurd rfl different

theorem twinNames_of_backupName {a b : Name} (same : backupName a = backupName b)
    (different : a ≠ b) : TwinNames a b := by
  obtain ⟨stems, alike⟩ := backupName_inj same
  rcases Path.splitName_cases a with split | ⟨stem, e, whole, -, split⟩
  · rcases Path.splitName_cases b with split' | ⟨stem', e', whole', -, split'⟩
    · rw [split, split'] at stems
      exact absurd stems different
    · left
      rw [split, split'] at stems alike
      have empty : e' = [] := Text.shown_eq_nil alike.symm
      have sameStem : a = stem' := stems
      rw [whole', empty, sameStem]
      exact ⟨by rw [← sameStem, split], rfl⟩
  · right
    rcases Path.splitName_cases b with split' | ⟨stem', e', whole', -, split'⟩
    · left
      rw [split, split'] at stems alike
      have empty : e = [] := Text.shown_eq_nil alike
      have sameStem : stem = b := stems
      rw [whole, empty, sameStem]
      exact ⟨by rw [split'], rfl⟩
    · right
      rw [split, split'] at stems alike
      have sameStem : stem = stem' := stems
      have other : e ≠ e' := by
        rintro rfl
        exact different (by rw [whole, whole', sameStem])
      refine ⟨stem, e, e', split, ?_, other, alike, ofBytes?_eq_none_of_shown other alike⟩
      rw [split', sameStem]

theorem parts_backupPath {p : Path} {front : List Name} {name : Name}
    (parts : p.parts = front ++ [name]) (proper : Path.IsName name) :
    (backupPath p).parts = front ++ [backupName name] := by
  have path : backupPath p = [Path.slash].intercalate (front ++ [backupName name]) := by
    unfold backupPath Path.withExtension Path.extension?
    rw [Path.fileName?_eq parts proper, Path.fullPieces_eq parts proper]
    have renamed : (Path.splitName name).1 ++
        (if (Text.bytes (Text.shown ((Path.splitName name).2.getD []) ++ ".bak".toList)).isEmpty
          then [] else Path.dot ::
            Text.bytes (Text.shown ((Path.splitName name).2.getD []) ++ ".bak".toList)) =
        backupName name := by
      rw [if_neg (by simp)]
      rfl
    simp only [Option.bind_some, List.dropLast_concat, renamed]
    unfold Path.ofPieces
    split
    · rename_i single
      have empty : backupName name = [] := by
        cases front with
        | nil => simpa using single
        | cons first front => simp at single
      exact absurd empty (backupName_isName name).ne_nil
    · rfl
  have plain : ∀ piece ∈ front ++ [backupName name], Path.slash ∉ piece := by
    have before := Path.parts_plain parts
    intro piece member
    rcases List.mem_append.mp member with inFront | last
    · exact before piece (List.mem_append_left _ inFront)
    · rw [List.mem_singleton.mp last]
      exact slash_not_mem_backupName (before name (by simp))
  rw [path]
  exact List.splitOn_intercalate Path.slash plain (by simp)

end Command

end ScriptLint
