import Mathlib
import ScriptLint.Proofs.Diff.Hunks
import ScriptLint.Proofs.Text.Splitting
import ScriptLint.Text.Digits

/-!
Printed diffs are patches.

A patch is read from text without a look at the texts that it was made from, and it is replayed on
lines by the numbers and the marks that it holds. What is printed for two texts can be read, and
replayed on the lines of the first text it gives the lines of the second.
-/
namespace ScriptLint

namespace Text

theorem stripPrefix?_append (p t : Text) : stripPrefix? p (p ++ t) = some t := by
  induction p with
  | nil => rfl
  | cons c p ih => simpa [stripPrefix?] using ih

theorem break_not_mem_lines {t line : Text} (member : line ∈ t.lines) : '\n' ∉ line := by
  fun_induction lines t generalizing line with
  | case1 => cases member
  | case2 t ih =>
    rcases List.mem_cons.mp member with rfl | later
    · exact List.not_mem_nil
    · exact ih later
  | case3 t ih =>
    rcases List.mem_cons.mp member with rfl | later
    · exact List.not_mem_nil
    · exact ih later
  | case4 c t other _ last ih =>
    rw [List.mem_singleton.mp member, List.mem_singleton]
    exact fun same => other same.symm
  | case5 c t other _ first rest found ih =>
    rw [found] at ih
    rcases List.mem_cons.mp member with rfl | later
    · rw [List.mem_cons, not_or]
      exact ⟨fun same => other same.symm, ih List.mem_cons_self⟩
    · exact ih (List.mem_cons_of_mem _ later)

end Text

structure LineRange where
  start : Nat
  count : Nat
  deriving DecidableEq, Repr

namespace LineRange

def contains (r : LineRange) (line : Nat) : Bool := r.start ≤ line && line < r.start + r.count

def Before (r s : LineRange) : Prop := r.start + r.count < s.start

def write (r : LineRange) : Text := Text.ofNat r.start ++ ",".toList ++ Text.ofNat r.count

end LineRange

inductive PatchLine where
  | kept (text : Text)
  | removed (text : Text)
  | added (text : Text)
  deriving DecidableEq, Repr

namespace PatchLine

def read? : Text → Option PatchLine
  | ' ' :: t => some (kept t)
  | '-' :: t => some (removed t)
  | '+' :: t => some (added t)
  | _ => none

def old? : PatchLine → Option Text
  | kept t | removed t => some t
  | added _ => none

def new? : PatchLine → Option Text
  | kept t | added t => some t
  | removed _ => none

end PatchLine

structure PatchHunk where
  old : LineRange
  new : LineRange
  lines : List PatchLine
  deriving DecidableEq, Repr

namespace PatchHunk

def oldLines (h : PatchHunk) : List Text := h.lines.filterMap PatchLine.old?

def newLines (h : PatchHunk) : List Text := h.lines.filterMap PatchLine.new?

def covers (h : PatchHunk) (line : Nat) : Bool := h.old.contains line || h.new.contains line

end PatchHunk

structure Patch where
  oldPath : Text
  newPath : Text
  hunks : List PatchHunk
  deriving DecidableEq, Repr

namespace Patch

/-! ### Reading -/

def readNumber? (t : Text) : Option (Nat × Text) :=
  match t.takeWhile Char.isDigit with
  | [] => none
  | digits => some (Nat.ofDigitChars 10 digits 0, t.dropWhile Char.isDigit)

def readRange? (t : Text) : Option (LineRange × Text) := do
  let (start, t) ← readNumber? t
  let t ← Text.stripPrefix? ",".toList t
  let (count, t) ← readNumber? t
  return (⟨start, count⟩, t)

def readHeader? (t : Text) : Option (LineRange × LineRange) := do
  let t ← Text.stripPrefix? "@@ -".toList t
  let (old, t) ← readRange? t
  let t ← Text.stripPrefix? " +".toList t
  let (new, t) ← readRange? t
  if t = " @@".toList then return (old, new) else none

def readHunks? : List Text → Option (List PatchLine × List PatchHunk)
  | [] => some ([], [])
  | t :: ts => do
    let (lines, hunks) ← readHunks? ts
    match PatchLine.read? t with
    | some line => return (line :: lines, hunks)
    | none =>
      let (old, new) ← readHeader? t
      return ([], ⟨old, new, lines⟩ :: hunks)

def read? (t : Text) : Option Patch :=
  match Text.splitOn '\n' t with
  | first :: second :: rest => do
    let oldPath ← Text.stripPrefix? "--- a/".toList first
    let newPath ← Text.stripPrefix? "+++ b/".toList second
    match rest.getLast?, readHunks? rest.dropLast with
    | some [], some ([], hunks) => return ⟨oldPath, newPath, hunks⟩
    | _, _ => none
  | _ => none

/-! ### Replaying -/

/-- The lines from number `line` on after the hunks were replayed on them. Lines outside of hunks
stay, and a hunk is refused unless its old lines are the ones in its place. -/
def replay (line : Nat) (lines : List Text) : List PatchHunk → Option (List Text)
  | [] => some lines
  | h :: hs =>
    let kept := h.old.start - line
    if line ≤ h.old.start ∧ kept ≤ lines.length ∧ h.oldLines <+: lines.drop kept then
      (replay (h.old.start + h.oldLines.length) (lines.drop (kept + h.oldLines.length)) hs).map
        (lines.take kept ++ h.newLines ++ ·)
    else none

/-! ### Reading what was written -/

theorem readNumber?_ofNat (n : Nat) {c : Char} (t : Text) (ends : c.isDigit = false) :
    readNumber? (Text.ofNat n ++ c :: t) = some (n, c :: t) := by
  have digits : ∀ d ∈ Text.ofNat n, d.isDigit = true :=
    fun d member => Nat.isDigit_of_mem_toDigits (by decide) (by decide) member
  have front : (Text.ofNat n ++ c :: t).takeWhile Char.isDigit = Text.ofNat n := by
    rw [List.takeWhile_append_of_pos digits, List.takeWhile_cons_of_neg (by simp [ends]),
      List.append_nil]
  have rest : (Text.ofNat n ++ c :: t).dropWhile Char.isDigit = c :: t := by
    rw [List.dropWhile_append_of_pos digits, List.dropWhile_cons_of_neg (by simp [ends])]
  have value : Nat.ofDigitChars 10 (Text.ofNat n) 0 = n :=
    Nat.ofDigitChars_toDigits (by decide) (by decide)
  rw [readNumber?, front, rest]
  split
  · rename_i none
    exact absurd none Nat.toDigits_ne_nil
  · rw [value]

theorem readRange?_write (r : LineRange) {c : Char} (t : Text) (ends : c.isDigit = false) :
    readRange? (r.write ++ c :: t) = some (r, c :: t) := by
  have start : readNumber? (Text.ofNat r.start ++ (",".toList ++ (Text.ofNat r.count ++ c :: t))) =
      some (r.start, ",".toList ++ (Text.ofNat r.count ++ c :: t)) :=
    readNumber?_ofNat r.start _ rfl
  simp only [readRange?, LineRange.write, List.append_assoc, start, Option.bind_eq_bind,
    Option.bind_some, Text.stripPrefix?_append, readNumber?_ofNat r.count t ends]
  rfl

theorem readHeader?_write (old new : LineRange) :
    readHeader? ("@@ -".toList ++ (old.write ++ (" +".toList ++ (new.write ++ " @@".toList)))) =
      some (old, new) := by
  have first : readRange? (old.write ++ (" +".toList ++ (new.write ++ " @@".toList))) =
      some (old, " +".toList ++ (new.write ++ " @@".toList)) := readRange?_write old _ rfl
  have second : readRange? (new.write ++ " @@".toList) = some (new, " @@".toList) :=
    readRange?_write new _ rfl
  simp only [readHeader?, Option.bind_eq_bind, Text.stripPrefix?_append, Option.bind_some, first,
    second]
  rfl

theorem readHunks?_lines {body : List Text} {lines : List PatchLine}
    (read : body.map PatchLine.read? = lines.map some) {rest : List Text}
    {hunks : List PatchHunk} (later : readHunks? rest = some ([], hunks)) :
    readHunks? (body ++ rest) = some (lines, hunks) := by
  induction body generalizing lines with
  | nil =>
    have none : lines = [] := by simpa using read.symm
    rw [none]
    exact later
  | cons t body ih =>
    cases lines with
    | nil => cases read
    | cons line lines =>
      obtain ⟨head, tail⟩ := List.cons.inj read
      simp [readHunks?, ih tail, head]

theorem readHunks?_header {t : Text} {ranges : LineRange × LineRange} {rest : List Text}
    {lines : List PatchLine} {hunks : List PatchHunk} (none : PatchLine.read? t = none)
    (head : readHeader? t = some ranges) (later : readHunks? rest = some (lines, hunks)) :
    readHunks? (t :: rest) = some ([], ⟨ranges.1, ranges.2, lines⟩ :: hunks) := by
  simp [readHunks?, none, head, later]

end Patch

namespace Diff

/-! ### What is read of a printed hunk -/

def lineRange (lines : List Text) (h : Hunk) : LineRange :=
  ⟨h.first + 1, min h.last lines.length - h.first⟩

def patchLines (before after : List Text) (i : Nat) : List PatchLine :=
  if before[i]? = after[i]? then (before[i]?.map .kept).toList
  else (before[i]?.map .removed).toList ++ (after[i]?.map .added).toList

def patchHunk (before after : List Text) (h : Hunk) : PatchHunk :=
  ⟨lineRange before h, lineRange after h,
    (List.range' h.first (h.last - h.first)).flatMap (patchLines before after)⟩

theorem header_eq (before after : List Text) (h : Hunk) :
    header before after h =
      "@@ -".toList ++ ((lineRange before h).write ++ (" +".toList ++
        ((lineRange after h).write ++ " @@".toList))) := by
  have digits (n : Nat) : (toString n).toList = Text.ofNat n := Nat.toList_repr
  simp only [header, LineRange.write, String.toList_append, List.append_assoc, digits]
  rfl

theorem readLines_lineBody (before after : List Text) (i : Nat) :
    (lineBody before after i).map PatchLine.read? = (patchLines before after i).map some := by
  unfold lineBody patchLines
  split
  · cases before[i]? <;> rfl
  · cases before[i]? <;> cases after[i]? <;> rfl

theorem readHunks?_hunkLines (before after : List Text) (hs : List Hunk) :
    Patch.readHunks? (hs.flatMap (hunkLines before after)) =
      some ([], hs.map (patchHunk before after)) := by
  induction hs with
  | nil => rfl
  | cons h hs ih =>
    rw [List.flatMap_cons, hunkLines, List.cons_append]
    rw [header_eq]
    refine Patch.readHunks?_header rfl (Patch.readHeader?_write _ _) (Patch.readHunks?_lines ?_ ih)
    rw [List.map_flatMap, List.map_flatMap]
    simp only [readLines_lineBody]

/-! ### The lines of a printed diff -/

theorem unlines_eq_joinWith (lines : List Text) :
    unlines lines = Text.joinWith ['\n'] (lines ++ [[]]) := by
  induction lines with
  | nil => rfl
  | cons line lines ih =>
    rw [unlines, List.flatMap_cons, ← unlines, ih]
    cases lines <;> simp [Text.joinWith]

theorem splitOn_unlines {lines : List Text} (plain : ∀ line ∈ lines, '\n' ∉ line) :
    Text.splitOn '\n' (unlines lines) = lines ++ [[]] := by
  rw [unlines_eq_joinWith]
  refine Text.splitOn_joinWith (by simp) fun piece member => ?_
  rcases List.mem_append.mp member with line | last
  · exact plain piece line
  · simp [List.mem_singleton.mp last]

theorem break_not_mem_header (before after : List Text) (h : Hunk) :
    '\n' ∉ header before after h := by
  have digits (n : Nat) : '\n' ∉ Text.ofNat n := fun member =>
    absurd (Nat.isDigit_of_mem_toDigits (by decide) (by decide) member) (by decide)
  rw [header_eq]
  simp [LineRange.write, digits]

theorem break_not_mem_lineBody {before after : List Text} (old : ∀ line ∈ before, '\n' ∉ line)
    (new : ∀ line ∈ after, '\n' ∉ line) {i : Nat} {line : Text}
    (member : line ∈ lineBody before after i) : '\n' ∉ line := by
  have marked {c : Char} {lines : List Text} (plain : ∀ line ∈ lines, '\n' ∉ line) (mark : '\n' ≠ c)
      (shown : line ∈ (lines[i]?.map (c :: ·)).toList) : '\n' ∉ line := by
    obtain ⟨text, found, rfl⟩ := Option.map_eq_some_iff.mp (Option.mem_toList.mp shown)
    exact List.not_mem_cons_of_ne_of_not_mem mark (plain text (List.mem_of_getElem? found))
  unfold lineBody at member
  split at member
  · exact marked old (by decide) member
  · rcases List.mem_append.mp member with goes | comes
    · exact marked old (by decide) goes
    · exact marked new (by decide) comes

theorem break_not_mem_hunkLines {before after : List Text} (old : ∀ line ∈ before, '\n' ∉ line)
    (new : ∀ line ∈ after, '\n' ∉ line) {h : Hunk} {line : Text}
    (member : line ∈ hunkLines before after h) : '\n' ∉ line := by
  rw [hunkLines] at member
  rcases List.mem_cons.mp member with same | body
  · rw [same]
    exact break_not_mem_header before after h
  · obtain ⟨i, -, shown⟩ := List.mem_flatMap.mp body
    exact break_not_mem_lineBody old new shown

theorem read?_render (context : Nat) {before after path : Text} (single : '\n' ∉ path)
    (differ : before.lines ≠ after.lines) :
    Patch.read? (render context before after path) = some ⟨path, path,
      (hunks context (max before.lines.length after.lines.length)
        (changedLines before.lines after.lines)).map (patchHunk before.lines after.lines)⟩ := by
  have some : changedLines before.lines after.lines ≠ [] :=
    fun none => differ (changedLines_eq_nil_iff.mp none)
  have plain : ∀ line ∈ ("--- a/".toList ++ path) :: ("+++ b/".toList ++ path) ::
      (hunks context (max before.lines.length after.lines.length)
        (changedLines before.lines after.lines)).flatMap (hunkLines before.lines after.lines),
      '\n' ∉ line := by
    refine List.forall_mem_cons.mpr ⟨by simpa using single,
      List.forall_mem_cons.mpr ⟨by simpa using single, fun line member => ?_⟩⟩
    obtain ⟨h, -, shown⟩ := List.mem_flatMap.mp member
    exact break_not_mem_hunkLines (fun _ => Text.break_not_mem_lines)
      (fun _ => Text.break_not_mem_lines) shown
  unfold render
  dsimp only
  split
  · rename_i none
    exact absurd none some
  · rw [Patch.read?, splitOn_unlines plain]
    simp only [List.cons_append, Text.stripPrefix?_append, Option.bind_eq_bind, Option.bind_some,
      List.getLast?_concat, List.dropLast_concat, readHunks?_hunkLines]
    rfl

/-! ### The two sides of a hunk -/

theorem filterMap_getElem?_range' (lines : List Text) (first n : Nat) :
    (List.range' first n).filterMap (lines[·]?) = (lines.drop first).take n := by
  induction n generalizing first with
  | zero => rfl
  | succ n ih =>
    rw [List.range'_succ, List.filterMap_cons, ih]
    by_cases inside : first < lines.length
    · rw [List.getElem?_eq_getElem inside, List.drop_eq_getElem_cons inside, List.take_succ_cons]
    · rw [List.getElem?_eq_none (by omega), List.drop_eq_nil_of_le (by omega),
        List.drop_eq_nil_of_le (by omega), List.take_nil, List.take_nil]

theorem sides_patchLines (before after : List Text) (i : Nat) :
    (patchLines before after i).filterMap PatchLine.old? = before[i]?.toList ∧
      (patchLines before after i).filterMap PatchLine.new? = after[i]?.toList := by
  unfold patchLines
  split
  · rename_i same
    rw [← same]
    cases before[i]? <;> exact ⟨rfl, rfl⟩
  · cases before[i]? <;> cases after[i]? <;> exact ⟨rfl, rfl⟩

theorem oldLines_patchHunk (before after : List Text) (h : Hunk) :
    (patchHunk before after h).oldLines = (before.drop h.first).take (h.last - h.first) := by
  rw [← filterMap_getElem?_range', PatchHunk.oldLines, patchHunk, List.filterMap_flatMap]
  simp only [(sides_patchLines before after _).1, List.filterMap_eq_flatMap_toList]

theorem newLines_patchHunk (before after : List Text) (h : Hunk) :
    (patchHunk before after h).newLines = (after.drop h.first).take (h.last - h.first) := by
  rw [← filterMap_getElem?_range', PatchHunk.newLines, patchHunk, List.filterMap_flatMap]
  simp only [(sides_patchLines before after _).2, List.filterMap_eq_flatMap_toList]

theorem length_drop_take (lines : List Text) (h : Hunk) :
    ((lines.drop h.first).take (h.last - h.first)).length = (lineRange lines h).count := by
  simp only [List.length_take, List.length_drop, lineRange]
  omega

theorem covers_patchHunk {before after : List Text} {h : Hunk}
    (within : h.last ≤ max before.length after.length) (i : Nat) :
    (patchHunk before after h).covers (i + 1) = decide (h.Holds i) := by
  rw [Bool.eq_iff_iff, decide_eq_true_iff]
  simp only [PatchHunk.covers, LineRange.contains, Bool.or_eq_true, Bool.and_eq_true,
    decide_eq_true_eq]
  simp only [patchHunk, lineRange, Hunk.Holds]
  omega

section Replaying

variable {before after : List Text} {start : Nat} {h : Hunk} {hs : List Hunk}

theorem take_eq_of_agree {first : Nat}
    (agree : ∀ i, start ≤ i → i < first → before[i]? = after[i]?) :
    (before.drop start).take (first - start) = (after.drop start).take (first - start) := by
  apply List.ext_getElem?
  intro i
  rw [List.getElem?_take, List.getElem?_take, List.getElem?_drop, List.getElem?_drop]
  split
  · exact agree (start + i) (by omega) (by omega)
  · rfl

theorem drop_split (lines : List Text) {first : Nat} (later : start ≤ first) :
    lines.drop start = (lines.drop start).take (first - start) ++ lines.drop first := by
  have parts := List.take_append_drop (first - start) (lines.drop start)
  rwa [List.drop_drop, Nat.add_sub_cancel' later, eq_comm] at parts

theorem last_of_short
    (shown : Shows start (max before.length after.length) (fun i => before[i]? ≠ after[i]?) (h :: hs))
    (short : before.length < h.last) : hs = [] := by
  cases hs with
  | nil => rfl
  | cons k hs =>
    have behind := (List.pairwise_cons.mp shown.apart).1 k List.mem_cons_self
    have inside := shown.inside k (List.mem_cons_of_mem _ List.mem_cons_self)
    have same := not_not.mp (shown.tail.unchanged_before (Nat.le_refl h.last) behind)
    rw [List.getElem?_eq_none (by omega)] at same
    have := List.getElem?_eq_none_iff.mp same.symm
    omega

theorem first_le_length
    (shown : Shows start (max before.length after.length) (fun i => before[i]? ≠ after[i]?) (h :: hs)) :
    h.first - start ≤ (before.drop start).length := by
  have inside := shown.inside h List.mem_cons_self
  rw [List.length_drop]
  by_contra short
  have same := not_not.mp (@Shows.unchanged_before _ _ _ _ _ shown (h.first - 1) (by omega) (by omega))
  rw [List.getElem?_eq_none (by omega)] at same
  have := List.getElem?_eq_none_iff.mp same.symm
  omega

theorem replay_behind
    (shown : Shows start (max before.length after.length) (fun i => before[i]? ≠ after[i]?) (h :: hs))
    (tail : Patch.replay (h.last + 1) (before.drop h.last) (hs.map (patchHunk before after)) =
      some (after.drop h.last)) :
    Patch.replay (h.first + 1 + (lineRange before h).count)
        (before.drop (h.first + (lineRange before h).count)) (hs.map (patchHunk before after)) =
      some (after.drop h.last) := by
  have filled := (shown.inside h List.mem_cons_self).2.1
  by_cases whole : h.last ≤ before.length
  · have stop : h.first + (lineRange before h).count = h.last := by
      simp only [lineRange]
      omega
    rw [Nat.add_right_comm, stop]
    exact tail
  · have past : before.length ≤ h.first + (lineRange before h).count := by
      simp only [lineRange]
      omega
    rw [last_of_short shown (by omega)] at tail ⊢
    rw [List.drop_eq_nil_of_le (by omega : before.length ≤ h.last)] at tail
    rw [List.drop_eq_nil_of_le past]
    exact tail

/-- The induction is on the hunks still to come, and `start` is the line behind the last one. From
there on the texts agree outside of the hunks. -/
theorem replay_patchHunks
    (shown : Shows start (max before.length after.length) (fun i => before[i]? ≠ after[i]?) hs) :
    Patch.replay (start + 1) (before.drop start) (hs.map (patchHunk before after)) =
      some (after.drop start) := by
  induction hs generalizing start with
  | nil =>
    have agree : before.drop start = after.drop start := by
      apply List.ext_getElem?
      intro i
      rw [List.getElem?_drop, List.getElem?_drop]
      by_contra differs
      obtain ⟨h, member, -⟩ := shown.holds (start + i) (by omega) differs
      cases member
    rw [← agree]
    rfl
  | cons h hs ih =>
    obtain ⟨later, filled, -⟩ := shown.inside h List.mem_cons_self
    have front := take_eq_of_agree fun i low high =>
      not_not.mp (shown.unchanged_before low high)
    have rest := replay_behind shown (ih shown.tail)
    have place : (patchHunk before after h).old.start - (start + 1) = h.first - start :=
      Nat.add_sub_add_right ..
    rw [List.map_cons, Patch.replay, place, oldLines_patchHunk, newLines_patchHunk,
      length_drop_take, List.drop_drop, List.drop_drop, ← Nat.add_assoc, Nat.add_sub_cancel' later,
      if_pos ⟨Nat.succ_le_succ later, first_le_length shown, List.take_prefix _ _⟩]
    refine (congrArg (Option.map _) rest).trans ?_
    rw [Option.map_some, front, List.append_assoc, ← drop_split after filled.le,
      ← drop_split after later]

end Replaying

theorem patchHunks_apart {total : Nat} {changed : Nat → Prop} {start : Nat} {hs : List Hunk}
    (shown : Shows start total changed hs) (before after : List Text) :
    (hs.map (patchHunk before after)).Pairwise fun h k => h.old.Before k.old ∧ h.new.Before k.new := by
  rw [List.pairwise_map]
  refine shown.apart.imp_of_mem fun {h k} first _ gap => ?_
  have filled := (shown.inside h first).2.1
  simp only [patchHunk, LineRange.Before, lineRange]
  omega

/-- A diff is empty exactly when the texts have the same lines. Otherwise it reads as a patch whose
hunks stand in order and apart, count their lines right, hold each changed line once, and turn the
lines of the first text into those of the second. -/
theorem printed_diff_patches_lines (context : Nat) (before after path : Text) (single : '\n' ∉ path) :
    (render context before after path = [] ↔ before.lines = after.lines) ∧
      (before.lines ≠ after.lines → ∃ hunks : List PatchHunk,
        Patch.read? (render context before after path) = some ⟨path, path, hunks⟩ ∧
        hunks.Pairwise (fun h k => h.old.Before k.old ∧ h.new.Before k.new) ∧
        (∀ i, before.lines[i]? ≠ after.lines[i]? → hunks.countP (·.covers (i + 1)) = 1) ∧
        (∀ h ∈ hunks, h.old.start = h.new.start ∧ h.old.count = h.oldLines.length ∧
          h.new.count = h.newLines.length) ∧
        Patch.replay 1 before.lines hunks = some after.lines) := by
  constructor
  · rw [← changedLines_eq_nil_iff]
    unfold render
    dsimp only
    split
    · simp [*]
    · rename_i some
      simpa [unlines] using some
  · intro differ
    have shown := hunks_show context before.lines after.lines
    refine ⟨_, read?_render context single differ, patchHunks_apart shown _ _, ?_, ?_, ?_⟩
    · intro i changed
      have once := shown.countP_holds (Nat.zero_le i) changed
      rw [List.countP_map]
      refine (List.countP_congr fun h member => ?_).trans once
      rw [Function.comp_apply, covers_patchHunk (shown.inside h member).2.2]
    · intro h member
      obtain ⟨g, -, rfl⟩ := List.mem_map.mp member
      rw [oldLines_patchHunk, newLines_patchHunk, length_drop_take, length_drop_take]
      exact ⟨rfl, rfl, rfl⟩
    · exact replay_patchHunks shown

theorem printed_diff_patches_lines_longer :
    '\n' ∉ "a.ts".toList ∧ Text.lines "a\r\nb\nc".toList ≠ Text.lines "x\nb\ny\nz\r".toList ∧
      ∃ hunks : List PatchHunk,
        Patch.read? (render 0 "a\r\nb\nc".toList "x\nb\ny\nz\r".toList "a.ts".toList) =
          some ⟨"a.ts".toList, "a.ts".toList, hunks⟩ ∧
        hunks.map (fun h => (h.old, h.new)) = [(⟨1, 1⟩, ⟨1, 1⟩), (⟨3, 1⟩, ⟨3, 2⟩)] ∧
        Patch.replay 1 ["a".toList, "b".toList, "c".toList] hunks =
          some ["x".toList, "b".toList, "y".toList, "z\r".toList] := by
  have differ : Text.lines "a\r\nb\nc".toList ≠ Text.lines "x\nb\ny\nz\r".toList := by decide
  obtain ⟨hunks, read, -, -, -, replayed⟩ :=
    (printed_diff_patches_lines 0 _ _ "a.ts".toList (by decide)).2 differ
  have headers : (Patch.read? (render 0 "a\r\nb\nc".toList "x\nb\ny\nz\r".toList
      "a.ts".toList)).map (·.hunks.map fun h => (h.old, h.new)) =
      some [(⟨1, 1⟩, ⟨1, 1⟩), (⟨3, 1⟩, ⟨3, 2⟩)] := by
    decide
  rw [read] at headers
  exact ⟨by decide, differ, hunks, read, Option.some.inj headers, replayed⟩

end Diff

end ScriptLint
