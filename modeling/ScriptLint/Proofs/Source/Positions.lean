import Mathlib
import ScriptLint.Lint.Settings
import ScriptLint.Proofs.Source.Lines

/-!
Positions tell offsets apart.

The position of an offset on a character boundary is told by the text before it: the line breaks
in it, and the characters behind the last one. So positions grow with offsets, and diagnostics are
in the same order by offset and by position.
-/
namespace ScriptLint

namespace Text

theorem slice?_of_parts (p m r : Text) :
    (p ++ (m ++ r)).slice? ⟨size p, size p + size m⟩ = some m := by
  simp [slice?, cut?_prefix]

def lastLine (t : Text) : Text := t.rtakeWhile (· ≠ '\n')

def endedLines (t : Text) : Text := t.rdropWhile (· ≠ '\n')

theorem endedLines_append_lastLine (t : Text) : t.endedLines ++ t.lastLine = t :=
  List.rdropWhile_append_rtakeWhile

theorem lastLine_append {p m : Text} (whole : '\n' ∉ m) :
    (p ++ m).lastLine = p.lastLine ++ m := by
  have inside : ∀ c ∈ m.reverse, decide (c ≠ '\n') = true := by
    intro c member
    simpa using ne_of_mem_of_not_mem (List.mem_reverse.mp member) whole
  rw [lastLine, lastLine, List.rtakeWhile, List.rtakeWhile, List.reverse_append,
    List.takeWhile_append_of_pos inside, List.reverse_append, List.reverse_reverse]

end Text

namespace Position

def key (p : Position) : ℕ ×ₗ ℕ := toLex (p.row, p.column)

def behind (t : Text) : Position := ⟨1 + t.count '\n', 1 + t.lastLine.length⟩

theorem behind_lt (p : Text) {m : Text} (some : m ≠ []) :
    (behind p).key < (behind (p ++ m)).key := by
  rw [key, key, Prod.Lex.toLex_lt_toLex]
  by_cases broken : '\n' ∈ m
  · have := List.count_pos_iff.mpr broken
    left
    simp only [behind, List.count_append]
    omega
  · right
    have := List.length_pos_iff.mpr some
    simp only [behind, List.count_append, List.count_eq_zero.mpr broken, Text.lastLine_append broken,
      List.length_append]
    omega

end Position

theorem getLast?_lineStarts (t : Text) :
    (0 :: laterLineStarts 0 t).getLast? = some (Text.size t.endedLines) := by
  induction t using List.reverseRecOn with
  | nil => rfl
  | append_singleton t c ih =>
    rw [laterLineStarts_append, laterLineStarts_cons, Nat.zero_add]
    by_cases broken : c = '\n'
    · have ended : Text.endedLines (t ++ [c]) = t ++ [c] :=
        List.rdropWhile_concat_neg _ t c (by simp [broken])
      rw [if_pos broken, ended, Text.size_append, ← List.cons_append]
      exact List.getLast?_concat
    · have same : Text.endedLines (t ++ [c]) = Text.endedLines t :=
        List.rdropWhile_concat_pos _ t c (by simp [broken])
      rw [if_neg broken, same, ← ih, laterLineStarts, List.append_nil]

namespace SourceFile

variable {f : SourceFile}

theorem lineStart_behind (lined : f.Lined) {p r : Text} (whole : f.text = p ++ r) :
    f.lineStarts[p.count '\n']? = some (Text.size p.endedLines) := by
  rw [lined, whole, laterLineStarts_append, List.getElem?_toArray, ← List.cons_append,
    List.getElem?_append_left (by simp [length_laterLineStarts]), ← getLast?_lineStarts,
    List.getLast?_eq_getElem?, List.length_cons, length_laterLineStarts, Nat.add_sub_cancel]

theorem position_eq_behind (lined : f.Lined) {p r : Text} (whole : f.text = p ++ r) :
    f.position (Text.size p) = .behind p := by
  have row : f.lineOf (Text.size p) = 1 + p.count '\n' := by
    have breaks := breaksBy_inside p [] r (Nat.le_refl 0)
    rw [Nat.add_zero, List.nil_append, breaksBy_zero, Nat.add_zero] at breaks
    rw [lineOf_eq lined, whole, breaks]
  have start := lineStart_behind lined whole
  have stop : min (Text.size p) (Text.size f.text) =
      Text.size p.endedLines + Text.size p.lastLine := by
    rw [← Text.size_append, Text.endedLines_append_lastLine, whole, Text.size_append]
    omega
  have line : f.text.slice? ⟨Text.size p.endedLines,
      Text.size p.endedLines + Text.size p.lastLine⟩ = some p.lastLine := by
    have found := Text.slice?_of_parts p.endedLines p.lastLine r
    rwa [← List.append_assoc, Text.endedLines_append_lastLine, ← whole] at found
  have before : 1 + p.count '\n' - 1 = p.count '\n' := Nat.add_sub_cancel_left ..
  simp only [position, row, before, start, Option.getD_some, stop, line]
  rw [Position.behind, Nat.add_comm 1 p.lastLine.length]

theorem position_lt (lined : f.Lined) {m n : Nat} (less : m < n)
    (first : f.text.isBoundary m = true) (second : f.text.isBoundary n = true) :
    (f.position m).key < (f.position n).key := by
  obtain ⟨p, r, whole, start, stop⟩ := @Text.slice_parts f.text ⟨m, n⟩ less.le first second
  have some : f.text.slice ⟨m, n⟩ ≠ [] := by
    intro none
    rw [none, Text.size_nil] at stop
    simp only at start stop
    omega
  have early := position_eq_behind lined whole
  rw [← List.append_assoc] at whole
  have late := position_eq_behind lined whole
  rw [Text.size_append] at late
  simp only at start stop
  rw [start] at early
  rw [stop] at late
  rw [early, late]
  exact Position.behind_lt p some

theorem lineStart_le (lined : f.Lined) (n : Nat) :
    1 ≤ f.lineOf n ∧ ∃ start, f.lineStarts[f.lineOf n - 1]? = some start ∧
      start ≤ min n (Text.size f.text) := by
  have row : 1 ≤ f.lineOf n := by
    rw [lineOf_eq lined]
    omega
  have sorted := lineStarts_partitioned lined n
  have held : (f.lineStarts[f.lineOf n - 1]?).any (· ≤ n) = true := by
    rw [← Array.getElem?_toList, any_iff_lt_takeWhile sorted, ← partitionPoint_eq sorted]
    exact decide_eq_true (Nat.sub_lt row Nat.one_pos)
  obtain ⟨start, found, early⟩ := (Option.any_eq_true ..).mp held
  refine ⟨row, start, found, Nat.le_min.mpr ⟨of_decide_eq_true early, ?_⟩⟩
  have member := Array.mem_of_getElem? found
  rw [lined, List.mem_toArray] at member
  rcases List.mem_cons.mp member with rfl | later
  · exact Nat.zero_le _
  · have := (laterLineStarts_bounds later).2
    omega

/-- The position with every subtraction and every look-up checked. -/
def checkedPosition (f : SourceFile) (offset : Nat) : Option Position := do
  let row := f.lineOf offset
  let before ← if 1 ≤ row then some (row - 1) else none
  let lineStart ← f.lineStarts[before]?
  let stop := min offset f.text.size
  let width ← match f.text.slice? ⟨lineStart, stop⟩ with
    | some line => some line.length
    | none => if lineStart ≤ stop then some (stop - lineStart) else none
  return ⟨row, width + 1⟩

theorem checkedPosition_eq (lined : f.Lined) (n : Nat) :
    f.checkedPosition n = some (f.position n) := by
  obtain ⟨row, start, found, fits⟩ := lineStart_le lined n
  simp only [checkedPosition, position, if_pos row, found, Option.bind_eq_bind, Option.bind_some,
    Option.getD_some]
  cases f.text.slice? ⟨start, min n (Text.size f.text)⟩ with
  | some line => rfl
  | none => simp [fits]

end SourceFile

theorem Finding.diagnose_start {g : Finding} {settings : Settings} {f : SourceFile} {d : Diagnostic}
    (made : g.diagnose settings f = .ok (some d)) : d.start = f.position d.span.start := by
  unfold diagnose at made
  split at made
  · cases made
  · split at made
    · cases made
    · cases made
      rfl

/-- Positions on boundaries grow with the offsets and are told by the text before them. Positions of
all offsets whatsoever are found without a look-up that fails or a subtraction that is cut off. So
diagnostics stand in the same order by offset and by position. -/
theorem SourceFile.positions_grow_with_offsets (text : Text) (tree : Tree) (tokens : List Token)
    (comments : List Comment) (globals : List Text) :
    let f := ofParts text tree tokens comments globals
    (∀ m n, m < n → text.isBoundary m = true → text.isBoundary n = true →
        (f.position m).key < (f.position n).key) ∧
      (∀ n, text.isBoundary n = true → f.position n =
        ⟨1 + (text.before n).count '\n', 1 + (text.before n).lastLine.length⟩) ∧
      (∀ n, f.checkedPosition n = some (f.position n)) ∧
      ∀ (settings : Settings) (ds : List Diagnostic),
        (∀ d ∈ ds, text.isBoundary d.span.start = true ∧
          ∃ finding : Finding, finding.diagnose settings f = .ok (some d)) →
        Diagnostic.sortByStart ds = ds.mergeSort fun a b => a.start.key ≤ b.start.key := by
  intro f
  have lined : f.Lined := rfl
  have grows : StrictMonoOn (fun n => (f.position n).key) {n | text.isBoundary n = true} :=
    fun m first n second less => position_lt lined less first second
  refine ⟨fun m n less first second => grows first second less, ?_, checkedPosition_eq lined, ?_⟩
  · intro n boundary
    obtain ⟨whole, size⟩ := Text.boundary_parts boundary
    have place := position_eq_behind lined whole
    rwa [size] at place
  · intro settings ds made
    have same : ∀ a ∈ ds, ∀ b ∈ ds,
        decide (a.span.start ≤ b.span.start) = decide (a.start.key ≤ b.start.key) := by
      intro a first b second
      obtain ⟨boundary, g, from_a⟩ := made a first
      obtain ⟨boundary', g', from_b⟩ := made b second
      rw [Finding.diagnose_start from_a, Finding.diagnose_start from_b]
      exact decide_eq_decide.mpr (grows.le_iff_le boundary boundary').symm
    have sorted := @List.map_mergeSort _ _ (fun a b => a.span.start ≤ b.span.start)
      (fun a b => a.start.key ≤ b.start.key) id ds same
    rw [List.map_id, List.map_id] at sorted
    exact sorted

/-- The first line is one character of two bytes, and offset 1 lies inside of it. Of two diagnostics
the one on the second line was made first. -/
theorem SourceFile.positions_grow_with_offsets_accent :
    let f := ofParts "é\nab".toList ⟨#[], 0, parentTable #[], rfl⟩ [] [] []
    let finding (s : Span) : Finding :=
      ⟨.orderedDestructuring, s, "sortPropsInObjectPattern", [], none⟩
    f.text.isBoundary 2 = true ∧ f.text.isBoundary 4 = true ∧
      (f.position 2).key < (f.position 4).key ∧ f.position 2 = ⟨1, 2⟩ ∧ f.position 4 = ⟨2, 2⟩ ∧
      f.checkedPosition 1 = some (f.position 1) ∧
      ∃ late early, (finding ⟨4, 5⟩).diagnose {} f = .ok (some late) ∧
        (finding ⟨0, 2⟩).diagnose {} f = .ok (some early) ∧
        Diagnostic.sortByStart [late, early] =
          [late, early].mergeSort fun a b => a.start.key ≤ b.start.key := by
  intro f finding
  obtain ⟨grows, told, checked, sorts⟩ :=
    positions_grow_with_offsets "é\nab".toList ⟨#[], 0, parentTable #[], rfl⟩ [] [] []
  have second : Text.isBoundary 2 "é\nab".toList = true := by decide
  have fourth : Text.isBoundary 4 "é\nab".toList = true := by decide
  have made (s : Span) : ∃ d, (finding s).diagnose {} f = .ok (some d) ∧ d.span = s :=
    ⟨_, rfl, rfl⟩
  obtain ⟨late, from_late, place⟩ := made ⟨4, 5⟩
  obtain ⟨early, from_early, place'⟩ := made ⟨0, 2⟩
  refine ⟨second, fourth, grows 2 4 (by decide) second fourth, ?_, ?_, checked 1, late, early,
    from_late, from_early, sorts {} _ ?_⟩
  · rw [told 2 second]
    rfl
  · rw [told 4 fourth]
    rfl
  · refine List.forall_mem_cons.mpr ⟨⟨?_, _, from_late⟩, List.forall_mem_singleton.mpr
      ⟨?_, _, from_early⟩⟩
    · rw [place]
      exact fourth
    · rw [place']
      exact Text.isBoundary_zero _

end ScriptLint
