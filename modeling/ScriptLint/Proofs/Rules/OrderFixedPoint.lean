import ScriptLint.Proofs.Collation
import ScriptLint.Proofs.Rules.SortedNeighbours

/-!
What a sorted run looks like when the file is read again.

The run is sorted and holds together, and the runs before and after it are as they were, unless the
run joins the next one. Then both are one run, and its imports may be out of order where they meet.
-/
namespace ScriptLint.ImportPaths

theorem isAfter_of_putAt {r : ImportOrder} {a b a' b' : ImportEntry} {s t s' t' : Span}
    (first : a'.putAt s' = a.putAt s) (second : b'.putAt t' = b.putAt t) :
    r.isAfter a' b' = r.isAfter a b := by
  have placed : r.isAfter (a'.putAt s') (b'.putAt t') = r.isAfter (a.putAt s) (b.putAt t) := by
    rw [first, second]
  exact placed

theorem checkOrder_eq_nil_iff {r : ImportOrder} {file : SourceFile} {p : Plan} {s : State} {i : Nat}
    {entry : ImportEntry} : (checkOrder r file p s i entry).1 = [] ↔
      ∀ j, s.previous = some j → (r.allowSeparateGroups = true → p.runOf j = p.runOf i) →
        ∀ previous, p.imports[j]? = some previous → r.isAfter previous entry = false := by
  unfold checkOrder neighbour?
  cases before : s.previous with
  | none => simp
  | some j =>
    by_cases apart : r.allowSeparateGroups = true ∧ p.runOf j ≠ p.runOf i
    · have dropped : ¬ (!(r.allowSeparateGroups && p.runOf j != p.runOf i)) = true := by
        simpa using apart
      rw [Option.filter_some, if_neg dropped]
      simp [apart]
    · have near : r.allowSeparateGroups = true → p.runOf j = p.runOf i := by
        intro separate
        exact not_not.mp fun other => apart ⟨separate, other⟩
      have kept : (!(r.allowSeparateGroups && p.runOf j != p.runOf i)) = true := by
        by_cases separate : r.allowSeparateGroups = true
        · simp [near separate]
        · simp [separate]
      rw [Option.filter_some, if_pos kept, Option.bind_some]
      cases here : p.imports[j]? with
      | none => simp [here]
      | some previous =>
        by_cases after : r.isAfter previous entry = true
        · simpa [here, after] using near
        · simp [here, after]

namespace SortsRun

variable {r : ImportOrder} {file file' : SourceFile} {p p' : Plan} {members : List Nat}
  {last : Nat} {e : Edit}

section Places

variable {front back : List ImportEntry} {a a' b' : ImportEntry} {i k : Nat}

theorem place_before (sorts : SortsRun r file p members last e)
    (again : Reread r file p members last e file' p')
    (parts : p.imports = front ++ ((p.entries members).map Prod.fst ++ back))
    (early : i < front.length) (old : p.imports[i]? = some a) (found : p'.imports[i]? = some a') :
    a ∈ front ∧ a'.putAt a'.span = a.putAt a.span := by
  have list := congrArg (·[i]?) (sorts.imports_again again parts)
  rw [parts, List.getElem?_append_left early] at old
  simp only [List.getElem?_map, found, Option.map_some] at list
  rw [List.getElem?_append_left (by simpa using early), List.getElem?_map, old, Option.map_some,
    Option.some.injEq] at list
  exact ⟨List.mem_of_getElem? old, list⟩

theorem place_inside (sorts : SortsRun r file p members last e)
    (again : Reread r file p members last e file' p')
    (parts : p.imports = front ++ ((p.entries members).map Prod.fst ++ back))
    (inside : k < (p.entries members).length)
    (found : p'.imports[front.length + k]? = some a') :
    ∃ x g, (Plan.sortEntries r (p.entries members))[k]? = some x ∧
      (sortedPieces p r file members last e)[k]? = some g ∧
      a'.putAt a'.span = x.1.putAt (g.move x.1.span) := by
  have list := congrArg (·[front.length + k]?) (sorts.imports_again again parts)
  have count : k < ((Plan.sortEntries r (p.entries members)).zip
      (sortedPieces p r file members last e)).length := by
    rw [List.length_zip, length_pieces, Plan.sortEntries, List.length_mergeSort]
    omega
  simp only [List.getElem?_map, found, Option.map_some] at list
  rw [List.getElem?_append_right (by simp), List.length_map, Nat.add_sub_cancel_left,
    List.getElem?_append_left (by simpa using count), List.getElem?_map] at list
  obtain ⟨⟨x, g⟩, here, same⟩ := Option.map_eq_some_iff.mp list.symm
  obtain ⟨first, second⟩ := List.getElem?_zip_eq_some.mp here
  exact ⟨x, g, first, second, same.symm⟩

theorem place_last (sorts : SortsRun r file p members last e)
    (again : Reread r file p members last e file' p') (found : p'.imports[last]? = some a') :
    ∃ x g, (Plan.sortEntries r (p.entries members)).getLast? = some x ∧
      (sortedPieces p r file members last e).getLast? = some g ∧
      a'.putAt a'.span = x.1.putAt (g.move x.1.span) := by
  obtain ⟨front, back, parts, numbers⟩ := sorts.parts
  obtain ⟨nonempty, -⟩ := orderEdit?_replacement sorts.final sorts.edit
  have count := List.length_pos_iff.mpr nonempty
  have position : last = front.length + ((p.entries members).length - 1) := by
    have := sorts.last_eq numbers
    omega
  rw [position] at found
  obtain ⟨x, g, entry, piece, same⟩ := sorts.place_inside again parts (by omega) found
  refine ⟨x, g, ?_, ?_, same⟩
  · rw [List.getLast?_eq_getElem?, Plan.sortEntries, List.length_mergeSort]
    exact entry
  · rw [List.getLast?_eq_getElem?, length_pieces]
    exact piece

theorem place_after (sorts : SortsRun r file p members last e)
    (again : Reread r file p members last e file' p')
    (parts : p.imports = front ++ ((p.entries members).map Prod.fst ++ back))
    (late : front.length + (p.entries members).length ≤ i) (old : p.imports[i]? = some a)
    (found : p'.imports[i]? = some a') :
    a ∈ back ∧ a'.putAt a'.span = a.putAt ((trailing file e).move a.span) := by
  have list := congrArg (·[i]?) (sorts.imports_again again parts)
  have count : ((Plan.sortEntries r (p.entries members)).zip
      (sortedPieces p r file members last e)).length = (p.entries members).length := by
    rw [List.length_zip, length_pieces, Plan.sortEntries, List.length_mergeSort, Nat.min_self]
  rw [parts, List.getElem?_append_right (by omega), List.getElem?_append_right (by simp; omega),
    List.length_map] at old
  simp only [List.getElem?_map, found, Option.map_some] at list
  rw [List.getElem?_append_right (by simp; omega), List.length_map,
    List.getElem?_append_right (by rw [List.length_map, count]; omega), List.length_map, count,
    List.getElem?_map, old, Option.map_some, Option.some.injEq] at list
  exact ⟨List.mem_of_getElem? old, list⟩

theorem start_before (sorts : SortsRun r file p members last e)
    (again : Reread r file p members last e file' p')
    (parts : p.imports = front ++ ((p.entries members).map Prod.fst ++ back))
    (early : i < front.length) (old : p.imports[i + 1]? = some a)
    (found : p'.imports[i + 1]? = some a') :
    a.span.start ≤ e.span.start ∧ a'.span.start = a.span.start := by
  rcases Nat.lt_or_ge (i + 1) front.length with before | edge
  · obtain ⟨member, same⟩ := sorts.place_before again parts before old found
    have place : a'.span = a.span := ImportEntry.span_of_putAt same
    have upper := (sorts.bounds parts).1 a member
    have proper := sorts.imports a (List.mem_of_getElem? old)
    rw [place]
    exact ⟨by omega, rfl⟩
  · obtain ⟨first, _, head, _, span, _⟩ := editSpan?_some sorts.stretch.edit
    have start : i + 1 = front.length := by omega
    have count : 0 < (p.entries members).length :=
      List.length_pos_of_mem (List.mem_of_mem_head? head)
    rw [start] at old found
    obtain ⟨x, g, entry, piece, same⟩ := sorts.place_inside again parts count found
    have place : a'.span = g.move x.1.span := ImportEntry.span_of_putAt same
    obtain ⟨member, source⟩ := piece_source entry piece
    have opening := (sorts.moving_fits member).1
    have target := sorts.pieces_first piece
    rw [parts, List.getElem?_append_right (Nat.le_refl _), Nat.sub_self,
      List.getElem?_append_left (by simpa using count), List.getElem?_map, ← List.head?_eq_getElem?,
      head, Option.map_some, Option.some.injEq] at old
    have origin : e.span.start = a.span.start := by rw [span, ← old]
    have moved : a'.span.start = g.target := by
      simp only [place, Segment.move, Segment.shift, source]
      omega
    omega

theorem length_again (sorts : SortsRun r file p members last e)
    (again : Reread r file p members last e file' p') :
    p'.imports.length = p.imports.length := by
  obtain ⟨front, back, parts, -⟩ := sorts.parts
  have list := congrArg List.length (sorts.imports_again again parts)
  rw [List.length_map, List.length_append, List.length_append, List.length_map, List.length_map,
    List.length_map, List.length_zip, length_pieces, Plan.sortEntries, List.length_mergeSort,
    Nat.min_self] at list
  rw [list, parts, List.length_append, List.length_append, List.length_map]

end Places

theorem adjacent_again (sorts : SortsRun r file p members last e)
    (again : Reread r file p members last e file' p') {i : Nat} {a b a' b' : ImportEntry}
    (first : p.imports[i]? = some a) (second : p.imports[i + 1]? = some b)
    (first' : p'.imports[i]? = some a') (second' : p'.imports[i + 1]? = some b') :
    file'.areAdjacent a'.span b'.span = true ↔
      file.areAdjacent a.span b.span = true ∨ i = last ∧ JoinsNext p r file members last := by
  obtain ⟨front, back, parts, numbers⟩ := sorts.parts
  have final := sorts.last_eq numbers
  have order := sorts.imports_apart (Nat.lt_succ_self i) first second
  have right : b ∈ p.imports := List.mem_of_getElem? second
  obtain ⟨nonempty, -⟩ := orderEdit?_replacement sorts.final sorts.edit
  have count := List.length_pos_iff.mpr nonempty
  rcases Nat.lt_or_ge i front.length with early | late
  · -- The first of the two stands before the run.
    obtain ⟨-, same⟩ := sorts.place_before again parts early first first'
    have place : a'.span = a.span := ImportEntry.span_of_putAt same
    obtain ⟨upper, place'⟩ := sorts.start_before again parts early second second'
    rw [sorts.adjacent_leading again right order upper (by rw [place]) place']
    simp [show i ≠ last by omega]
  rcases Nat.lt_or_ge (i + 1) (front.length + (p.entries members).length) with inner | outer
  · obtain ⟨k, rfl⟩ := Nat.exists_eq_add_of_le late
    obtain ⟨x, g, entry, piece, same⟩ := sorts.place_inside again parts (by omega) first'
    obtain ⟨y, h, entry', piece', same'⟩ := sorts.place_inside again parts
      (by omega : k + 1 < (p.entries members).length) second'
    have place : a'.span = g.move x.1.span := ImportEntry.span_of_putAt same
    have place' : b'.span = h.move y.1.span := ImportEntry.span_of_putAt same'
    have was : file.areAdjacent a.span b.span = true := by
      rw [sorts.run_adjacent _ first second, numbers, List.mem_range'_1]
      · omega
      · rw [numbers, List.mem_range'_1]
        omega
    have is : file'.areAdjacent a'.span b'.span = true :=
      sorts.adjacent_inside again entry entry' piece piece' (by rw [place]; rfl)
        (by rw [place']; rfl)
    simp [was, is]
  by_cases ending : i = last
  · subst ending
    obtain ⟨x, g, entry, piece, same⟩ := sorts.place_last again first'
    obtain ⟨-, same'⟩ := sorts.place_after again parts (by omega) second second'
    have place : a'.span = g.move x.1.span := ImportEntry.span_of_putAt same
    have place' : b'.span = (trailing file e).move b.span := ImportEntry.span_of_putAt same'
    have apart : ¬ file.areAdjacent a.span b.span = true := by
      rw [sorts.run_adjacent sorts.last_member first second]
      exact sorts.after_last
    rw [sorts.adjacent_across first second again entry piece (by rw [place]; rfl)
      (by rw [place']; rfl)]
    simp [apart]
  · obtain ⟨member, same⟩ := sorts.place_after again parts (by omega) first first'
    obtain ⟨-, same'⟩ := sorts.place_after again parts (by omega) second second'
    have place : a'.span = (trailing file e).move a.span := ImportEntry.span_of_putAt same
    have place' : b'.span = (trailing file e).move b.span := ImportEntry.span_of_putAt same'
    have lower := ((sorts.bounds parts).2.2 a member).1
    have proper := sorts.imports a (List.mem_of_getElem? first)
    rw [sorts.adjacent_trailing again right (by omega) order (by rw [place]; rfl)
      (by rw [place']; rfl)]
    simp [ending]

theorem runs_again (again : Reread r file p members last e file' p') :
    p'.runs = file'.adjacentRuns (p'.imports.map (·.span)) := by
  obtain ⟨-, -, -, -, -, runs, -⟩ := planOf_ok again.plan
  exact runs

theorem runOf_again (sorts : SortsRun r file p members last e)
    (again : Reread r file p members last e file' p') {i : Nat} (bound : i + 1 < p.imports.length) :
    p'.runOf i = p'.runOf (i + 1) ↔
      p.runOf i = p.runOf (i + 1) ∨ i = last ∧ JoinsNext p r file members last := by
  have bound' : i + 1 < p'.imports.length := by rwa [sorts.length_again again]
  have first := List.getElem?_eq_getElem (Nat.lt_of_succ_lt bound)
  have second := List.getElem?_eq_getElem bound
  have first' := List.getElem?_eq_getElem (Nat.lt_of_succ_lt bound')
  have second' := List.getElem?_eq_getElem bound'
  rw [runOf_iff (runs_again again) first' second', runOf_iff sorts.runs first second]
  exact sorts.adjacent_again again first second first' second'

/-- The runs are as they were exactly when the sorted run does not join the next one. -/
theorem runs_eq_iff (sorts : SortsRun r file p members last e)
    (again : Reread r file p members last e file' p') :
    p'.runs = p.runs ↔ ¬ JoinsNext p r file members last := by
  constructor
  · rintro same ⟨moved, final, comment, next, entry, other, taken, ending, rear, following, close⟩
    have bound := (List.getElem?_eq_some_iff.mp following).1
    have joins : JoinsNext p r file members last :=
      ⟨moved, final, comment, next, entry, other, taken, ending, rear, following, close⟩
    have together := (sorts.runOf_again again bound).mpr (Or.inr ⟨rfl, joins⟩)
    unfold Plan.runOf at together
    rw [same] at together
    exact sorts.after_last ((sorts.runOf_members sorts.last_member bound).mp together)
  · intro apart
    rw [runs_again again, sorts.runs, SourceFile.adjacentRuns_eq, SourceFile.adjacentRuns_eq]
    apply runsFrom_congr
    · rw [List.length_map, List.length_map, sorts.length_again again]
    · intro i s t s₀ t₀ first' second' first second
      rw [List.getElem?_map] at first' second' first second
      obtain ⟨a', here', rfl⟩ := Option.map_eq_some_iff.mp first'
      obtain ⟨b', there', rfl⟩ := Option.map_eq_some_iff.mp second'
      obtain ⟨a, here, rfl⟩ := Option.map_eq_some_iff.mp first
      obtain ⟨b, there, rfl⟩ := Option.map_eq_some_iff.mp second
      have same := sorts.adjacent_again again here there here' there'
      rw [Bool.eq_iff_iff, same]
      simp [apart]

theorem sorted_again (sorts : SortsRun r file p members last e)
    (again : Reread r file p members last e file' p') {i : Nat} {a b : ImportEntry}
    (member : i ∈ members) (member' : i + 1 ∈ members) (first : p'.imports[i]? = some a)
    (second : p'.imports[i + 1]? = some b) : r.isAfter a b = false := by
  obtain ⟨front, back, parts, numbers⟩ := sorts.parts
  rw [numbers, List.mem_range'_1] at member member'
  obtain ⟨k, rfl⟩ := Nat.exists_eq_add_of_le member.1
  obtain ⟨x, g, entry, -, same⟩ := sorts.place_inside again parts (by omega) first
  obtain ⟨y, h, entry', -, same'⟩ := sorts.place_inside again parts
    (by omega : k + 1 < (p.entries members).length) second
  obtain ⟨bound, rfl⟩ := List.getElem?_eq_some_iff.mp entry
  obtain ⟨bound', rfl⟩ := List.getElem?_eq_some_iff.mp entry'
  have order := List.pairwise_iff_getElem.mp (r.sorted (p.entries members)) k (k + 1) bound bound'
    (Nat.lt_succ_self k)
  rw [isAfter_of_putAt same same']
  exact order

theorem labels_again (sorts : SortsRun r file p members last e)
    (again : Reread r file p members last e file' p') {front back : List ImportEntry}
    (parts : p.imports = front ++ ((p.entries members).map Prod.fst ++ back)) :
    p'.imports.map (·.putAt ⟨0, 0⟩) =
      (front ++ ((Plan.sortEntries r (p.entries members)).map Prod.fst ++ back)).map
        (·.putAt ⟨0, 0⟩) := by
  have list := congrArg (List.map (·.putAt ⟨0, 0⟩)) (sorts.imports_again again parts)
  have count : (Plan.sortEntries r (p.entries members)).length ≤
      (sortedPieces p r file members last e).length := by
    rw [length_pieces, Plan.sortEntries, List.length_mergeSort]
  have firsts := List.map_fst_zip count
  simp only [List.map_append, List.map_map] at list ⊢
  rw [← firsts, List.map_map]
  exact list

end SortsRun

/-- What a sorted run looks like when the file is read again. The imports are the same, with the run
in order. The runs are the same unless the run joins the next one, and then only these two become
one. No import of the run is reported. The import after the run is reported exactly when the run
joins it and the import before it has to come after it. -/
theorem sorted_run_settles_iff {r : ImportOrder} {file file' : SourceFile} {p p' : Plan}
    {members : List Nat} {last : Nat} {e : Edit} (sorts : SortsRun r file p members last e)
    (again : Reread r file p members last e file' p') (separate : r.allowSeparateGroups = true) :
    (∃ front back, p.imports = front ++ ((p.entries members).map Prod.fst ++ back) ∧
      members = List.range' front.length (p.entries members).length ∧
      p'.imports.map (·.putAt ⟨0, 0⟩) =
        (front ++ ((Plan.sortEntries r (p.entries members)).map Prod.fst ++ back)).map
          (·.putAt ⟨0, 0⟩)) ∧
    (p'.runs = p.runs ↔ ¬ JoinsNext p r file members last) ∧
    (∀ i, i + 1 < p.imports.length → (p'.runOf i = p'.runOf (i + 1) ↔
      p.runOf i = p.runOf (i + 1) ∨ i = last ∧ JoinsNext p r file members last)) ∧
    (∀ i ∈ members, ∀ entry, p'.imports[i]? = some entry →
      ∀ s : State, (∀ j, s.previous = some j → j + 1 = i) →
        (checkOrder r file' p' s i entry).1 = []) ∧
    ∀ before next, p'.imports[last]? = some before → p'.imports[last + 1]? = some next →
      ∀ s : State, s.previous = some last →
        ((checkOrder r file' p' s (last + 1) next).1 = [] ↔
          (JoinsNext p r file members last → r.isAfter before next = false)) := by
  obtain ⟨front, back, parts, numbers⟩ := sorts.parts
  refine ⟨⟨front, back, parts, numbers, sorts.labels_again again parts⟩, sorts.runs_eq_iff again,
    fun i bound => sorts.runOf_again again bound, ?_, ?_⟩
  · intro i member entry here s before
    rw [checkOrder_eq_nil_iff]
    intro j previous near other found
    obtain rfl := before j previous
    have bound : j + 1 < p.imports.length := by
      rw [← sorts.length_again again]
      exact (List.getElem?_eq_some_iff.mp here).1
    by_cases inside : j ∈ members
    · exact sorts.sorted_again again inside member found here
    · -- The import before the run is in another run, as it was.
      have together := (sorts.runOf_again again bound).mp (near separate)
      rcases together with same | ⟨final, -⟩
      · exact absurd ((sorts.runOf_members member (Nat.lt_of_succ_lt bound)).mp same.symm) inside
      · exact absurd (final ▸ sorts.last_member) inside
  · intro before next here following s previous
    have bound : last + 1 < p.imports.length := by
      rw [← sorts.length_again again]
      exact (List.getElem?_eq_some_iff.mp following).1
    have together : p'.runOf last = p'.runOf (last + 1) ↔ JoinsNext p r file members last := by
      rw [sorts.runOf_again again bound, sorts.runOf_members sorts.last_member bound]
      simp [sorts.after_last]
    rw [checkOrder_eq_nil_iff, ← together]
    constructor
    · intro quiet near
      exact quiet last previous (fun _ => near) before here
    · intro quiet j same near other found
      rw [previous, Option.some.injEq] at same
      subst same
      rw [here, Option.some.injEq] at found
      subst found
      exact quiet (near separate)

def importFile (text : Text) (imports : List (Nat × Char)) (comments : List Span) : SourceFile :=
  let declarations : List Node := imports.map fun i =>
    ⟨.importDeclaration [] [i.2] .value, some ⟨i.1, i.1 + 11⟩⟩
  .ofParts text
    { nodes := declarations.toArray.push
        ⟨.program (List.range imports.length), some ⟨0, text.size⟩⟩
      root := imports.length }
    (imports.flatMap fun i => [⟨.keyword, ⟨i.1, i.1 + 6⟩⟩, ⟨.string, ⟨i.1 + 7, i.1 + 10⟩⟩,
      ⟨.punctuator, ⟨i.1 + 10, i.1 + 11⟩⟩])
    (comments.map (⟨.line, ·⟩)) []

def importPlan (imports : List (Nat × Char)) (runs : List (List Nat)) : Plan :=
  { imports := imports.zipIdx.map fun i => ⟨i.2, ⟨i.1.1, i.1.1 + 11⟩, [i.1.2], .value, true⟩
    statements := []
    runs
    grouping := none }

/-- Two imports, the first with a comment, then a blank line, a note and a third import. -/
def twoRuns (note : Text) : SourceFile :=
  importFile ("import 'c'; // x\nimport 'b';\n\n".toList ++ note ++ "import 'a';".toList)
    [(0, 'c'), (17, 'b'), (30 + note.size, 'a')]
    (⟨12, 16⟩ :: if note.isEmpty then [] else [⟨30, 29 + note.size⟩])

def twoRunsPlan (note : Text) : Plan :=
  importPlan [(0, 'c'), (17, 'b'), (30 + note.size, 'a')] [[0, 1], [2]]

def twoRunsEdit : Edit := ⟨⟨0, 28⟩, "import 'b';\nimport 'c'; // x".toList⟩

def twoRunsSorted (note : Text) : SourceFile :=
  importFile ("import 'b';\nimport 'c'; // x\n\n".toList ++ note ++ "import 'a';".toList)
    [(0, 'b'), (12, 'c'), (30 + note.size, 'a')]
    (⟨24, 28⟩ :: if note.isEmpty then [] else [⟨30, 29 + note.size⟩])

def twoRunsSortedPlan (note : Text) (runs : List (List Nat)) : Plan :=
  importPlan [(0, 'b'), (12, 'c'), (30 + note.size, 'a')] runs

theorem twoRuns_sorts {note : Text} (either : note = [] ∨ note = "// y\n".toList) :
    SortsRun plainOrder (twoRuns note) (twoRunsPlan note) [0, 1] 1 twoRunsEdit := by
  rcases either with rfl | rfl
  · exact
      { tidy := of_decide_eq_true (by cbv)
        lined := rfl
        comments := by decide +kernel
        plan := by cbv
        imports := of_decide_eq_true (by cbv)
        run := List.mem_cons_self
        final := rfl
        edit := by cbv }
  · exact
      { tidy := of_decide_eq_true (by cbv)
        lined := rfl
        comments := by
          have listed : (twoRuns "// y\n".toList).comments.toList =
              [⟨.line, ⟨12, 16⟩⟩, ⟨.line, ⟨30, 34⟩⟩] := by cbv
          rw [listed]
          decide
        plan := by cbv
        imports := of_decide_eq_true (by cbv)
        run := List.mem_cons_self
        final := rfl
        edit := by cbv }

theorem sorted_run_settles_iff_blankLine :
    SortsRun plainOrder (twoRuns []) (twoRunsPlan []) [0, 1] 1 twoRunsEdit ∧
      Reread plainOrder (twoRuns []) (twoRunsPlan []) [0, 1] 1 twoRunsEdit (twoRunsSorted [])
        (twoRunsSortedPlan [] [[0, 1], [2]]) ∧
      ¬ JoinsNext (twoRunsPlan []) plainOrder (twoRuns []) [0, 1] 1 ∧
      (twoRunsSortedPlan [] [[0, 1], [2]]).runs = (twoRunsPlan []).runs ∧
      ∀ s : State, s.previous = some 1 →
        (checkOrder plainOrder (twoRunsSorted []) (twoRunsSortedPlan [] [[0, 1], [2]]) s 2
          ⟨2, ⟨30, 41⟩, ['a'], .value, true⟩).1 = [] := by
  have sorts := twoRuns_sorts (Or.inl rfl)
  have again : Reread plainOrder (twoRuns []) (twoRunsPlan []) [0, 1] 1 twoRunsEdit
      (twoRunsSorted []) (twoRunsSortedPlan [] [[0, 1], [2]]) :=
    { text := by cbv
      lined := rfl
      tokens := by cbv
      comments := by cbv
      plan := by cbv
      imports := by cbv }
  have apart : ¬ JoinsNext (twoRunsPlan []) plainOrder (twoRuns []) [0, 1] 1 := by
    rintro ⟨moved, final, comment, next, -, -, -, ending, rear, -⟩
    obtain rfl : ⟨1, ⟨17, 28⟩, ['b'], .value, true⟩ = final := Option.some.inj ending
    have clean : (twoRuns []).commentsAfter ⟨17, 28⟩ = [] := by cbv
    rw [clean] at rear
    cases rear
  obtain ⟨-, runs, -, -, next⟩ := sorted_run_settles_iff sorts again rfl
  refine ⟨sorts, again, apart, runs.mpr apart, ?_⟩
  intro s previous
  exact (next _ _ rfl rfl s previous).mpr fun joins => absurd joins apart

/-- With a note above the third import all imports become one run, and the third is reported. -/
theorem sorted_run_joins_next :
    SortsRun plainOrder (twoRuns "// y\n".toList) (twoRunsPlan "// y\n".toList) [0, 1] 1
        twoRunsEdit ∧
      Reread plainOrder (twoRuns "// y\n".toList) (twoRunsPlan "// y\n".toList) [0, 1] 1
        twoRunsEdit (twoRunsSorted "// y\n".toList)
        (twoRunsSortedPlan "// y\n".toList [[0, 1, 2]]) ∧
      (twoRunsPlan "// y\n".toList).runs = [[0, 1], [2]] ∧
      (checkOrder plainOrder (twoRunsSorted "// y\n".toList)
        (twoRunsSortedPlan "// y\n".toList [[0, 1, 2]])
        { plan := .ok (twoRunsSortedPlan "// y\n".toList [[0, 1, 2]]), previous := some 1 } 2
        ⟨2, ⟨35, 46⟩, ['a'], .value, true⟩).1.map (·.messageId) = ["sortImportsByPath"] := by
  have again : Reread plainOrder (twoRuns "// y\n".toList) (twoRunsPlan "// y\n".toList) [0, 1] 1
      twoRunsEdit (twoRunsSorted "// y\n".toList)
      (twoRunsSortedPlan "// y\n".toList [[0, 1, 2]]) :=
    { text := by cbv
      lined := rfl
      tokens := by cbv
      comments := by cbv
      plan := by cbv
      imports := by cbv }
  exact ⟨twoRuns_sorts (Or.inr rfl), again, rfl, by cbv⟩

end ScriptLint.ImportPaths
