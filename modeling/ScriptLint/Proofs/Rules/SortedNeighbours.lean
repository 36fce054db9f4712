import ScriptLint.Proofs.Reordering.Runs
import ScriptLint.Proofs.Rules.OrderLayout

/-!
Neighbours of a sorted run.

In the text where a run was sorted, its imports are adjacent one after the other. The imports before
it and after it are adjacent if they were. The import that goes last may come to stand by the next
one: when it brings comments along and comments were left behind below the run, these are read
together, and only a blank line below them still divides the run from the next import.
-/
namespace ScriptLint.ImportPaths

/-- The import that goes last brings comments to those that were left below the run, and no blank
line comes between these and the next import. -/
def JoinsNext (p : Plan) (r : ImportOrder) (file : SourceFile) (members : List Nat) (last : Nat) :
    Prop :=
  ∃ moved final comment next,
    (Plan.sortEntries r (p.entries members)).getLast? = some moved ∧ moved.2 ≠ last ∧
      file.commentsAfter moved.1.span ≠ [] ∧ p.imports[last]? = some final ∧
      (file.commentsAfter final.span).getLast? = some comment ∧
      p.imports[last + 1]? = some next ∧
      file.lineOf next.span.start - file.lineOf comment.span.stop ≤ 1

def ownComments (file : SourceFile) (last : Nat) (x : ImportEntry × Nat) : List Span :=
  if x.2 = last then [] else (file.commentsAfter x.1.span).map (·.span)

theorem movingSpan_stop (file : SourceFile) (last : Nat) (x : ImportEntry × Nat) :
    (Plan.movingSpan file last x).stop =
      ((ownComments file last x).getLast?.map (·.stop)).getD x.1.span.stop := by
  unfold Plan.movingSpan ownComments
  by_cases final : x.2 = last
  · rw [if_pos final, if_pos final]
    rfl
  · rw [if_neg final, if_neg final, List.getLast?_map]
    cases (file.commentsAfter x.1.span).getLast? <;> rfl

theorem ownComments_eq_nil_iff {file : SourceFile} {last : Nat} {x : ImportEntry × Nat} :
    ownComments file last x = [] ↔ x.2 = last ∨ file.commentsAfter x.1.span = [] := by
  unfold ownComments
  by_cases final : x.2 = last
  · simp [final]
  · simp [final]

theorem joinsNext_iff {p : Plan} {r : ImportOrder} {file : SourceFile} {members : List Nat}
    {last : Nat} {x : ImportEntry × Nat} {final next : ImportEntry}
    (entry : (Plan.sortEntries r (p.entries members)).getLast? = some x)
    (ending : p.imports[last]? = some final) (following : p.imports[last + 1]? = some next) :
    JoinsNext p r file members last ↔ ownComments file last x ≠ [] ∧
      ∃ c, (file.commentsAfter final.span).getLast? = some c ∧
        file.lineOf next.span.start - file.lineOf c.span.stop ≤ 1 := by
  rw [Ne, ownComments_eq_nil_iff, not_or]
  constructor
  · rintro ⟨moved, final', c, next', found, other, brings, found', rear, found'', close⟩
    rw [entry, Option.some.injEq] at found
    rw [ending, Option.some.injEq] at found'
    rw [following, Option.some.injEq] at found''
    subst found found' found''
    exact ⟨⟨other, brings⟩, c, rear, close⟩
  · rintro ⟨⟨other, brings⟩, c, rear, close⟩
    exact ⟨x, final, c, next, entry, other, brings, ending, rear, following, close⟩

namespace SortsRun

variable {r : ImportOrder} {file file' : SourceFile} {p p' : Plan} {members : List Nat}
  {last : Nat} {e : Edit}

section Pieces

variable {k : Nat} {x y : ImportEntry × Nat} {g h : Segment}

theorem piece_source
    (entry : (Plan.sortEntries r (p.entries members))[k]? = some x)
    (piece : (sortedPieces p r file members last e)[k]? = some g) :
    x ∈ p.entries members ∧ g.source = Plan.movingSpan file last x := by
  have sources := congrArg (·[k]?) (pieces_sources p r file members last e)
  simp only [List.getElem?_map, entry, piece, Option.map_some, Option.some.injEq] at sources
  exact ⟨mem_sorted.mp (List.mem_of_getElem? entry), sources⟩

theorem length_pieces (p : Plan) (r : ImportOrder) (file : SourceFile) (members : List Nat)
    (last : Nat) (e : Edit) :
    (sortedPieces p r file members last e).length = (p.entries members).length := by
  have sources := congrArg List.length (pieces_sources p r file members last e)
  rwa [List.length_map, List.length_map, Plan.sortEntries, List.length_mergeSort] at sources

theorem last_source
    (entry : (Plan.sortEntries r (p.entries members)).getLast? = some x)
    (piece : (sortedPieces p r file members last e).getLast? = some g) :
    x ∈ p.entries members ∧ g.source = Plan.movingSpan file last x := by
  rw [List.getLast?_eq_getElem?, length_pieces] at piece
  rw [List.getLast?_eq_getElem?, Plan.sortEntries, List.length_mergeSort] at entry
  exact piece_source entry piece

theorem opening_token (sorts : SortsRun r file p members last e) (member : x ∈ p.entries members)
    (source : g.source = Plan.movingSpan file last x) :
    ∃ t ∈ file.tokens.toList, g.source.contains t.span = true ∧ t.span.start = g.source.start := by
  obtain ⟨start, stop, -, -⟩ := sorts.moving_fits member
  have forward := sorts.moving_forward member
  obtain ⟨t, token, first⟩ := sorts.token (entry_import member)
  have inside := sorts.moving_token member token (by omega) (by omega)
  rw [Span.contains_iff] at inside
  rw [source]
  refine ⟨t, token, ?_, by omega⟩
  rw [Span.contains_iff]
  omega

theorem no_token_behind (sorts : SortsRun r file p members last e) (member : x ∈ p.entries members)
    (source : g.source = Plan.movingSpan file last x) {t : Token} (token : t ∈ file.tokens.toList)
    (contained : g.source.contains t.span = true) : t.span.start < x.1.span.stop := by
  have start := (sorts.moving_fits member).1
  have proper := sorts.tidy.proper t token
  rw [source, Span.contains_iff] at contained
  have inside := sorts.moving_token member token (by omega) (by omega)
  rw [Span.contains_iff] at inside
  omega

theorem joint_lines {joint : Text} (member : joint ∈ Plan.joints file last (p.entries members)) :
    joint.count '\n' ≤ 1 := by
  rw [joints_eq] at member
  obtain ⟨gap, -, rfl⟩ := List.mem_map.mp member
  by_cases broken : (file.slice gap).contains '\n' = true
  · rw [if_pos broken]
    decide
  · rw [if_neg broken, List.count_eq_zero.mpr]
    · exact Nat.zero_le 1
    · simpa using broken

theorem pieces_next (sorts : SortsRun r file p members last e)
    (again : Reread r file p members last e file' p')
    (first : (sortedPieces p r file members last e)[k]? = some g)
    (second : (sortedPieces p r file members last e)[k + 1]? = some h) :
    file'.lineOf h.target - file'.lineOf g.stop ≤ 1 := by
  rw [sortedPieces, List.getElem?_map] at first second
  obtain ⟨x, placed, rfl⟩ := Option.map_eq_some_iff.mp first
  obtain ⟨y, placed', rfl⟩ := Option.map_eq_some_iff.mp second
  obtain ⟨joint, origin, next⟩ := placements_next placed placed'
  obtain ⟨-, replacement⟩ := orderEdit?_replacement sorts.final sorts.edit
  have text : file'.text = (x.before ++ file.slice x.fragment) ++
      (joint ++ (file.slice y.fragment ++ y.after)) := by
    have whole := placements_text (List.mem_of_getElem? placed')
    rw [again.text, Edit.splice, replacement, ← whole, next]
    simp only [List.append_assoc]
  obtain ⟨forward, start, stop⟩ := sorts.placed_fits (List.mem_of_getElem? placed)
  have size : Text.size (file.slice x.fragment) = x.fragment.stop - x.fragment.start :=
    Text.size_slice forward start stop
  have lines := SourceFile.lineOf_across again.lined text
  have upper : Text.size (x.before ++ file.slice x.fragment) + Text.size joint =
      y.segment.target := by
    rw [Placement.segment, next, Text.size_append (x.before ++ file.slice x.fragment)]
  have lower : Text.size (x.before ++ file.slice x.fragment) = x.segment.stop := by
    rw [Text.size_append, size, Nat.add_comm]
    rfl
  rw [upper, lower] at lines
  rw [lines]
  rcases origin with rfl | joint
  · exact Nat.zero_le 1
  · exact joint_lines joint

theorem pieces_first (sorts : SortsRun r file p members last e)
    (piece : (sortedPieces p r file members last e)[0]? = some g) : g.target = e.span.start := by
  rw [sortedPieces, List.getElem?_map] at piece
  obtain ⟨x, placed, rfl⟩ := Option.map_eq_some_iff.mp piece
  have start := (Text.boundary_parts sorts.edit_boundaries.1).2
  rw [orderPlacements] at placed
  cases spans : orderFragments p r file members last with
  | nil => simp [spans, placements] at placed
  | cons s spans' =>
    rw [spans, placements, List.getElem?_cons_zero, Option.some.injEq] at placed
    rw [← placed]
    exact start

theorem pieces_last (sorts : SortsRun r file p members last e)
    (piece : (sortedPieces p r file members last e).getLast? = some g) :
    g.stop = (trailing file e).target := by
  rw [sortedPieces, List.getLast?_map] at piece
  obtain ⟨x, placed, rfl⟩ := Option.map_eq_some_iff.mp piece
  obtain ⟨forward, start, stop⟩ := sorts.placed_fits (List.mem_of_getLast? placed)
  have size : Text.size (file.slice x.fragment) = x.fragment.stop - x.fragment.start :=
    Text.size_slice forward start stop
  obtain ⟨-, replacement⟩ := orderEdit?_replacement sorts.final sorts.edit
  have whole := congrArg Text.size (placements_last sorts.count_joints placed)
  rw [← replacement, Text.size_append, Text.size_append, size,
    (Text.boundary_parts sorts.edit_boundaries.1).2] at whole
  simp only [Placement.segment, Segment.stop, Segment.shift, trailing]
  omega

end Pieces

section Comments

variable {x y : ImportEntry × Nat}

theorem comments_proper (sorts : SortsRun r file p members last e) :
    ∀ s ∈ file.comments.toList.map (·.span), s.start < s.stop := by
  rw [List.forall_mem_map]
  exact sorts.comments

theorem within_self (sorts : SortsRun r file p members last e) (n : Nat) :
    within n n (file.comments.toList.map (·.span)) = [] := by
  rw [List.eq_nil_iff_forall_not_mem]
  intro s member
  obtain ⟨inside, lower, upper⟩ := mem_within.mp member
  have := sorts.comments_proper s inside
  omega

theorem within_moving (sorts : SortsRun r file p members last e) (member : x ∈ p.entries members) :
    within x.1.span.stop (Plan.movingSpan file last x).stop (file.comments.toList.map (·.span)) =
      ownComments file last x := by
  unfold ownComments
  rcases last_or_neighbour member with final | ⟨next, pair⟩
  · have number : x.2 = last := by simpa [final] using sorts.stretch.final
    rw [if_pos number, ← number, movingSpan_last, sorts.within_self]
  · obtain ⟨-, upper, -, all⟩ := movingSpan_neighbour sorts.stretch pair
    rw [if_neg (neighbour_not_last sorts.stretch pair), SourceFile.commentsAfter_spans
      sorts.tidy.tokens.ordered sorts.tidy.comments, nextTokenStart_neighbour sorts.stretch pair]
    unfold within
    apply List.filter_congr
    intro s inside
    obtain ⟨c, comment, rfl⟩ := List.mem_map.mp inside
    have taken := all c comment
    rw [Bool.eq_iff_iff]
    simp only [Bool.and_eq_true, decide_eq_true_eq]
    omega

theorem entry_getElem? (member : x ∈ p.entries members) : p.imports[x.2]? = some x.1 := by
  obtain ⟨i, -, found⟩ := List.mem_filterMap.mp member
  obtain ⟨entry, here, rfl⟩ := Option.map_eq_some_iff.mp found
  exact here

theorem runOf_iff (runs : p.runs = file.adjacentRuns (p.imports.map (·.span))) {i : Nat}
    {a b : ImportEntry} (first : p.imports[i]? = some a) (second : p.imports[i + 1]? = some b) :
    p.runOf i = p.runOf (i + 1) ↔ file.areAdjacent a.span b.span = true := by
  have first' : (p.imports.map (·.span))[i]? = some a.span := by simp [first]
  have second' : (p.imports.map (·.span))[i + 1]? = some b.span := by simp [second]
  have same := @findIdx_runsFrom_iff Span file.areAdjacent _ _ _ _ first' second' 0
  rw [Nat.zero_add, Nat.zero_add, ← SourceFile.adjacentRuns_eq, ← runs] at same
  exact same

theorem runOf_members (sorts : SortsRun r file p members last e) {i : Nat} (member : i ∈ members)
    {j : Nat} (bound : j < p.imports.length) : p.runOf i = p.runOf j ↔ j ∈ members := by
  have flat := Plan.runs_flatten sorts.runs
  have once : p.runs.flatten.Nodup := by
    rw [flat]
    exact List.nodup_range
  obtain ⟨k, here⟩ := List.mem_iff_getElem?.mp sorts.run
  have own : p.runOf i = k := findIdx_of_mem once here member
  rw [own]
  constructor
  · intro same
    have listed : j ∈ p.runs.flatten := by
      rw [flat]
      exact List.mem_range.mpr bound
    obtain ⟨run, found, inside⟩ := List.mem_flatten.mp listed
    obtain ⟨l, there⟩ := List.mem_iff_getElem?.mp found
    have other : p.runOf j = l := findIdx_of_mem once there inside
    rw [← other, ← same, here] at there
    cases there
    exact inside
  · intro inside
    exact (findIdx_of_mem once here inside).symm

theorem run_adjacent (sorts : SortsRun r file p members last e) {i : Nat} {a b : ImportEntry}
    (member : i ∈ members) (first : p.imports[i]? = some a) (second : p.imports[i + 1]? = some b) :
    file.areAdjacent a.span b.span = true ↔ i + 1 ∈ members := by
  rw [← runOf_iff sorts.runs first second]
  exact sorts.runOf_members member (List.getElem?_eq_some_iff.mp second).1

theorem own_close (sorts : SortsRun r file p members last e) (member : x ∈ p.entries members)
    {c : Span} (head : (ownComments file last x).head? = some c) :
    file.lineOf c.start - file.lineOf x.1.span.stop ≤ 1 := by
  have numbers := Plan.map_snd_entries sorts.consecutive
  rcases last_or_neighbour member with final | ⟨next, pair⟩
  · have number : x.2 = last := by simpa [final] using sorts.stretch.final
    rw [ownComments, if_pos number] at head
    cases head
  · have nextMember : next ∈ p.entries members := pair.subset (by simp)
    have step := pair_numbers (pair.trans sorts.stretch.consecutive)
    have close : file.areAdjacent x.1.span next.1.span = true := by
      have number : x.2 ∈ members := by
        rw [← numbers]
        exact List.mem_map_of_mem member
      have following : p.imports[x.2 + 1]? = some next.1 := by
        rw [← step]
        exact entry_getElem? nextMember
      rw [sorts.run_adjacent number (entry_getElem? member) following, ← numbers, ← step]
      exact List.mem_map_of_mem nextMember
    rw [ownComments, if_neg (neighbour_not_last sorts.stretch pair)] at head
    obtain ⟨_, d, _, final⟩ := exists_ends (List.ne_nil_of_mem (List.mem_of_mem_head? head))
    rw [SourceFile.areAdjacent_eq, closeUp_ends head final, Bool.and_eq_true,
      decide_eq_true_eq] at close
    exact close.1

theorem own_stop {g : Segment} (source : g.source = Plan.movingSpan file last x) :
    g.stop = g.shift (((ownComments file last x).getLast?.map (·.stop)).getD x.1.span.stop) := by
  rw [Segment.stop, source, movingSpan_stop]

theorem own_close_again (sorts : SortsRun r file p members last e) (lined : file'.Lined)
    {g : Segment} (copies : g.Copies file.text file'.text) (member : x ∈ p.entries members)
    (source : g.source = Plan.movingSpan file last x) {c : Span}
    (head : (ownComments file last x).head? = some c) :
    file'.lineOf (g.shift c.start) - file'.lineOf (g.shift x.1.span.stop) ≤ 1 := by
  obtain ⟨start, stop, -, -⟩ := sorts.moving_fits member
  have forward := sorts.moving_forward member
  have own : c ∈ ownComments file last x := List.mem_of_mem_head? head
  rw [← sorts.within_moving member] at own
  obtain ⟨listed, lower, upper⟩ := mem_within.mp own
  have proper := sorts.comments_proper c listed
  rw [← source] at start stop upper
  rw [SourceFile.lineOf_shift sorts.lined lined copies (by omega) (by omega)]
  exact sorts.own_close member head

end Comments

section Neighbours

variable {a b final next : ImportEntry} {x y : ImportEntry × Nat} {g h : Segment} {k : Nat}
  {left right : Span}

theorem token_leading (sorts : SortsRun r file p members last e) {t : Token}
    (token : t ∈ file.tokens.toList) (early : t.span.start < e.span.start) :
    (leading e).source.contains t.span = true := by
  obtain ⟨first, _, head, _, same, _⟩ := editSpan?_some sorts.stretch.edit
  obtain ⟨u, other, start⟩ := sorts.token (entry_import (List.mem_of_mem_head? head))
  have proper := sorts.tidy.proper u other
  have edge : e.span.start = first.1.span.start := by rw [same]
  rw [Span.contains_iff]
  refine ⟨Nat.zero_le _, ?_⟩
  change t.span.stop ≤ e.span.start
  rcases ordered_disjoint sorts.tidy.tokens.ordered (List.mem_map_of_mem token)
    (List.mem_map_of_mem other) with same | before | after
  · rw [same] at early
    omega
  · omega
  · omega

theorem token_trailing (sorts : SortsRun r file p members last e) {t : Token}
    (token : t ∈ file.tokens.toList) (late : e.span.stop ≤ t.span.start) :
    (trailing file e).source.contains t.span = true := by
  obtain ⟨s, statement, inside⟩ := sorts.tidy.covered t token
  rw [Span.contains_iff] at inside
  have siblings := SourceFile.tidy_entries sorts.tidy (Or.inl sorts.stretch.root)
  have bound := Text.boundary_le (siblings.boundaries s statement).2
  exact Span.contains_iff.mpr ⟨late, Nat.le_trans inside.2 bound⟩

theorem adjacent_leading (sorts : SortsRun r file p members last e)
    (again : Reread r file p members last e file' p') (second : b ∈ p.imports)
    (order : a.span.stop ≤ b.span.start) (upper : b.span.start ≤ e.span.start)
    (first' : left.stop = a.span.stop) (second' : right.start = b.span.start) :
    file'.areAdjacent left right = file.areAdjacent a.span b.span := by
  have moved : Relocated ([] ++ leading e :: (sortedPieces p r file members last e ++
      [trailing file e])) file file' := sorts.relocated again
  obtain ⟨t, token, start⟩ := sorts.token second
  obtain ⟨u, other, here, after⟩ := SourceFile.nextTokenStart_mem token
    (by omega : a.span.stop ≤ t.span.start)
  have below := SourceFile.nextTokenStart_le sorts.tidy.tokens.ordered token
    (by omega : a.span.stop ≤ t.span.start)
  have still : ∀ n, (leading e).shift n = n := by
    intro n
    simp [leading, Segment.shift]
  apply moved.areAdjacent_shift (Nat.zero_le _) after (by omega) upper
  · rw [still]
    by_cases early : file.nextTokenStart a.span.stop < e.span.start
    · exact ⟨leading e, by simp, u, other, sorts.token_leading other (by omega), by rw [still, here]⟩
    · -- The next token is the first one of the run, in whatever order the run is.
      obtain ⟨nonempty, -⟩ := orderEdit?_replacement sorts.final sorts.edit
      have count := List.length_pos_iff.mpr nonempty
      have bound : 0 < (Plan.sortEntries r (p.entries members)).length := by
        rw [Plan.sortEntries, List.length_mergeSort]
        exact count
      have bound' : 0 < (sortedPieces p r file members last e).length := by
        rw [length_pieces]
        exact count
      have piece := List.getElem?_eq_getElem bound'
      obtain ⟨member, source⟩ := piece_source (List.getElem?_eq_getElem bound) piece
      obtain ⟨v, opening, inside, starts⟩ := sorts.opening_token member source
      have target := sorts.pieces_first piece
      refine ⟨_, by simp [List.getElem_mem], v, opening, inside, ?_⟩
      rw [starts]
      simp only [Segment.shift]
      omega
  · rw [still, first']
  · rw [still, second']

theorem adjacent_trailing (sorts : SortsRun r file p members last e)
    (again : Reread r file p members last e file' p') (second : b ∈ p.imports)
    (lower : e.span.stop ≤ a.span.stop) (order : a.span.stop ≤ b.span.start)
    (first' : left.stop = (trailing file e).shift a.span.stop)
    (second' : right.start = (trailing file e).shift b.span.start) :
    file'.areAdjacent left right = file.areAdjacent a.span b.span := by
  have moved : Relocated ((leading e :: sortedPieces p r file members last e) ++
      trailing file e :: []) file file' := sorts.relocated again
  obtain ⟨t, token, start⟩ := sorts.token second
  obtain ⟨u, other, here, after⟩ := SourceFile.nextTokenStart_mem token
    (by omega : a.span.stop ≤ t.span.start)
  have below := SourceFile.nextTokenStart_le sorts.tidy.tokens.ordered token
    (by omega : a.span.stop ≤ t.span.start)
  have inside := Span.contains_iff.mp (sorts.token_trailing token (by omega))
  have proper := sorts.tidy.proper t token
  apply moved.areAdjacent_shift lower after (by omega) (by omega) _ first' second'
  exact ⟨trailing file e, by simp, u, other, sorts.token_trailing other (by omega), by rw [here]⟩

theorem adjacent_inside (sorts : SortsRun r file p members last e)
    (again : Reread r file p members last e file' p')
    (first : (Plan.sortEntries r (p.entries members))[k]? = some x)
    (second : (Plan.sortEntries r (p.entries members))[k + 1]? = some y)
    (piece : (sortedPieces p r file members last e)[k]? = some g)
    (piece' : (sortedPieces p r file members last e)[k + 1]? = some h)
    (left' : left.stop = g.shift x.1.span.stop) (right' : right.start = h.shift y.1.span.start) :
    file'.areAdjacent left right = true := by
  have lines := sorts.pieces_next again piece piece'
  obtain ⟨member, source⟩ := piece_source first piece
  obtain ⟨member', source'⟩ := piece_source second piece'
  obtain ⟨start, stop, -, -⟩ := sorts.moving_fits member
  obtain ⟨start', -, -, -⟩ := sorts.moving_fits member'
  have forward := sorts.moving_forward member
  have opening : g.source.start = x.1.span.start := by rw [source, start]
  have closing : x.1.span.stop ≤ g.source.stop := by rwa [source]
  obtain ⟨t, token, inside, opens⟩ := sorts.opening_token member' source'
  obtain ⟨front, back, split⟩ := split_pair piece piece'
  have moved := sorts.relocated again
  have layout : orderLayout p r file members last e =
      (leading e :: front) ++ g :: h :: (back ++ [trailing file e]) := by
    rw [orderLayout, split]
    simp
  rw [layout] at moved
  have copies := moved.copies g (by simp)
  have next : file.nextTokenStart h.source.start = h.source.start := by
    obtain ⟨-, -, -, after⟩ := SourceFile.nextTokenStart_mem token (Nat.le_of_eq opens.symm)
    have := SourceFile.nextTokenStart_le sorts.tidy.tokens.ordered token (Nat.le_of_eq opens.symm)
    omega
  have comments := moved.commentsAfter_across (by omega) closing
    (fun _ => sorts.no_token_behind member source) next ⟨t, token, inside, opens⟩ left'
  rw [source, sorts.within_moving member, sorts.within_self, List.map_nil,
    List.append_nil] at comments
  have target : right.start = h.target := by
    rw [right', Segment.shift, source']
    omega
  rw [SourceFile.areAdjacent_eq, comments, target, left']
  have ends := own_stop source
  by_cases empty : ownComments file last x = []
  · rw [empty] at ends
    rw [empty, List.map_nil, closeUp_nil, decide_eq_true_eq]
    exact ends ▸ lines
  · obtain ⟨c, d, head, final⟩ := exists_ends empty
    have head' : ((ownComments file last x).map g.move).head? = some (g.move c) := by
      rw [List.head?_map, head]
      rfl
    have final' : ((ownComments file last x).map g.move).getLast? = some (g.move d) := by
      rw [List.getLast?_map, final]
      rfl
    have rear : (g.move d).stop = g.stop := by
      rw [ends, final]
      rfl
    rw [closeUp_ends head' final', rear, Bool.and_eq_true, decide_eq_true_eq, decide_eq_true_eq]
    exact ⟨sorts.own_close_again again.lined copies member source head, lines⟩

theorem last_entry (sorts : SortsRun r file p members last e)
    (here : p.imports[last]? = some final) :
    (p.entries members).getLast? = some (final, last) ∧ e.span.stop = final.span.stop := by
  obtain ⟨_, x, _, getLast, same, _⟩ := editSpan?_some sorts.stretch.edit
  have number : x.2 = last := by simpa [getLast] using sorts.stretch.final
  have entry := entry_getElem? (List.mem_of_getLast? getLast)
  rw [number, here, Option.some.injEq] at entry
  constructor
  · rw [getLast, entry, ← number]
  · rw [same, entry]

theorem last_member (sorts : SortsRun r file p members last e) : last ∈ members :=
  List.mem_of_getLast? sorts.final

theorem last_eq (sorts : SortsRun r file p members last e) {n : Nat}
    (numbers : members = List.range' n (p.entries members).length) :
    last + 1 = n + (p.entries members).length := by
  have final := sorts.final
  rw [numbers, List.getLast?_range'] at final
  split at final
  · cases final
  · cases final
    omega

theorem after_last (sorts : SortsRun r file p members last e) : last + 1 ∉ members := by
  obtain ⟨front, back, -, numbers⟩ := sorts.parts
  have final := sorts.last_eq numbers
  rw [numbers, List.mem_range'_1]
  omega

theorem imports_apart (sorts : SortsRun r file p members last e) {i j : Nat} (before : i < j)
    (first : p.imports[i]? = some a) (second : p.imports[j]? = some b) :
    a.span.stop ≤ b.span.start := by
  have apart := List.pairwise_iff_getElem.mp (List.pairwise_map.mp sorts.fit.ordered.apart)
  obtain ⟨bound, rfl⟩ := List.getElem?_eq_some_iff.mp first
  obtain ⟨bound', rfl⟩ := List.getElem?_eq_some_iff.mp second
  exact apart i j bound bound' before

theorem pieces_stop (sorts : SortsRun r file p members last e)
    (piece : (sortedPieces p r file members last e).getLast? = some g) :
    g.stop = (trailing file e).shift e.span.stop := by
  rw [sorts.pieces_last piece]
  simp [trailing, Segment.shift]

section Last

variable (sorts : SortsRun r file p members last e)
  (ending : p.imports[last]? = some final) (following : p.imports[last + 1]? = some next)
include sorts ending

theorem left_behind :
    within e.span.stop (file.nextTokenStart e.span.stop) (file.comments.toList.map (·.span)) =
      (file.commentsAfter final.span).map (·.span) := by
  rw [SourceFile.commentsAfter_spans sorts.tidy.tokens.ordered sorts.tidy.comments,
    (sorts.last_entry ending).2]

include following

theorem token_behind :
    ∃ t ∈ file.tokens.toList, t.span.start = file.nextTokenStart e.span.stop ∧
      e.span.stop ≤ t.span.start ∧ t.span.start ≤ next.span.start ∧
      next.span.start ≤ file.text.size := by
  have order := sorts.imports_apart (Nat.lt_succ_self last) ending following
  rw [← (sorts.last_entry ending).2] at order
  obtain ⟨t, token, opens⟩ := sorts.token (List.mem_of_getElem? following)
  obtain ⟨u, other, here, after⟩ := SourceFile.nextTokenStart_mem token
    (by omega : e.span.stop ≤ t.span.start)
  have below := SourceFile.nextTokenStart_le sorts.tidy.tokens.ordered token
    (by omega : e.span.stop ≤ t.span.start)
  have boundary := sorts.fit.boundaries _ (List.mem_map_of_mem (List.mem_of_getElem? following))
  exact ⟨u, other, here, by omega, by omega, Text.boundary_le boundary.1⟩

theorem left_behind_bounds :
    ∀ s ∈ (file.commentsAfter final.span).map (·.span),
      e.span.stop ≤ s.start ∧ s.start < s.stop ∧ s.stop ≤ next.span.start := by
  intro s found
  obtain ⟨t, -, start, -, below, -⟩ := sorts.token_behind ending following
  rw [← sorts.left_behind ending] at found
  obtain ⟨listed, lower, upper⟩ := mem_within.mp found
  exact ⟨lower, sorts.comments_proper s listed, by omega⟩

theorem not_adjacent :
    ¬ closeUp file.lineOf ((file.commentsAfter final.span).map (·.span)) e.span.stop
      next.span.start = true := by
  have apart := (sorts.run_adjacent sorts.last_member ending following).not.mpr sorts.after_last
  rw [SourceFile.areAdjacent_eq, ← (sorts.last_entry ending).2] at apart
  exact apart

theorem commentsAfter_last (again : Reread r file p members last e file' p')
    (member : x ∈ p.entries members) (source : g.source = Plan.movingSpan file last x)
    (piece : (sortedPieces p r file members last e).getLast? = some g)
    (left' : left.stop = g.shift x.1.span.stop) :
    (file'.commentsAfter left).map (·.span) =
      (ownComments file last x).map g.move ++
        ((file.commentsAfter final.span).map (·.span)).map (trailing file e).move := by
  obtain ⟨start, stop, -, -⟩ := sorts.moving_fits member
  have forward := sorts.moving_forward member
  obtain ⟨t, token, here, after, -⟩ := sorts.token_behind ending following
  obtain ⟨front, split⟩ := List.getLast?_eq_some_iff.mp piece
  have moved := sorts.relocated again
  have layout : orderLayout p r file members last e =
      (leading e :: front) ++ g :: trailing file e :: [] := by
    rw [orderLayout, split]
    simp
  rw [layout] at moved
  have comments := moved.commentsAfter_across (by rw [source]; omega) (by rwa [source])
    (fun _ => sorts.no_token_behind member source) rfl
    ⟨t, token, sorts.token_trailing token after, here⟩ left'
  rw [source, sorts.within_moving member] at comments
  rw [comments, ← sorts.left_behind ending]
  rfl

theorem lines_behind (again : Reread r file p members last e file' p') {n : Nat}
    (lower : e.span.stop ≤ n) (upper : n ≤ next.span.start) :
    file'.lineOf ((trailing file e).shift next.span.start) -
      file'.lineOf ((trailing file e).shift n) = file.lineOf next.span.start - file.lineOf n := by
  obtain ⟨-, -, -, -, -, fits⟩ := sorts.token_behind ending following
  have copies := (sorts.relocated again).copies (trailing file e) (by simp [orderLayout])
  exact SourceFile.lineOf_shift sorts.lined again.lined copies ⟨lower, Nat.le_trans upper fits⟩
    ⟨Nat.le_trans lower upper, fits⟩

/-- Without comments of its own the import that goes last stands where the last one did, and the
next import is as far from it. -/
theorem apart_without_own (again : Reread r file p members last e file' p') :
    ¬ closeUp file'.lineOf
      (((file.commentsAfter final.span).map (·.span)).map (trailing file e).move)
      ((trailing file e).shift e.span.stop) ((trailing file e).shift next.span.start) = true := by
  obtain ⟨t, -, -, after, below, fits⟩ := sorts.token_behind ending following
  have copies := (sorts.relocated again).copies (trailing file e) (by simp [orderLayout])
  rw [SourceFile.closeUp_shift sorts.lined again.lined copies (Nat.le_refl e.span.stop) (by omega)
    fits (sorts.left_behind_bounds ending following)]
  exact sorts.not_adjacent ending following

theorem close_with_own (again : Reread r file p members last e file' p')
    (member : x ∈ p.entries members) (source : g.source = Plan.movingSpan file last x)
    (piece : (sortedPieces p r file members last e).getLast? = some g)
    (brings : ownComments file last x ≠ []) :
    closeUp file'.lineOf ((ownComments file last x).map g.move ++
        ((file.commentsAfter final.span).map (·.span)).map (trailing file e).move)
      (g.shift x.1.span.stop) ((trailing file e).shift next.span.start) = true ↔
      ∃ c, (file.commentsAfter final.span).getLast? = some c ∧
        file.lineOf next.span.start - file.lineOf c.span.stop ≤ 1 := by
  obtain ⟨c, d, head, own⟩ := exists_ends brings
  obtain ⟨t, -, -, after, below, -⟩ := sorts.token_behind ending following
  have copies := (sorts.relocated again).copies g (List.mem_cons_of_mem _
    (List.mem_append_left _ (List.mem_of_getLast? piece)))
  have near := sorts.own_close_again again.lined copies member source head
  have head' : ((ownComments file last x).map g.move ++
      ((file.commentsAfter final.span).map (·.span)).map (trailing file e).move).head? =
      some (g.move c) := by
    rw [List.head?_append, List.head?_map, head]
    rfl
  by_cases clean : file.commentsAfter final.span = []
  · -- A blank line without comments still divides the run from the next import.
    have apart := sorts.not_adjacent ending following
    rw [clean, List.map_nil, closeUp_nil, decide_eq_true_eq] at apart
    have own' : ((ownComments file last x).map g.move).getLast? = some (g.move d) := by
      rw [List.getLast?_map, own]
      rfl
    have rear : (g.move d).stop = (trailing file e).shift e.span.stop := by
      have meet := sorts.pieces_stop piece
      rw [own_stop source, own] at meet
      exact meet
    rw [clean, List.map_nil, List.map_nil, List.append_nil] at head' ⊢
    rw [closeUp_ends head' own', rear,
      sorts.lines_behind ending following again (Nat.le_refl _) (by omega), Bool.and_eq_true,
      decide_eq_true_eq, decide_eq_true_eq]
    constructor
    · rintro ⟨-, close⟩
      exact absurd close apart
    · rintro ⟨k, rear, -⟩
      cases rear
  · obtain ⟨k, rear⟩ := Option.isSome_iff_exists.mp (List.getLast?_isSome.mpr clean)
    have rear' : ((ownComments file last x).map g.move ++
        ((file.commentsAfter final.span).map (·.span)).map (trailing file e).move).getLast? =
        some ((trailing file e).move k.span) := by
      rw [List.getLast?_append, List.getLast?_map, List.getLast?_map, rear]
      rfl
    have place := sorts.left_behind_bounds ending following k.span
      (List.mem_map_of_mem (List.mem_of_getLast? rear))
    rw [closeUp_ends head' rear', Segment.move, Segment.move,
      sorts.lines_behind ending following again (by omega) place.2.2, Bool.and_eq_true,
      decide_eq_true_eq, decide_eq_true_eq]
    constructor
    · rintro ⟨-, close⟩
      exact ⟨k, rear, close⟩
    · rintro ⟨c', rear'', close⟩
      rw [rear, Option.some.injEq] at rear''
      subst rear''
      exact ⟨near, close⟩

/-- The sorted run is adjacent to the next import exactly when it joins it. -/
theorem adjacent_across (again : Reread r file p members last e file' p')
    (entry : (Plan.sortEntries r (p.entries members)).getLast? = some x)
    (piece : (sortedPieces p r file members last e).getLast? = some g)
    (left' : left.stop = g.shift x.1.span.stop)
    (right' : right.start = (trailing file e).shift next.span.start) :
    file'.areAdjacent left right = true ↔ JoinsNext p r file members last := by
  obtain ⟨member, source⟩ := last_source entry piece
  have comments := sorts.commentsAfter_last ending following again member source piece left'
  rw [SourceFile.areAdjacent_eq, comments, left', right', joinsNext_iff entry ending following]
  by_cases none : ownComments file last x = []
  · have here : g.shift x.1.span.stop = (trailing file e).shift e.span.stop := by
      rw [← sorts.pieces_stop piece, own_stop source, none]
      rfl
    rw [none, List.map_nil, List.nil_append, here]
    constructor
    · intro close
      exact absurd close (sorts.apart_without_own ending following again)
    · rintro ⟨brings, -⟩
      exact absurd rfl brings
  · rw [sorts.close_with_own ending following again member source piece none, and_iff_right none]

end Last

end Neighbours

end SortsRun

end ScriptLint.ImportPaths
