import ScriptLint.Proofs.Rules.LineComments
import ScriptLint.Proofs.Source.Relocation

/-!
Where the pieces of a file stand when a run of its imports was sorted.

The text before the edit stays where it is, the imports follow in their new order with their
comments, and the text after the edit moves as a whole. Read again, the new text has its tokens,
comments and imports at the offsets to which their pieces have gone.
-/
namespace ScriptLint

def ImportEntry.putAt (i : ImportEntry) (s : Span) : ImportEntry := { i with node := 0, span := s }

theorem ImportEntry.span_of_putAt {i j : ImportEntry} {s t : Span} (same : i.putAt s = j.putAt t) :
    s = t := by
  have spans := congrArg ImportEntry.span same
  exact spans

namespace ImportPaths

def Placement.segment (x : Placement) : Segment := ⟨x.fragment, Text.size x.before⟩

section Placements

variable {file : SourceFile} {after before : Text} {spans : List Span} {joints : List Text}

theorem map_fragment_placements (file : SourceFile) (after before : Text) (spans : List Span)
    (joints : List Text) :
    (placements file after before spans joints).map (·.fragment) = spans := by
  induction spans generalizing before joints with
  | nil => rfl
  | cons s spans ih => rw [placements, List.map_cons, ih]

theorem placements_next {k : Nat} {x y : Placement}
    (first : (placements file after before spans joints)[k]? = some x)
    (second : (placements file after before spans joints)[k + 1]? = some y) :
    ∃ joint, (joint = [] ∨ joint ∈ joints) ∧
      y.before = x.before ++ file.slice x.fragment ++ joint := by
  induction spans generalizing before joints k with
  | nil => simp [placements] at first
  | cons s spans ih =>
    cases k with
    | zero =>
      cases spans with
      | nil => simp [placements] at second
      | cons next spans =>
        simp only [placements, List.getElem?_cons_zero, Option.some.injEq] at first
        simp only [placements, List.getElem?_cons_succ, List.getElem?_cons_zero,
          Option.some.injEq] at second
        subst first second
        refine ⟨joints.headD [], ?_, rfl⟩
        cases joints <;> simp
    | succ k =>
      obtain ⟨joint, origin, same⟩ := ih first second
      refine ⟨joint, ?_, same⟩
      exact origin.imp_right List.mem_of_mem_tail

theorem placements_last (count : joints.length + 1 = spans.length) {x : Placement}
    (final : (placements file after before spans joints).getLast? = some x) :
    x.before ++ file.slice x.fragment =
      before ++ SourceFile.weave (spans.map file.slice) joints := by
  induction spans generalizing before joints with
  | nil => simp at count
  | cons s spans ih =>
    rw [List.map_cons, SourceFile.weave_cons]
    cases spans with
    | nil =>
      obtain rfl : joints = [] := List.length_eq_zero_iff.mp (by simpa using count)
      simp only [placements, List.getLast?_singleton, Option.some.injEq] at final
      subst final
      simp [SourceFile.weave]
    | cons next spans =>
      cases joints with
      | nil => simp at count
      | cons joint joints =>
        rw [placements, placements, List.getLast?_cons_cons, ← placements] at final
        rw [ih (by simpa using count) final]
        simp

theorem placements_segments (fit : ∀ s ∈ spans, s.start ≤ s.stop ∧
      file.text.isBoundary s.start = true ∧ file.text.isBoundary s.stop = true) :
    let placed := (placements file after before spans joints).map Placement.segment
    placed.Pairwise (fun g h => g.stop ≤ h.target) ∧
      ∀ g ∈ placed, Text.size before ≤ g.target ∧
        g.stop ≤ Text.size before + Text.size (SourceFile.weave (spans.map file.slice) joints) := by
  induction spans generalizing before joints with
  | nil => simp [placements]
  | cons s spans ih =>
    obtain ⟨⟨ordered, start, stop⟩, others⟩ := List.forall_mem_cons.mp fit
    have size : Text.size (file.slice s) = s.stop - s.start := Text.size_slice ordered start stop
    have rest := @ih (before ++ file.slice s ++ joints.headD []) joints.tail others
    simp only [Text.size_append] at rest
    simp only [placements, List.map_cons, List.pairwise_cons, List.forall_mem_cons,
      SourceFile.weave_cons, Text.size_append]
    refine ⟨⟨?_, rest.1⟩, ?_, ?_⟩
    · intro h member
      have := (rest.2 h member).1
      simp only [Placement.segment, Segment.stop, Segment.shift]
      omega
    · simp only [Placement.segment, Segment.stop, Segment.shift]
      omega
    · intro h member
      have := rest.2 h member
      omega

end Placements

def leading (e : Edit) : Segment := ⟨⟨0, e.span.start⟩, 0⟩

def trailing (file : SourceFile) (e : Edit) : Segment :=
  ⟨⟨e.span.stop, file.text.size⟩, e.span.start + Text.size e.replacement⟩

def sortedPieces (p : Plan) (r : ImportOrder) (file : SourceFile) (members : List Nat)
    (last : Nat) (e : Edit) : List Segment :=
  (orderPlacements p r file members last e).map Placement.segment

def orderLayout (p : Plan) (r : ImportOrder) (file : SourceFile) (members : List Nat)
    (last : Nat) (e : Edit) : List Segment :=
  leading e :: (sortedPieces p r file members last e ++ [trailing file e])

/-- A run of imports and the edit that sorts it. No comment and no import is empty. -/
structure SortsRun (r : ImportOrder) (file : SourceFile) (p : Plan) (members : List Nat)
    (last : Nat) (e : Edit) : Prop where
  tidy : file.Tidy
  lined : file.Lined
  comments : ∀ c ∈ file.comments.toList, c.span.start < c.span.stop
  plan : planOf r file = .ok p
  imports : ∀ i ∈ p.imports, i.span.start < i.span.stop
  run : members ∈ p.runs
  final : members.getLast? = some last
  edit : p.orderEdit? r file members = some e

/-- The edited text is read again: the same tokens, comments and imports, where they have gone. -/
structure Reread (r : ImportOrder) (file : SourceFile) (p : Plan) (members : List Nat)
    (last : Nat) (e : Edit) (file' : SourceFile) (p' : Plan) : Prop where
  text : file'.text = Edit.splice file.text e
  lined : file'.Lined
  tokens : file'.tokens.toList.map (·.span) =
    relocate (orderLayout p r file members last e) (file.tokens.toList.map (·.span))
  comments : file'.comments.toList.map (·.span) =
    relocate (orderLayout p r file members last e) (file.comments.toList.map (·.span))
  plan : planOf r file' = .ok p'
  imports : p'.imports.map (fun i => i.putAt i.span) =
    (orderLayout p r file members last e).flatMap fun g =>
      (p.imports.filter fun i => g.source.contains i.span).map fun i => i.putAt (g.move i.span)

section Runs

variable {r : ImportOrder} {file file' : SourceFile} {p p' : Plan} {members : List Nat}
  {last : Nat} {e : Edit}

theorem orderEdit?_span (edit : p.orderEdit? r file members = some e) :
    p.editSpan? (p.entries members) = some e.span := by
  obtain ⟨span, last, covers, -, rfl⟩ := Plan.orderEdit?_some edit
  exact covers

namespace SortsRun

theorem runs (sorts : SortsRun r file p members last e) :
    p.runs = file.adjacentRuns (p.imports.map (·.span)) := by
  obtain ⟨-, -, -, -, -, runs, -⟩ := planOf_ok sorts.plan
  exact runs

theorem consecutive (sorts : SortsRun r file p members last e) :
    members <:+: List.range p.imports.length :=
  Plan.runs_consecutive sorts.runs sorts.run

theorem stretch (sorts : SortsRun r file p members last e) :
    Stretch file p (p.entries members) last e.span := by
  obtain ⟨-, root, -⟩ := planOf_ok sorts.plan
  exact
    { tidy := sorts.tidy
      root
      covers := planOf_covers sorts.plan
      consecutive := Plan.entries_consecutive sorts.consecutive
      final := by rw [← List.getLast?_map, Plan.map_snd_entries sorts.consecutive, sorts.final]
      edit := orderEdit?_span sorts.edit }

theorem parts (sorts : SortsRun r file p members last e) :
    ∃ front back, p.imports = front ++ ((p.entries members).map Prod.fst ++ back) ∧
      members = List.range' front.length (p.entries members).length := by
  obtain ⟨front, back, whole⟩ := sorts.stretch.consecutive
  refine ⟨front.map Prod.fst, back.map Prod.fst, ?_, ?_⟩
  · have firsts := congrArg (List.map Prod.fst) whole
    rw [List.zipIdx_map_fst] at firsts
    rw [← firsts]
    simp
  · have numbers := congrArg (List.map Prod.snd) whole
    rw [List.zipIdx_map_snd, List.append_assoc, List.map_append, List.map_append,
      Plan.map_snd_entries sorts.consecutive] at numbers
    obtain ⟨k, -, first, rest⟩ := List.range'_eq_append_iff.mp numbers.symm
    obtain ⟨n, -, here, -⟩ := List.range'_eq_append_iff.mp rest.symm
    have frontCount : front.length = k := by simpa using congrArg List.length first
    have runCount : (p.entries members).length = n := by
      rw [← List.length_map Prod.snd, Plan.map_snd_entries sorts.consecutive]
      simpa using congrArg List.length here
    rw [List.length_map, frontCount, runCount, here, Nat.zero_add, Nat.mul_one]

theorem fit (sorts : SortsRun r file p members last e) :
    EntriesFit file (p.imports.map (·.span)) := by
  have siblings := SourceFile.tidy_entries sorts.tidy (Or.inl sorts.stretch.root)
  exact entriesFit_sublist siblings sorts.stretch.covers.imports

theorem token (sorts : SortsRun r file p members last e) {i : ImportEntry}
    (member : i ∈ p.imports) : ∃ t ∈ file.tokens.toList, t.span.start = i.span.start := by
  obtain ⟨child, tag, placed⟩ := sorts.stretch.covers.declared i member
  exact sorts.tidy.imports i.node child tag i.span placed

theorem entry_import {x : ImportEntry × Nat} (member : x ∈ p.entries members) :
    x.1 ∈ p.imports := by
  obtain ⟨i, -, found⟩ := List.mem_filterMap.mp member
  obtain ⟨entry, here, rfl⟩ := Option.map_eq_some_iff.mp found
  exact List.mem_of_getElem? here

theorem mem_sorted {x : ImportEntry × Nat} :
    x ∈ Plan.sortEntries r (p.entries members) ↔ x ∈ p.entries members :=
  List.mem_mergeSort

theorem moving_fits (sorts : SortsRun r file p members last e) {x : ImportEntry × Nat}
    (member : x ∈ p.entries members) :
    (Plan.movingSpan file last x).start = x.1.span.start ∧
      x.1.span.stop ≤ (Plan.movingSpan file last x).stop ∧
      file.text.isBoundary (Plan.movingSpan file last x).start = true ∧
      file.text.isBoundary (Plan.movingSpan file last x).stop = true := by
  have fits := piece_fits sorts.stretch member
  rw [movingSpan_start]
  exact ⟨rfl, fits.forward, fits.start_boundary, fits.stop_boundary⟩

theorem moving_forward (sorts : SortsRun r file p members last e) {x : ImportEntry × Nat}
    (member : x ∈ p.entries members) :
    x.1.span.start < x.1.span.stop ∧
      (Plan.movingSpan file last x).start < (Plan.movingSpan file last x).stop := by
  obtain ⟨start, stop, -, -⟩ := sorts.moving_fits member
  have := sorts.imports x.1 (entry_import member)
  omega

theorem moving_token (sorts : SortsRun r file p members last e) {x : ImportEntry × Nat}
    (member : x ∈ p.entries members) {t : Token} (token : t ∈ file.tokens.toList)
    (after : x.1.span.start ≤ t.span.start)
    (before : t.span.start < (Plan.movingSpan file last x).stop) :
    x.1.span.contains t.span = true := by
  apply piece_tokens sorts.stretch member token
  have forward := sorts.moving_forward member
  have proper := sorts.tidy.proper t token
  rw [piece_span]
  have start := (sorts.moving_fits member).1
  simp only [Span.Meets]
  omega

theorem moving_alone (sorts : SortsRun r file p members last e) {x : ImportEntry × Nat}
    (member : x ∈ p.entries members) {i : ImportEntry} (other : i ∈ p.imports)
    (inside : (Plan.movingSpan file last x).contains i.span = true) : i.span = x.1.span := by
  have proper := sorts.imports i other
  have start := (sorts.moving_fits member).1
  have here : i.span ∈ p.imports.map (·.span) := List.mem_map_of_mem other
  have own : x.1.span ∈ p.imports.map (·.span) := List.mem_map_of_mem (entry_import member)
  rw [Span.contains_iff] at inside
  rcases last_or_neighbour member with final | ⟨next, pair⟩
  · have number : x.2 = last := by simpa [final] using sorts.stretch.final
    subst number
    rw [movingSpan_last] at inside
    rcases ordered_disjoint sorts.fit.ordered here own with same | before | after
    · exact same
    · omega
    · omega
  · have upper := (movingSpan_neighbour sorts.stretch pair).2.1
    have spans := (stretch_pair pair).trans (stretch_spans sorts.stretch)
    have nextProper := sorts.imports next.1 (entry_import (pair.subset (by simp)))
    rcases ordered_neighbours sorts.fit.ordered spans here with before | same | same | after
    · omega
    · exact same
    · rw [same] at inside proper
      omega
    · omega

theorem spans_nodup (sorts : SortsRun r file p members last e) :
    (p.imports.map (·.span)).Nodup := by
  unfold List.Nodup
  apply sorts.fit.ordered.apart.imp_of_mem
  intro a b first second apart same
  obtain ⟨i, member, rfl⟩ := List.mem_map.mp first
  have := sorts.imports i member
  rw [← same] at apart
  omega

theorem filter_moving (sorts : SortsRun r file p members last e) {x : ImportEntry × Nat}
    (member : x ∈ p.entries members) :
    (p.imports.filter fun i => (Plan.movingSpan file last x).contains i.span) = [x.1] := by
  obtain ⟨start, stop, -, -⟩ := sorts.moving_fits member
  have own : (Plan.movingSpan file last x).contains x.1.span = true := by
    rw [Span.contains_iff]
    omega
  have singled : (p.imports.filter fun i => (Plan.movingSpan file last x).contains i.span) =
      p.imports.filter fun i => i.span = x.1.span := by
    apply List.filter_congr
    intro i other
    rw [Bool.eq_iff_iff, decide_eq_true_iff]
    constructor
    · exact sorts.moving_alone member other
    · intro same
      rw [same]
      exact own
  obtain ⟨i, only⟩ := filter_of_nodup_map sorts.spans_nodup
    (List.mem_map_of_mem (entry_import member))
  have kept : x.1 ∈ p.imports.filter fun i => i.span = x.1.span :=
    List.mem_filter.mpr ⟨entry_import member, by simp⟩
  rw [only, List.mem_singleton] at kept
  rw [singled, only, kept]

theorem edit_boundaries (sorts : SortsRun r file p members last e) :
    file.text.isBoundary e.span.start = true ∧ file.text.isBoundary e.span.stop = true := by
  obtain ⟨first, final, head, getLast, same, -⟩ := editSpan?_some sorts.stretch.edit
  have fit := stretch_fit sorts.stretch
  rw [same]
  exact ⟨(fit.boundaries _ (List.mem_map_of_mem (List.mem_of_mem_head? head))).1,
    (fit.boundaries _ (List.mem_map_of_mem (List.mem_of_getLast? getLast))).2⟩

theorem edit_forward (sorts : SortsRun r file p members last e) : e.span.start ≤ e.span.stop := by
  obtain ⟨first, -, head, -⟩ := editSpan?_some sorts.stretch.edit
  have member := List.mem_of_mem_head? head
  have := stretch_bounds sorts.stretch member
  have := (sorts.moving_forward member).1
  omega

theorem count_joints (sorts : SortsRun r file p members last e) :
    (Plan.joints file last (p.entries members)).length + 1 =
      (orderFragments p r file members last).length := by
  obtain ⟨nonempty, -⟩ := orderEdit?_replacement sorts.final sorts.edit
  rw [joints_eq, List.length_map, Piece.length_gaps (by simpa using nonempty), List.length_map,
    orderFragments, List.length_map, Plan.sortEntries, List.length_mergeSort]

theorem pieces_sources (p : Plan) (r : ImportOrder) (file : SourceFile) (members : List Nat)
    (last : Nat) (e : Edit) :
    (sortedPieces p r file members last e).map (·.source) =
      (Plan.sortEntries r (p.entries members)).map (Plan.movingSpan file last) := by
  have fragments := map_fragment_placements file (file.text.after e.span.stop)
    (file.text.before e.span.start) (orderFragments p r file members last)
    (Plan.joints file last (p.entries members))
  rw [sortedPieces, List.map_map]
  exact fragments

theorem fragments_fit (sorts : SortsRun r file p members last e) :
    ∀ s ∈ orderFragments p r file members last, s.start ≤ s.stop ∧
      file.text.isBoundary s.start = true ∧ file.text.isBoundary s.stop = true := by
  intro s member
  obtain ⟨x, found, rfl⟩ := List.mem_map.mp member
  obtain ⟨-, -, first, second⟩ := sorts.moving_fits (mem_sorted.mp found)
  exact ⟨Nat.le_of_lt (sorts.moving_forward (mem_sorted.mp found)).2, first, second⟩

theorem successive (sorts : SortsRun r file p members last e) :
    Successive (orderLayout p r file members last e) := by
  obtain ⟨first, -⟩ := sorts.edit_boundaries
  obtain ⟨-, replacement⟩ := orderEdit?_replacement sorts.final sorts.edit
  obtain ⟨apart, between⟩ := @placements_segments file (file.text.after e.span.stop)
    (file.text.before e.span.start) _ (Plan.joints file last (p.entries members))
    sorts.fragments_fit
  rw [(Text.boundary_parts first).2, ← replacement] at between
  unfold Successive
  rw [orderLayout, List.pairwise_cons, List.pairwise_append]
  refine ⟨?_, apart, List.pairwise_singleton _ _, ?_⟩
  · intro h member
    simp only [leading, Segment.stop, Segment.shift]
    rcases List.mem_append.mp member with piece | rest
    · have := (between h piece).1
      omega
    · rw [List.mem_singleton.mp rest]
      simp only [trailing]
      omega
  · intro g piece h rest
    rw [List.mem_singleton.mp rest, trailing]
    exact (between g piece).2

theorem placed_fits (sorts : SortsRun r file p members last e) {x : Placement}
    (placed : x ∈ orderPlacements p r file members last e) :
    x.fragment.start ≤ x.fragment.stop ∧ file.text.isBoundary x.fragment.start = true ∧
      file.text.isBoundary x.fragment.stop = true := by
  have inside := List.mem_map_of_mem (f := Placement.fragment) placed
  rw [orderPlacements, map_fragment_placements] at inside
  exact sorts.fragments_fit _ inside

theorem copies (sorts : SortsRun r file p members last e)
    (text : file'.text = Edit.splice file.text e) :
    ∀ g ∈ orderLayout p r file members last e, g.Copies file.text file'.text := by
  obtain ⟨first, second⟩ := sorts.edit_boundaries
  obtain ⟨whole, size⟩ := Text.boundary_parts first
  obtain ⟨whole', size'⟩ := Text.boundary_parts second
  obtain ⟨-, replacement⟩ := orderEdit?_replacement sorts.final sorts.edit
  unfold Edit.splice at text
  intro g member
  simp only [orderLayout, List.mem_cons, List.mem_append, List.not_mem_nil, or_false] at member
  rcases member with rfl | piece | rfl
  · refine ⟨[], file.text.before e.span.start, file.text.after e.span.start, [],
      e.replacement ++ file.text.after e.span.stop, whole, rfl, ?_, ?_, rfl⟩
    · simpa [leading] using size
    · simpa using text
  · obtain ⟨x, placed, rfl⟩ := List.mem_map.mp piece
    obtain ⟨forward, start, stop⟩ := sorts.placed_fits placed
    obtain ⟨p', r', parts, starts, stops⟩ := Text.slice_parts forward start stop
    refine ⟨p', file.slice x.fragment, r', x.before, x.after, parts, starts, stops, ?_, rfl⟩
    rw [text, replacement, ← placements_text placed, List.append_assoc]
  · refine ⟨file.text.before e.span.stop, file.text.after e.span.stop, [],
      file.text.before e.span.start ++ e.replacement, [], ?_, size', ?_, ?_, ?_⟩
    · rw [List.append_nil]
      exact whole'
    · have total := congrArg Text.size whole'
      rw [Text.size_append] at total
      exact total.symm
    · rw [List.append_nil]
      exact text
    · rw [Text.size_append, size]
      rfl

theorem relocated (sorts : SortsRun r file p members last e)
    (again : Reread r file p members last e file' p') :
    Relocated (orderLayout p r file members last e) file file' where
  tokensOrdered := sorts.tidy.tokens.ordered
  tokensProper := sorts.tidy.proper
  commentsOrdered := sorts.tidy.comments
  commentsProper := sorts.comments
  lined := sorts.lined
  lined' := again.lined
  successive := sorts.successive
  copies := sorts.copies again.text
  tokens := again.tokens
  comments := again.comments

theorem bounds (sorts : SortsRun r file p members last e) {front back : List ImportEntry}
    (parts : p.imports = front ++ ((p.entries members).map Prod.fst ++ back)) :
    (∀ i ∈ front, i.span.stop ≤ e.span.start) ∧
      (∀ i ∈ (p.entries members).map Prod.fst,
        e.span.start ≤ i.span.start ∧ i.span.stop ≤ e.span.stop) ∧
      ∀ i ∈ back, e.span.stop ≤ i.span.start ∧ i.span.stop ≤ file.text.size := by
  obtain ⟨first, final, head, getLast, same, -⟩ := editSpan?_some sorts.stretch.edit
  have apart := List.pairwise_map.mp sorts.fit.ordered.apart
  rw [parts] at apart
  obtain ⟨-, rest, before⟩ := List.pairwise_append.mp apart
  obtain ⟨-, -, after⟩ := List.pairwise_append.mp rest
  have firstMember := List.mem_map_of_mem (f := Prod.fst) (List.mem_of_mem_head? head)
  have finalMember := List.mem_map_of_mem (f := Prod.fst) (List.mem_of_getLast? getLast)
  refine ⟨?_, ?_, ?_⟩
  · intro i member
    rw [same]
    exact before i member first.1 (List.mem_append_left _ firstMember)
  · intro i member
    obtain ⟨x, found, rfl⟩ := List.mem_map.mp member
    exact stretch_bounds sorts.stretch found
  · intro i member
    have inside : i ∈ p.imports := by
      rw [parts]
      simp [member]
    constructor
    · rw [same]
      exact after final.1 finalMember i member
    · exact Text.boundary_le (sorts.fit.boundaries _ (List.mem_map_of_mem inside)).2

theorem filter_leading (sorts : SortsRun r file p members last e) {front back : List ImportEntry}
    (parts : p.imports = front ++ ((p.entries members).map Prod.fst ++ back)) :
    p.imports.filter ((leading e).source.contains ·.span) = front := by
  obtain ⟨before, inside, after⟩ := sorts.bounds parts
  have kept : ∀ i ∈ front, (leading e).source.contains i.span = true := by
    intro i member
    exact Span.contains_iff.mpr ⟨Nat.zero_le _, before i member⟩
  have dropped : ∀ i ∈ (p.entries members).map Prod.fst ++ back,
      ¬ (leading e).source.contains i.span = true := by
    intro i member contained
    have contained : i.span.stop ≤ e.span.start := (Span.contains_iff.mp contained).2
    have proper := sorts.imports i (parts ▸ List.mem_append_right _ member)
    rcases List.mem_append.mp member with here | later
    · have := inside i here
      omega
    · have := after i later
      have := sorts.edit_forward
      omega
  rw [parts, List.filter_append, List.filter_eq_self.mpr kept, List.filter_eq_nil_iff.mpr dropped,
    List.append_nil]

theorem filter_trailing (sorts : SortsRun r file p members last e) {front back : List ImportEntry}
    (parts : p.imports = front ++ ((p.entries members).map Prod.fst ++ back)) :
    p.imports.filter ((trailing file e).source.contains ·.span) = back := by
  obtain ⟨before, inside, after⟩ := sorts.bounds parts
  rw [← List.append_assoc] at parts
  have kept : ∀ i ∈ back, (trailing file e).source.contains i.span = true := by
    intro i member
    exact Span.contains_iff.mpr (after i member)
  have dropped : ∀ i ∈ front ++ (p.entries members).map Prod.fst,
      ¬ (trailing file e).source.contains i.span = true := by
    intro i member contained
    have contained : e.span.stop ≤ i.span.start := (Span.contains_iff.mp contained).1
    have proper := sorts.imports i (parts ▸ List.mem_append_left _ member)
    have forward := sorts.edit_forward
    rcases List.mem_append.mp member with early | here
    · have := before i early
      omega
    · have := inside i here
      omega
  rw [parts, List.filter_append, List.filter_eq_nil_iff.mpr dropped, List.filter_eq_self.mpr kept,
    List.nil_append]

theorem imports_again (sorts : SortsRun r file p members last e)
    (again : Reread r file p members last e file' p') {front back : List ImportEntry}
    (parts : p.imports = front ++ ((p.entries members).map Prod.fst ++ back)) :
    p'.imports.map (fun i => i.putAt i.span) =
      front.map (fun i => i.putAt i.span) ++
        (((Plan.sortEntries r (p.entries members)).zip (sortedPieces p r file members last e)).map
            (fun x => x.1.1.putAt (x.2.move x.1.1.span)) ++
          back.map fun i => i.putAt ((trailing file e).move i.span)) := by
  rw [again.imports, orderLayout, List.flatMap_cons, List.flatMap_append, List.flatMap_singleton,
    sorts.filter_leading parts, sorts.filter_trailing parts]
  -- The outer parts agree as they stand: a leading import moves nowhere.
  congr 2
  apply flatMap_zip (pieces_sources p r file members last e)
  intro x member g source
  rw [source, sorts.filter_moving (mem_sorted.mp member)]
  rfl

end SortsRun

end Runs

end ImportPaths

end ScriptLint
