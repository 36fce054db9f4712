import Mathlib
import ScriptLint.Proofs.Fix
import ScriptLint.Proofs.Lint.Shares
import ScriptLint.Proofs.Rules.SafeEdits
import ScriptLint.Proofs.Syntax.WellFormed

/-!
The edits that one walk offers for object patterns.

The edit of a pattern covers all entries that it moves, with everything below them. A pattern in one
of these entries gets an edit of its own, and that one lies inside the first. There is no other way
for two edits to overlap: patterns beside each other lie apart, and what is below a rest element is
behind the edit.
-/
namespace ScriptLint

/-- Parts lie inside the whole, and patterns beside each other lie apart. -/
structure Tree.PatternsNested (t : Tree) : Prop where
  wellFormed : t.WellFormed
  inside : ∀ a ∈ t.walk, ∀ b ∈ t.preorder a, ∀ s ∈ t.span? a, ∀ s' ∈ t.span? b,
    s.contains s' = true
  apart : ∀ a ∈ t.walk, ∀ b ∈ t.walk, t.tag a = .objectPattern → t.tag b = .objectPattern →
    b ∉ t.preorder a → a ∉ t.preorder b →
    ∀ s ∈ t.span? a, ∀ s' ∈ t.span? b, s.stop ≤ s'.start ∨ s'.stop ≤ s.start

instance (t : Tree) : Decidable t.PatternsNested :=
  decidable_of_iff
    (t.WellFormed ∧
      (∀ a ∈ t.walk, ∀ b ∈ t.preorder a, ∀ s ∈ t.span? a, ∀ s' ∈ t.span? b,
        s.contains s' = true) ∧
      ∀ a ∈ t.walk, ∀ b ∈ t.walk, t.tag a = .objectPattern → t.tag b = .objectPattern →
        b ∉ t.preorder a → a ∉ t.preorder b →
        ∀ s ∈ t.span? a, ∀ s' ∈ t.span? b, s.stop ≤ s'.start ∨ s'.stop ≤ s.start)
    ⟨fun h => ⟨h.1, h.2.1, h.2.2⟩, fun h => ⟨h.wellFormed, h.inside, h.apart⟩⟩

/-- The entries of each pattern are separate. A brace comes after them, and rest elements start with
dots. -/
structure SourceFile.PatternsDelimited (f : SourceFile) : Prop where
  tokens : f.TokensOrdered
  entries : ∀ a ∈ f.tree.walk, f.tree.tag a = .objectPattern → Separate (f.tree.childSpans a)
  closed : ∀ a ∈ f.tree.walk, f.tree.tag a = .objectPattern → ∀ s ∈ f.tree.span? a,
    ∃ t ∈ f.tokens.toList, f.isPunctuator ['\x7d'] t = true ∧ t.span.stop ≤ s.stop ∧
      ∀ s' ∈ f.tree.childSpans a, s'.stop ≤ t.span.start
  dotted : ∀ a ∈ f.tree.walk, f.tree.tag a = .objectPattern → ∀ b ∈ f.tree.children a,
    f.tree.tag b = .restElement → ∃ t ∈ f.tokens.toList,
      f.isPunctuator ['.', '.', '.'] t = true ∧
        (f.tree.span? b).map (·.start) = some t.span.start

instance (f : SourceFile) : Decidable f.PatternsDelimited :=
  decidable_of_iff
    (f.TokensOrdered ∧
      (∀ a ∈ f.tree.walk, f.tree.tag a = .objectPattern → Separate (f.tree.childSpans a)) ∧
      (∀ a ∈ f.tree.walk, f.tree.tag a = .objectPattern → ∀ s ∈ f.tree.span? a,
        ∃ t ∈ f.tokens.toList, f.isPunctuator ['\x7d'] t = true ∧ t.span.stop ≤ s.stop ∧
          ∀ s' ∈ f.tree.childSpans a, s'.stop ≤ t.span.start) ∧
      ∀ a ∈ f.tree.walk, f.tree.tag a = .objectPattern → ∀ b ∈ f.tree.children a,
        f.tree.tag b = .restElement → ∃ t ∈ f.tokens.toList,
          f.isPunctuator ['.', '.', '.'] t = true ∧
            (f.tree.span? b).map (·.start) = some t.span.start)
    ⟨fun h => ⟨h.1, h.2.1, h.2.2.1, h.2.2.2⟩, fun h => ⟨h.tokens, h.entries, h.closed, h.dotted⟩⟩

namespace Destructuring

/-- The second pattern is below an entry that the edit of the first one moves. -/
def Carries (t : Tree) (p q : NodeId) : Prop :=
  ∃ entry ∈ movingEntries t (t.children p), q ∈ t.preorder entry

instance (t : Tree) (p q : NodeId) : Decidable (Carries t p q) :=
  inferInstanceAs (Decidable (∃ entry ∈ _, _))

theorem movingEntries_append (t : Tree) (entries : List NodeId) :
    ∃ rests, entries = movingEntries t entries ++ rests ∧ ∀ r ∈ rests, t.tag r = .restElement := by
  have split := List.takeWhile_append_dropWhile
    (p := fun entry => decide (t.tag entry = .restElement)) (l := entries.reverse)
  refine ⟨(entries.reverse.takeWhile fun entry => t.tag entry = .restElement).reverse, ?_, ?_⟩
  · unfold movingEntries
    rw [← List.reverse_append, split, List.reverse_reverse]
  · intro r member
    have kept := List.all_eq_true.mp List.all_takeWhile r (List.mem_reverse.mp member)
    exact of_decide_eq_true kept

variable {c : Collation} {f : SourceFile} {p q : NodeId} {s s' : Span} {e e' : Edit}

structure OffersAt (c : Collation) (f : SourceFile) (p : NodeId) (s : Span) (e : Edit) : Prop where
  visited : p ∈ f.tree.walk
  pattern : f.tree.tag p = .objectPattern
  place : f.tree.span? p = some s
  made : edit c f (f.tree.children p) = .ok (some e)

structure Covers (f : SourceFile) (p : NodeId) (s : Span) (e : Edit) : Prop where
  start : s.start ≤ e.span.start
  filled : e.span.start < e.span.stop
  stop : e.span.stop ≤ s.stop
  moving : ∀ entry ∈ movingEntries f.tree (f.tree.children p),
    ∃ s' ∈ f.tree.span? entry, e.span.contains s' = true
  resting : ∀ entry ∈ f.tree.children p, entry ∉ movingEntries f.tree (f.tree.children p) →
    ∃ s' ∈ f.tree.span? entry, e.span.stop ≤ s'.start

section Places

variable (nested : f.tree.PatternsNested) (delimited : f.PatternsDelimited)
include nested

theorem child_inside (visited : p ∈ f.tree.walk)
    (place : f.tree.span? p = some s) (child : q ∈ f.tree.children p)
    (place' : f.tree.span? q = some s') : s.contains s' = true := by
  have below : q ∈ f.tree.preorder p := by
    rw [Tree.preorder_eq nested.wellFormed]
    apply List.mem_cons_of_mem
    apply List.mem_flatMap.mpr
    refine ⟨q, child, ?_⟩
    rw [Tree.preorder_eq nested.wellFormed]
    exact List.mem_cons_self
  exact nested.inside p visited q below s place s' place'

include delimited

theorem offer_covers (offer : OffersAt c f p s e) :
    Covers f p s e := by
  obtain ⟨visited, pattern, place, made⟩ := offer
  unfold edit at made
  split at made
  · cases made
  · rename_i keys placed
    obtain ⟨first, last, head, final, start, stop, bound⟩ :=
      SourceFile.carryingEdit_bounds delimited.tokens made
    obtain ⟨rests, split, resting⟩ := movingEntries_append f.tree (f.tree.children p)
    have spans := spans_of_mapM (fun entry => entry) placed fun _ _ => sortKey_span
    rw [List.map_id'] at spans
    have parts : f.tree.childSpans p = keys.map (·.span) ++ rests.filterMap f.tree.span? := by
      unfold Tree.childSpans
      nth_rewrite 1 [split]
      rw [List.filterMap_append, spans]
    have separate := delimited.entries p visited pattern
    rw [parts] at separate
    obtain ⟨-, -, behind⟩ := List.pairwise_append.mp separate.apart
    have keysApart := separate.sublist (List.sublist_append_left _ _)
    have head' : (keys.map (·.span)).head? = some first.span := by simp [head]
    have final' : (keys.map (·.span)).getLast? = some last.span := by simp [final]
    have firstListed := List.mem_of_head? head'
    have lastListed := List.mem_of_getLast? final'
    constructor
    · obtain ⟨b, child, place'⟩ := List.mem_filterMap.mp (spans ▸ firstListed)
      have inside := child_inside nested visited place
        ((movingEntries_sublist _ _).subset child) place'
      simp only [Span.contains, Bool.and_eq_true, decide_eq_true_eq] at inside
      omega
    · have forward := keysApart.first_lt_last head' final'
      omega
    · obtain ⟨t, listed, brace, ends, after⟩ := delimited.closed p visited pattern s place
      have behind : last.span.stop ≤ t.span.start := by
        apply after
        rw [parts]
        exact List.mem_append_left _ lastListed
      have before := bound t listed behind (Or.inl brace)
      have forward := delimited.tokens.forward t.span (List.mem_map_of_mem listed)
      omega
    · intro entry moving
      have listed : sortKey f entry ∈ keys.map Except.ok := by
        rw [← map_eq_of_mapM placed]
        exact List.mem_map_of_mem moving
      obtain ⟨key, member, same⟩ := List.mem_map.mp listed
      have member' : key.span ∈ keys.map (·.span) := List.mem_map_of_mem member
      refine ⟨key.span, sortKey_span same.symm, ?_⟩
      have lower := ordered_first_le keysApart.ordered head' member'
      have upper := ordered_le_last keysApart.ordered final' member'
      simp only [Span.contains, Bool.and_eq_true, decide_eq_true_eq]
      omega
    · intro entry child fixed
      have rest : entry ∈ rests := by
        rw [split] at child
        rcases List.mem_append.mp child with moving | rest
        · exact absurd moving fixed
        · exact rest
      obtain ⟨t, listed, dots, opens⟩ := delimited.dotted p visited pattern entry child
        (resting entry rest)
      obtain ⟨s', place', same⟩ := Option.map_eq_some_iff.mp opens
      refine ⟨s', place', ?_⟩
      rw [same]
      apply bound t listed _ (Or.inr dots)
      rw [← same]
      exact behind last.span lastListed s' (List.mem_filterMap.mpr ⟨entry, rest, place'⟩)

omit delimited in
theorem below_child_inside {entry : NodeId}
    (child : entry ∈ f.tree.children p) (below : q ∈ f.tree.preorder entry) {around : Span}
    (place : f.tree.span? entry = some around) (place' : f.tree.span? q = some s') :
    around.start ≤ s'.start ∧ s'.stop ≤ around.stop := by
  have visited : entry ∈ f.tree.walk := by
    rw [(Tree.walk_perm nested.wellFormed).mem_iff, List.mem_range]
    exact (nested.wellFormed.descends p entry child).trans (Tree.parent_lt child)
  have inside := nested.inside entry visited q below around place s' place'
  simpa [Span.contains] using inside

theorem carried_inside (offer : OffersAt c f p s e)
    (offer' : OffersAt c f q s' e') (carries : Carries f.tree p q) :
    e.span.contains e'.span = true := by
  obtain ⟨entry, moving, below⟩ := carries
  obtain ⟨around, place, outer⟩ := (offer_covers nested delimited offer).moving entry moving
  have inner := below_child_inside nested ((movingEntries_sublist _ _).subset moving) below place
    offer'.place
  have covers := offer_covers nested delimited offer'
  have first := covers.start
  have last := covers.stop
  simp only [Span.contains, Bool.and_eq_true, decide_eq_true_eq] at outer ⊢
  omega

theorem below_behind (offer : OffersAt c f p s e)
    (offer' : OffersAt c f q s' e') (other : p ≠ q) (below : q ∈ f.tree.preorder p)
    (fixed : ¬ Carries f.tree p q) : e.overlaps e' = false := by
  rw [Tree.preorder_eq nested.wellFormed] at below
  rcases List.mem_cons.mp below with same | deeper
  · exact absurd same.symm other
  · obtain ⟨entry, child, below⟩ := List.mem_flatMap.mp deeper
    have covers := offer_covers nested delimited offer
    have resting : entry ∉ movingEntries f.tree (f.tree.children p) :=
      fun moving => fixed ⟨entry, moving, below⟩
    obtain ⟨around, place, behind⟩ := covers.resting entry child resting
    have inner := below_child_inside nested child below place offer'.place
    have first := (offer_covers nested delimited offer').start
    apply Edit.overlaps_behind covers.filled
    omega

theorem beside_apart (offer : OffersAt c f p s e)
    (offer' : OffersAt c f q s' e') (above : q ∉ f.tree.preorder p)
    (below : p ∉ f.tree.preorder q) : e.overlaps e' = false := by
  have covers := offer_covers nested delimited offer
  have covers' := offer_covers nested delimited offer'
  have first := covers.start
  have last := covers.stop
  have first' := covers'.start
  have last' := covers'.stop
  rcases nested.apart p offer.visited q offer'.visited offer.pattern offer'.pattern above below s
    offer.place s' offer'.place with before | after
  · apply Edit.overlaps_behind covers.filled
    omega
  · rw [Edit.overlaps_comm]
    apply Edit.overlaps_behind covers'.filled
    omega

theorem overlaps_iff (offer : OffersAt c f p s e)
    (offer' : OffersAt c f q s' e') (other : p ≠ q) :
    e.overlaps e' = true ↔ Carries f.tree p q ∨ Carries f.tree q p := by
  constructor
  · intro overlap
    by_contra fixed
    obtain ⟨fixed, fixed'⟩ := not_or.mp fixed
    have apart : e.overlaps e' = false := by
      by_cases below : q ∈ f.tree.preorder p
      · exact below_behind nested delimited offer offer' other below fixed
      · by_cases above : p ∈ f.tree.preorder q
        · rw [Edit.overlaps_comm]
          exact below_behind nested delimited offer' offer other.symm above fixed'
        · exact beside_apart nested delimited offer offer' below above
    rw [overlap] at apart
    cases apart
  · rintro (carries | carries)
    · exact Edit.overlaps_inside (offer_covers nested delimited offer').filled
        (carried_inside nested delimited offer offer' carries)
    · rw [Edit.overlaps_comm]
      exact Edit.overlaps_inside (offer_covers nested delimited offer).filled
        (carried_inside nested delimited offer' offer carries)

end Places

/-- The edits of two reports stand at different patterns. They overlap if and only if one of these
patterns carries the other, and then the one edit lies inside the other. -/
def EditsNested (c : Collation) (f : SourceFile) (d d' : Diagnostic) : Prop :=
  ∀ x y, d.suggestion = some x → d'.suggestion = some y → ∃ p q, p ≠ q ∧
    OffersAt c f p d.span x.edit ∧ OffersAt c f q d'.span y.edit ∧
    (x.edit.overlaps y.edit = true ↔ Carries f.tree p q ∨ Carries f.tree q p) ∧
    (Carries f.tree p q → x.edit.span.contains y.edit.span = true) ∧
    (Carries f.tree q p → y.edit.span.contains x.edit.span = true)

theorem editsNested_symm {d d' : Diagnostic} (related : EditsNested c f d d') :
    EditsNested c f d' d := by
  intro y x suggested' suggested
  obtain ⟨p, q, other, offer, offer', iff, outer, inner⟩ := related x y suggested suggested'
  refine ⟨q, p, other.symm, offer', offer, ?_, inner, outer⟩
  rw [Edit.overlaps_comm, iff, or_comm]

section Visits

theorem visit_cases (c : Collation) (f : SourceFile) (p : NodeId) :
    (visit c f p).findings = [] ∨ ∃ entries span pair made, ∃ pairs : List (Text × Text),
      f.tree.kind p = .objectPattern entries ∧ f.tree.span? p = some span ∧
      edit c f entries = .ok made ∧ (visit c f p).findings =
        finding span pair (made.map suggest) :: pairs.map (finding span · none) := by
  unfold visit
  cases kind : f.tree.kind p with
  | objectPattern entries =>
    dsimp only
    cases place : f.tree.place p with
    | error e => exact Or.inl rfl
    | ok span =>
      dsimp only
      cases inversions c (leadingNames f.tree entries) with
      | nil => exact Or.inl rfl
      | cons pair pairs =>
        dsimp only
        cases sorted : edit c f entries with
        | error e => exact Or.inl rfl
        | ok made =>
          exact Or.inr ⟨entries, span, pair, made, pairs, rfl, place_eq_ok.mp place, sorted, rfl⟩
  | _ => exact Or.inl rfl

theorem visit_offers (visited : p ∈ f.tree.walk) {found : Finding}
    (member : found ∈ (visit c f p).findings) {x : Suggestion}
    (suggested : found.suggestion = some x) : OffersAt c f p found.span x.edit := by
  rcases visit_cases c f p with quiet | ⟨entries, span, pair, made, pairs, kind, place, sorted, all⟩
  · rw [quiet] at member
    cases member
  · rw [all] at member
    rcases List.mem_cons.mp member with rfl | later
    · obtain ⟨e, rfl, rfl⟩ := Option.map_eq_some_iff.mp suggested
      constructor
      · exact visited
      · unfold Tree.tag
        rw [kind]
        rfl
      · exact place
      · unfold Tree.children
        rw [kind]
        exact sorted
    · obtain ⟨other, listed, rfl⟩ := List.mem_map.mp later
      cases suggested

theorem visit_offers_once (c : Collation) (f : SourceFile) (p : NodeId) :
    (visit c f p).findings.Pairwise fun _ later => later.suggestion = none := by
  rcases visit_cases c f p with quiet | ⟨entries, span, pair, made, pairs, -, -, -, all⟩
  · rw [quiet]
    exact List.Pairwise.nil
  · rw [all]
    apply List.pairwise_cons.mpr
    constructor
    · intro later member
      obtain ⟨-, -, rfl⟩ := List.mem_map.mp member
      rfl
    · apply List.pairwise_map.mpr
      exact List.pairwise_of_forall fun _ _ => rfl

theorem visit_eq {entries : List NodeId} {span : Span} {pair : Text × Text}
    {pairs : List (Text × Text)} {made : Option Edit}
    (kind : f.tree.kind p = .objectPattern entries) (place : f.tree.span? p = some span)
    (found : inversions c (leadingNames f.tree entries) = pair :: pairs)
    (sorted : edit c f entries = .ok made) :
    visit c f p =
      ⟨finding span pair (made.map suggest) :: pairs.map (finding span · none), .ok ()⟩ := by
  unfold visit
  simp only [kind, place_eq_ok.mpr place, found, sorted]

theorem call_shown (settings : Settings) {span : Span} {pair : Text × Text} {e : Edit}
    (visited : visit c f p = ⟨[finding span pair (some (suggest e))], .ok ()⟩)
    (level : settings.levelOf Lint.orderedDestructuring.name ≠ .allow) :
    ∃ d, Running.call settings f ⟨rule c, ()⟩ p = ([d], .ok ⟨rule c, ()⟩) ∧
      d.lint = .orderedDestructuring ∧ d.span = span ∧ d.suggestion = some (suggest e) := by
  have known : ∀ g ∈ [finding span pair (some (suggest e))], g.IsKnown := by
    intro g member
    rw [List.mem_singleton.mp member]
    rfl
  have visible : ∀ g ∈ [finding span pair (some (suggest e))],
      settings.levelOf g.lint.name ≠ .allow := by
    intro g member
    rw [List.mem_singleton.mp member]
    exact level
  have shown := @diagnoseAll_shown settings f _ known visible
  obtain ⟨d, rest, made, none, all⟩ := List.forall₂_cons_left_iff.mp shown
  obtain rfl := List.forall₂_nil_left_iff.mp none
  have becomes := diagnose_some made
  have called := @Running.call_eq settings f (rule c) () () p _ visited known
  rw [all] at called
  exact ⟨d, called, becomes.lint, becomes.span, becomes.suggestion⟩

end Visits

/-- In a run of any rules over a file with nested patterns, two edits of destructured keys overlap
exactly when the pattern of the one carries the pattern of the other. -/
theorem destructuring_edits_overlap_iff {rules : List Rule} {c : Collation}
    (builtIn : ∀ q ∈ rules, q.IsBuiltIn) (once : (rules.map (·.lint)).Nodup)
    (member : rule c ∈ rules) (settings : Settings) (file : SourceFile)
    (nested : file.tree.PatternsNested) (delimited : file.PatternsDelimited) :
    ((runRules rules settings file).1.filter (·.lint = .orderedDestructuring)).Pairwise
      (EditsNested c file) := by
  obtain ⟨nodes, first, reports⟩ :=
    runRules_share_perm member (fun q listed => (builtIn q listed).reportsOwn) once settings file
  have sub : nodes.Sublist file.tree.walk := first.sublist.trans List.filter_sublist
  have distinct : nodes.Nodup :=
    ((Tree.walk_perm nested.wellFormed).nodup_iff.mpr List.nodup_range).sublist sub
  apply (reports.pairwise_iff fun related => editsNested_symm related).mpr
  apply Running.work_pairwise distinct
  · intro state p visited
    apply (visit_offers_once c file p).imp
    intro f f' later d d' made made' x y suggested suggested'
    rw [(diagnose_some made').suggestion, later] at suggested'
    cases suggested'
  · intro state state' p visited q visited' other f found f' found' d d' made made' x y suggested
      suggested'
    rw [(diagnose_some made).suggestion] at suggested
    rw [(diagnose_some made').suggestion] at suggested'
    have offer := visit_offers (sub.subset visited) found suggested
    have offer' := visit_offers (sub.subset visited') found' suggested'
    rw [← (diagnose_some made).span] at offer
    rw [← (diagnose_some made').span] at offer'
    exact ⟨p, q, other, offer, offer', overlaps_iff nested delimited offer offer' other,
      carried_inside nested delimited offer offer', carried_inside nested delimited offer' offer⟩

def nestedTree : Tree :=
  { nodes := #[⟨.identifier ['b'], some ⟨8, 9⟩⟩, ⟨.identifier ['d'], some ⟨13, 14⟩⟩,
      ⟨.property 1 1 true false, some ⟨13, 14⟩⟩, ⟨.identifier ['c'], some ⟨16, 17⟩⟩,
      ⟨.property 3 3 true false, some ⟨16, 17⟩⟩, ⟨.objectPattern [2, 4], some ⟨11, 19⟩⟩,
      ⟨.property 0 5 false false, some ⟨8, 19⟩⟩, ⟨.identifier ['a'], some ⟨21, 22⟩⟩,
      ⟨.property 7 7 true false, some ⟨21, 22⟩⟩, ⟨.identifier ['r'], some ⟨27, 28⟩⟩,
      ⟨.restElement 9, some ⟨24, 28⟩⟩, ⟨.objectPattern [6, 8, 10], some ⟨6, 30⟩⟩,
      ⟨.identifier ['o'], some ⟨33, 34⟩⟩, ⟨.variableDeclarator 11 (some 12), some ⟨6, 34⟩⟩,
      ⟨.variableDeclaration .constant [13], some ⟨0, 35⟩⟩, ⟨.program [14], some ⟨0, 35⟩⟩]
    root := 15 }

/-- The text `const { b: { d, c }, a, ...r } = o;`, in which both patterns are unsorted. -/
def nestedPatterns : SourceFile :=
  { text := "const \x7b b: \x7b d, c \x7d, a, ...r \x7d = o;".toList
    tree := nestedTree
    tokens := #[⟨.keyword, ⟨0, 5⟩⟩, ⟨.punctuator, ⟨6, 7⟩⟩, ⟨.identifier, ⟨8, 9⟩⟩,
      ⟨.punctuator, ⟨9, 10⟩⟩, ⟨.punctuator, ⟨11, 12⟩⟩, ⟨.identifier, ⟨13, 14⟩⟩,
      ⟨.punctuator, ⟨14, 15⟩⟩, ⟨.identifier, ⟨16, 17⟩⟩, ⟨.punctuator, ⟨18, 19⟩⟩,
      ⟨.punctuator, ⟨19, 20⟩⟩, ⟨.identifier, ⟨21, 22⟩⟩, ⟨.punctuator, ⟨22, 23⟩⟩,
      ⟨.punctuator, ⟨24, 27⟩⟩, ⟨.identifier, ⟨27, 28⟩⟩, ⟨.punctuator, ⟨29, 30⟩⟩,
      ⟨.punctuator, ⟨31, 32⟩⟩, ⟨.identifier, ⟨33, 34⟩⟩, ⟨.punctuator, ⟨34, 35⟩⟩]
    comments := #[]
    scopes := .ofTree nestedTree []
    lineStarts := #[0] }

def outerEdit : Edit := ⟨⟨8, 24⟩, "a, b: \x7b d, c \x7d, ".toList⟩

def innerEdit : Edit := ⟨⟨13, 18⟩, "c, d, ".toList⟩

theorem nestedPatterns_reports : ∃ d d', runRules [rule {}] {} nestedPatterns = ([d, d'], none) ∧
    d.lint = .orderedDestructuring ∧ d.suggestion = some (suggest outerEdit) ∧
    d'.lint = .orderedDestructuring ∧ d'.suggestion = some (suggest innerEdit) := by
  have outer : edit {} nestedPatterns [6, 8, 10] = .ok (some outerEdit) := by cbv
  have inner : edit {} nestedPatterns [2, 4] = .ok (some innerEdit) := by cbv
  have nodes : (rule {}).nodes nestedPatterns = [11, 5] := by decide
  have pair : inversions {} (leadingNames nestedTree [6, 8, 10]) = [(['b'], ['a'])] := by decide
  have pair' : inversions {} (leadingNames nestedTree [2, 4]) = [(['d'], ['c'])] := by decide
  have first : visit {} nestedPatterns 11 =
      ⟨[finding ⟨6, 30⟩ (['b'], ['a']) (some (suggest outerEdit))], .ok ()⟩ :=
    visit_eq rfl rfl pair outer
  have second : visit {} nestedPatterns 5 =
      ⟨[finding ⟨11, 19⟩ (['d'], ['c']) (some (suggest innerEdit))], .ok ()⟩ :=
    visit_eq rfl rfl pair' inner
  obtain ⟨d, called, lint, start, suggestion⟩ := call_shown {} first (by decide)
  obtain ⟨d', called', lint', start', suggestion'⟩ := call_shown {} second (by decide)
  have run : ((rule {}).run nestedPatterns).work {} nestedPatterns [11, 5] = ([d, d'], none) := by
    show Running.work {} nestedPatterns ⟨rule {}, ()⟩ [11, 5] = _
    rw [Running.work_cons, called]
    dsimp only
    rw [Running.work_cons, called']
    rfl
  refine ⟨d, d', ?_, lint, suggestion, lint', suggestion'⟩
  rw [runRules_alone, nodes, run]
  refine Prod.ext (List.mergeSort_of_pairwise ?_) rfl
  simp [start, start']

theorem destructuring_edits_overlap_nestedPatterns :
    nestedTree.PatternsNested ∧ nestedPatterns.PatternsDelimited ∧
      Carries nestedTree 11 5 ∧ ¬ Carries nestedTree 5 11 ∧
      ∃ d d', (runRules [rule {}] {} nestedPatterns).1 = [d, d'] ∧
        d.suggestion = some (suggest outerEdit) ∧ d'.suggestion = some (suggest innerEdit) ∧
        EditsNested {} nestedPatterns d d' := by
  have nested : nestedTree.PatternsNested := by decide
  have delimited : nestedPatterns.PatternsDelimited := by decide
  obtain ⟨d, d', run, lint, suggestion, lint', suggestion'⟩ := nestedPatterns_reports
  have pairwise := destructuring_edits_overlap_iff (Rule.IsBuiltIn.destructuring {}).alone
    (List.nodup_singleton _) (List.mem_singleton.mpr rfl) {} nestedPatterns nested delimited
  rw [run] at pairwise
  simp only [List.filter_cons, lint, lint', decide_true, ↓reduceIte, List.filter_nil] at pairwise
  refine ⟨nested, delimited, by decide, by decide, d, d', by rw [run], suggestion, suggestion', ?_⟩
  exact (List.pairwise_cons.mp pairwise).1 d' (List.mem_singleton.mpr rfl)

/-- Both patterns are sorted by edits of the same walk, and these overlap. -/
theorem nested_patterns_edits_overlap :
    ¬ ((runRules [rule {}] {} nestedPatterns).1.filterMap (·.suggestion)).Pairwise
      fun x y => x.edit.overlaps y.edit = false := by
  intro apart
  obtain ⟨d, d', run, -, suggestion, -, suggestion'⟩ := nestedPatterns_reports
  rw [run] at apart
  simp only [List.filterMap_cons, suggestion, suggestion', List.filterMap_nil] at apart
  have overlap : outerEdit.overlaps innerEdit = false :=
    (List.pairwise_cons.mp apart).1 _ (List.mem_singleton.mpr rfl)
  exact absurd overlap (by decide)

end Destructuring

end ScriptLint
