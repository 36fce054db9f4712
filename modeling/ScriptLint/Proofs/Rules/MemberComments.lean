import Mathlib
import ScriptLint.Proofs.Rules.SafeEdits

/-!
Comments keep import members from being sorted in place.

Each member is asked for comments on both of its sides, up to the next token. Where neighbours have
one token between them, no comment around the members escapes these questions. So the members are
sorted in place only if no comment can be left behind, and otherwise the order is reported alone.
-/
namespace ScriptLint

namespace SourceFile

/-- Tokens and comments are in order, none of them is empty, and no two of them share an offset. -/
structure Untangled (f : SourceFile) : Prop where
  tokens : Separate (f.tokens.toList.map (·.span))
  comments : Separate (f.comments.toList.map (·.span))
  apart : ∀ t ∈ f.tokens.toList, ∀ c ∈ f.comments.toList,
    t.span.stop ≤ c.span.start ∨ c.span.stop ≤ t.span.start

instance (f : SourceFile) : Decidable f.Untangled :=
  decidable_of_iff
    (Separate (f.tokens.toList.map (·.span)) ∧ Separate (f.comments.toList.map (·.span)) ∧
      ∀ t ∈ f.tokens.toList, ∀ c ∈ f.comments.toList,
        t.span.stop ≤ c.span.start ∨ c.span.stop ≤ t.span.start)
    ⟨fun h => ⟨h.1, h.2.1, h.2.2⟩, fun h => ⟨h.tokens, h.comments, h.apart⟩⟩

def tokensBetween (f : SourceFile) (a b : Span) : List Token :=
  f.tokens.toList.filter fun t => a.stop ≤ t.span.start && t.span.stop ≤ b.start

def IsAround (f : SourceFile) (entries : List Span) (c : Span) : Prop :=
  (∃ first ∈ entries.head?, f.previousTokenStop first.start ≤ c.start) ∧
    ∃ last ∈ entries.getLast?, c.stop ≤ f.nextTokenStart last.stop

instance (f : SourceFile) (entries : List Span) (c : Span) : Decidable (f.IsAround entries c) :=
  inferInstanceAs (Decidable (_ ∧ _))

/-- A span is around the entries and shares no offset with any of them. -/
def IsLoose (f : SourceFile) (entries : List Span) (c : Span) : Prop :=
  f.IsAround entries c ∧ ∀ s ∈ entries, c.stop ≤ s.start ∨ s.stop ≤ c.start

instance (f : SourceFile) (entries : List Span) (c : Span) : Decidable (f.IsLoose entries c) :=
  inferInstanceAs (Decidable (_ ∧ _))

variable {f : SourceFile} {a b : Span} {t : Token}

section OneToken

variable (untangled : f.Untangled) (one : f.tokensBetween a b = [t])
include one

theorem between_of_one :
    t ∈ f.tokens.toList ∧ a.stop ≤ t.span.start ∧ t.span.stop ≤ b.start := by
  have member : t ∈ f.tokensBetween a b := by simp [one]
  simpa [tokensBetween] using member

theorem eq_of_one {u : Token} (member : u ∈ f.tokens.toList) (late : a.stop ≤ u.span.start)
    (early : u.span.stop ≤ b.start) : u = t := by
  have kept : u ∈ f.tokensBetween a b := by simp [tokensBetween, member, late, early]
  simpa [one] using kept

include untangled

theorem neighbours_of_one :
    f.nextTokenStart a.stop = t.span.start ∧ f.previousTokenStop b.start = t.span.stop := by
  obtain ⟨member, late, early⟩ := between_of_one one
  have ordered : f.TokensOrdered := untangled.tokens.ordered
  have position : ∀ u ∈ f.tokens.toList,
      u.span = t.span ∨ u.span.stop ≤ t.span.start ∨ t.span.stop ≤ u.span.start := fun u other =>
    ordered_disjoint ordered (List.mem_map_of_mem other) (List.mem_map_of_mem member)
  have filled : ∀ u ∈ f.tokens.toList, u.span.start < u.span.stop := fun u other =>
    untangled.tokens.filled _ (List.mem_map_of_mem other)
  have own := filled t member
  constructor
  · refine nextTokenStart_eq ordered member late fun u other after => ?_
    have width := filled u other
    rcases position u other with same | before | behind
    · rw [same]
    · rw [eq_of_one one other after (by omega)]
    · omega
  · refine Nat.le_antisymm ?_ (le_previousTokenStop ordered member early)
    rcases f.previousTokenStop_cases b.start with none | ⟨u, other, before, same⟩
    · omega
    · have width := filled u other
      rw [same]
      rcases position u other with alike | left | right
      · rw [alike]
      · omega
      · rw [eq_of_one one other (by omega) before]

end OneToken

def Linked (f : SourceFile) (entries : List Span) : Prop :=
  entries.IsChain fun a b => (f.tokensBetween a b).length = 1

/-- A span that is clear of all entries stands before the first one, after the last one, or between
two neighbours. -/
theorem gap_cases {entries : List Span} {first last c : Span} (head : entries.head? = some first)
    (final : entries.getLast? = some last)
    (clear : ∀ s ∈ entries, c.stop ≤ s.start ∨ s.stop ≤ c.start) :
    c.stop ≤ first.start ∨ last.stop ≤ c.start ∨
      ∃ a b, [a, b] <:+: entries ∧ a.stop ≤ c.start ∧ c.stop ≤ b.start := by
  induction entries generalizing first with
  | nil => cases head
  | cons s entries ih =>
    cases head
    rw [List.forall_mem_cons] at clear
    rcases clear.1 with before | behind
    · exact Or.inl before
    · cases entries with
      | nil =>
        cases final
        exact Or.inr (Or.inl behind)
      | cons next entries =>
        rw [List.getLast?_cons_cons] at final
        rcases ih rfl final clear.2 with here | after | ⟨a, b, pair, later⟩
        · have pair : [s, next] <:+: s :: next :: entries := (List.prefix_append _ entries).isInfix
          exact Or.inr (Or.inr ⟨s, next, pair, behind, here⟩)
        · exact Or.inr (Or.inl after)
        · exact Or.inr (Or.inr ⟨a, b, pair.trans (List.suffix_cons ..).isInfix, later⟩)

section Seen

variable {s : Span} {c : Comment} (untangled : f.Untangled)
include untangled

theorem mem_commentsBefore : c ∈ f.commentsBefore s ↔ c ∈ f.comments.toList ∧
    f.previousTokenStop s.start ≤ c.span.start ∧ c.span.stop ≤ s.start := by
  rw [commentsBefore_eq untangled.tokens.ordered untangled.comments.ordered, List.mem_filter,
    Bool.and_eq_true, decide_eq_true_eq, decide_eq_true_eq]

theorem mem_commentsAfter : c ∈ f.commentsAfter s ↔ c ∈ f.comments.toList ∧
    s.stop ≤ c.span.start ∧ c.span.stop ≤ f.nextTokenStart s.stop := by
  rw [commentsAfter_eq untangled.tokens.ordered untangled.comments.ordered, List.mem_filter,
    Bool.and_eq_true, decide_eq_true_eq, decide_eq_true_eq]

theorem comment_of_seen (seen : c ∈ f.commentsBefore s ∨ c ∈ f.commentsAfter s) :
    c ∈ f.comments.toList := by
  rcases seen with before | after
  · exact ((mem_commentsBefore untangled).mp before).1
  · exact ((mem_commentsAfter untangled).mp after).1

end Seen

section Around

variable {entries : List Span} {c : Comment} (untangled : f.Untangled) (linked : f.Linked entries)
  (comment : c ∈ f.comments.toList)
include untangled linked comment

theorem seen_of_loose (loose : f.IsLoose entries c.span) :
    ∃ s ∈ entries, c ∈ f.commentsBefore s ∨ c ∈ f.commentsAfter s := by
  obtain ⟨⟨⟨first, head, lower⟩, ⟨last, final, upper⟩⟩, clear⟩ := loose
  rw [Option.mem_def] at head final
  rcases gap_cases head final clear with early | late | ⟨a, b, pair, late, early⟩
  · refine ⟨first, List.mem_of_mem_head? head, Or.inl ?_⟩
    exact (mem_commentsBefore untangled).mpr ⟨comment, lower, early⟩
  · refine ⟨last, List.mem_of_getLast? final, Or.inr ?_⟩
    exact (mem_commentsAfter untangled).mpr ⟨comment, late, upper⟩
  · have single := List.IsChain.infix linked pair
    rw [List.isChain_pair] at single
    obtain ⟨t, one⟩ := List.length_eq_one_iff.mp single
    obtain ⟨next, previous⟩ := neighbours_of_one untangled one
    rcases untangled.apart t (between_of_one one).1 c comment with behind | ahead
    · refine ⟨b, pair.subset (by simp), Or.inl ((mem_commentsBefore untangled).mpr ?_)⟩
      rw [previous]
      exact ⟨comment, behind, early⟩
    · refine ⟨a, pair.subset (by simp), Or.inr ((mem_commentsAfter untangled).mpr ?_)⟩
      rw [next]
      exact ⟨comment, late, ahead⟩

end Around

theorem linked_pairwise (untangled : f.Untangled) {entries : List Span} (linked : f.Linked entries)
    (forward : ∀ s ∈ entries, s.start ≤ s.stop) :
    entries.Pairwise fun a b =>
      ∃ t ∈ f.tokens.toList, a.stop ≤ t.span.start ∧ t.span.stop ≤ b.start := by
  induction entries with
  | nil => exact .nil
  | cons s entries ih =>
    rw [List.forall_mem_cons] at forward
    have later := ih linked.tail forward.2
    refine List.pairwise_cons.mpr ⟨?_, later⟩
    cases entries with
    | nil => simp
    | cons next entries =>
      obtain ⟨t, one⟩ := List.length_eq_one_iff.mp (List.isChain_cons_cons.mp linked).1
      obtain ⟨token, late, early⟩ := between_of_one one
      intro u member
      rcases List.mem_cons.mp member with rfl | behind
      · exact ⟨t, token, late, early⟩
      · -- The token after `s` is before the neighbour, and so before everything behind it.
        obtain ⟨t', token', late', early'⟩ := (List.pairwise_cons.mp later).1 u behind
        have width := untangled.tokens.filled _ (List.mem_map_of_mem token')
        have inside := forward.2 next (by simp)
        exact ⟨t, token, late, by omega⟩

section Ranges

variable {entries : List Span} {s : Span} {c : Comment} (untangled : f.Untangled)
  (linked : f.Linked entries) (fit : ∀ s ∈ entries, s.start ≤ s.stop ∧ s.stop ≤ f.text.size)
include untangled linked fit

theorem linked_ordered : Ordered entries := by
  have forward : ∀ s ∈ entries, s.start ≤ s.stop := fun s member => (fit s member).1
  refine ⟨forward, (linked_pairwise untangled linked forward).imp ?_⟩
  rintro a b ⟨t, token, late, early⟩
  have width := untangled.tokens.filled _ (List.mem_map_of_mem token)
  omega

theorem token_between {u : Span} (left : u ∈ entries) (right : s ∈ entries) (other : u ≠ s) :
    ∃ t ∈ f.tokens.toList, t.span.start < t.span.stop ∧
      (u.stop ≤ t.span.start ∧ t.span.stop ≤ s.start ∨
        s.stop ≤ t.span.start ∧ t.span.stop ≤ u.start) := by
  have pairs := linked_pairwise untangled linked fun s member => (fit s member).1
  have filled : ∀ t ∈ f.tokens.toList, t.span.start < t.span.stop := fun t token =>
    untangled.tokens.filled _ (List.mem_map_of_mem token)
  rcases pairwise_cases pairs left right with same | ⟨t, token, before⟩ | ⟨t, token, behind⟩
  · exact absurd same other
  · exact ⟨t, token, filled t token, Or.inl before⟩
  · exact ⟨t, token, filled t token, Or.inr behind⟩

theorem clear_of_seen (member : s ∈ entries)
    (seen : c ∈ f.commentsBefore s ∨ c ∈ f.commentsAfter s) {u : Span} (entry : u ∈ entries) :
    c.span.stop ≤ u.start ∨ u.stop ≤ c.span.start := by
  have tokens : f.TokensOrdered := untangled.tokens.ordered
  have own := (fit s member).1
  rw [mem_commentsBefore untangled, mem_commentsAfter untangled] at seen
  by_cases same : u = s
  · subst same
    omega
  · -- The token between the two entries is also between the comment and the other entry.
    obtain ⟨t, token, width, ⟨late, early⟩ | ⟨late, early⟩⟩ :=
      token_between untangled linked fit entry member same
    · have := le_previousTokenStop tokens token early
      omega
    · have := nextTokenStart_le tokens token late
      omega

theorem loose_of_seen (member : s ∈ entries)
    (seen : c ∈ f.commentsBefore s ∨ c ∈ f.commentsAfter s) : f.IsLoose entries c.span := by
  have tokens : f.TokensOrdered := untangled.tokens.ordered
  have ordered := linked_ordered untangled linked fit
  have nonempty := List.ne_nil_of_mem member
  have head := List.head?_eq_some_head nonempty
  have final := List.getLast?_eq_some_getLast nonempty
  have lower := ordered_first_le ordered head member
  have upper := ordered_le_last ordered final member
  have own := (fit s member).1
  obtain ⟨forward, inside⟩ := fit _ (List.mem_of_getLast? final)
  have reach := le_nextTokenStart inside
  refine ⟨⟨⟨_, head, ?_⟩, ⟨_, final, ?_⟩⟩, fun u entry =>
    clear_of_seen untangled linked fit member seen entry⟩
  · rcases seen with before | after
    · obtain ⟨-, low, -⟩ := (mem_commentsBefore untangled).mp before
      exact Nat.le_trans (previousTokenStop_mono tokens lower) low
    · obtain ⟨-, low, -⟩ := (mem_commentsAfter untangled).mp after
      have := f.previousTokenStop_le (entries.head nonempty).start
      omega
  · rcases seen with before | after
    · obtain ⟨-, -, high⟩ := (mem_commentsBefore untangled).mp before
      omega
    · obtain ⟨-, -, high⟩ := (mem_commentsAfter untangled).mp after
      by_cases same : entries.getLast nonempty = s
      · rw [same]
        exact high
      · obtain ⟨t, token, width, ⟨late, early⟩ | ⟨late, early⟩⟩ :=
          token_between untangled linked fit (List.mem_of_getLast? final) member same
        · omega
        · have := nextTokenStart_le tokens token late
          omega

end Ranges

end SourceFile

namespace ImportMembers

def places (t : Tree) (ms : List Member) : List Span := (ms.map (·.node)).filterMap t.span?

def Linked (f : SourceFile) (ms : List Member) : Prop :=
  ms.IsChain fun a b => ∃ s ∈ f.tree.span? a.node, ∃ u ∈ f.tree.span? b.node,
    (f.tokensBetween s u).length = 1

instance (f : SourceFile) (ms : List Member) : Decidable (Linked f ms) :=
  inferInstanceAs (Decidable (List.IsChain _ _))

def HaveLoose (f : SourceFile) (ms : List Member) : Prop :=
  ∃ c ∈ f.comments.toList, f.IsLoose (places f.tree ms) c.span

instance (f : SourceFile) (ms : List Member) : Decidable (HaveLoose f ms) :=
  inferInstanceAs (Decidable (∃ c ∈ _, _))

variable {o : ImportMembersOptions} {f : SourceFile} {ms : List Member} {a b : Member}

theorem lastInversion?_some {c : Collation} (found : lastInversion? c ms = some (a, b)) :
    [a, b] <:+: ms ∧ c.isAfter a.name b.name = true := by
  induction ms with
  | nil => cases found
  | cons m ms ih =>
    cases ms with
    | nil => cases found
    | cons next ms =>
      rw [lastInversion?] at found
      split at found
      · rename_i later
        rw [Option.some.inj found] at later
        obtain ⟨pair, inverted⟩ := ih later
        exact ⟨pair.trans (List.suffix_cons ..).isInfix, inverted⟩
      · rename_i none
        rw [Option.ite_none_right_eq_some] at found
        obtain ⟨inverted, same⟩ := found
        cases same
        exact ⟨(List.prefix_append [a, b] ms).isInfix, inverted⟩

theorem lastInversion?_eq_none_iff {c : Collation} :
    lastInversion? c ms = none ↔ ms.IsChain fun a b => c.isAfter a.name b.name = false := by
  induction ms with
  | nil => simp [lastInversion?]
  | cons m ms ih =>
    cases ms with
    | nil => simp [lastInversion?]
    | cons next ms =>
      rw [lastInversion?, List.isChain_cons_cons, ← ih]
      cases lastInversion? c (next :: ms) <;> simp

theorem exists_lastInversion? {c : Collation} (pair : [a, b] <:+: ms)
    (inverted : c.isAfter a.name b.name = true) : ∃ x y, lastInversion? c ms = some (x, y) := by
  cases found : lastInversion? c ms with
  | some last => exact ⟨last.1, last.2, rfl⟩
  | none =>
    have sorted := List.IsChain.infix (lastInversion?_eq_none_iff.mp found) pair
    rw [List.isChain_pair, inverted] at sorted
    cases sorted

theorem placed_of_linked {rest : List Member} (linked : Linked f (a :: b :: rest)) :
    ∀ m ∈ a :: b :: rest, ∃ s, f.tree.span? m.node = some s := by
  induction rest generalizing a b with
  | nil =>
    obtain ⟨⟨s, here, u, there, -⟩, -⟩ := List.isChain_cons_cons.mp linked
    simp [Option.mem_def.mp here, Option.mem_def.mp there]
  | cons c rest ih =>
    obtain ⟨⟨s, here, -⟩, later⟩ := List.isChain_cons_cons.mp linked
    exact List.forall_mem_cons.mpr ⟨⟨s, here⟩, ih later⟩

theorem keys_of_linked (linked : Linked f ms) (pair : [a, b] <:+: ms) :
    ∃ keys, ms.mapM (sortKey f.tree) = .ok keys ∧ keys.map (·.span) = places f.tree ms ∧
      f.Linked (places f.tree ms) ∧ ∀ m ∈ ms, ∃ s, f.tree.span? m.node = some s := by
  have placed : ∀ m ∈ ms, ∃ s, f.tree.span? m.node = some s := by
    match ms, linked, pair.length_le with
    | _ :: _ :: _, linked, _ => exact placed_of_linked linked
  let place (m : Member) : Span := (f.tree.span? m.node).getD default
  have found : ∀ m ∈ ms, f.tree.span? m.node = some (place m) := by
    intro m member
    obtain ⟨s, here⟩ := placed m member
    simp [place, here]
  have keyed : ms.mapM (sortKey f.tree) = .ok (ms.map fun m => ⟨place m, m.name⟩) := by
    apply mapM_eq_ok
    intro m member
    simp [sortKey, place_eq_ok.mpr (found m member)]
  have same : places f.tree ms = ms.map place := by
    rw [places, List.filterMap_map]
    exact List.filterMap_eq_map_iff_forall_eq_some.mpr found
  refine ⟨_, keyed, by simp [same], ?_, placed⟩
  rw [same, SourceFile.Linked, List.isChain_map]
  refine linked.imp ?_
  rintro x y ⟨s, here, u, there, one⟩
  simpa [place, Option.mem_def.mp here, Option.mem_def.mp there] using one

theorem edit_off (off : o.sortWithComments = false) (keys : List SortKey) :
    edit o f keys =
      .ok (if haveComments f keys then none else f.inPlaceEdit? o.collation keys) := by
  cases noted : haveComments f keys <;> simp [edit, noted, off]

theorem haveComments_iff {keys : List SortKey} : haveComments f keys = true ↔
    ∃ s ∈ keys.map (·.span), ∃ c, c ∈ f.commentsBefore s ∨ c ∈ f.commentsAfter s := by
  simp only [haveComments, List.any_eq_true, Bool.or_eq_true, Bool.not_eq_true',
    List.isEmpty_eq_false_iff_exists_mem, List.mem_map, exists_exists_and_eq_and, exists_or]

section Questions

variable {keys : List SortKey} (untangled : f.Untangled)
  (same : keys.map (·.span) = places f.tree ms) (linked : f.Linked (places f.tree ms))
include untangled same linked

theorem haveComments_of_loose (loose : HaveLoose f ms) : haveComments f keys = true := by
  obtain ⟨c, comment, loose⟩ := loose
  obtain ⟨s, entry, seen⟩ := SourceFile.seen_of_loose untangled linked comment loose
  exact haveComments_iff.mpr ⟨s, same ▸ entry, c, seen⟩

theorem loose_of_haveComments
    (fit : ∀ s ∈ places f.tree ms, s.start ≤ s.stop ∧ s.stop ≤ f.text.size)
    (noted : haveComments f keys = true) : HaveLoose f ms := by
  obtain ⟨s, entry, c, seen⟩ := haveComments_iff.mp noted
  exact ⟨c, SourceFile.comment_of_seen untangled seen,
    SourceFile.loose_of_seen untangled linked fit (same ▸ entry) seen⟩

end Questions

theorem inPlaceEdit?_isSome {c : Collation} {keys : List SortKey} (nonempty : keys ≠ []) :
    (f.inPlaceEdit? c keys).isSome = true := by
  rw [SourceFile.inPlaceEdit?, List.head?_eq_some_head nonempty,
    List.getLast?_eq_some_getLast nonempty]
  rfl

section Visit

variable {id : NodeId} {specifiers : List NodeId} {path : Text} {kind : ImportKind}
  (shape : f.tree.kind id = .importDeclaration specifiers path kind)
include shape

theorem visit_sorted (sorted : lastInversion? o.collation (members f.tree specifiers) = none) :
    visit o f id = .quiet () := by
  simp [visit, shape, sorted]

theorem visit_inverted {keys : List SortKey} {made : Option Edit} {s : Span}
    (inverted : lastInversion? o.collation (members f.tree specifiers) = some (a, b))
    (keyed : (members f.tree specifiers).mapM (sortKey f.tree) = .ok keys)
    (edited : edit o f keys = .ok made) (placed : f.tree.span? b.node = some s) :
    visit o f id = ⟨[⟨.orderedImportMembers, s, "sortMembersAlphabetically",
      [("specifierA", b.name), ("specifierB", a.name)], made.map suggest⟩], .ok ()⟩ := by
  simp [visit, shape, inverted, report, keyed, edited, place_eq_ok.mpr placed]

theorem visit_reports (off : o.sortWithComments = false)
    (linked : Linked f (members f.tree specifiers))
    (last : lastInversion? o.collation (members f.tree specifiers) = some (a, b)) :
    ∃ s keys, f.tree.span? b.node = some s ∧ keys ≠ [] ∧
      keys.map (·.span) = places f.tree (members f.tree specifiers) ∧
      f.Linked (places f.tree (members f.tree specifiers)) ∧
      visit o f id = ⟨[⟨.orderedImportMembers, s, "sortMembersAlphabetically",
        [("specifierA", b.name), ("specifierB", a.name)],
        (if haveComments f keys then none else f.inPlaceEdit? o.collation keys).map suggest⟩],
        .ok ()⟩ := by
  have pair := (lastInversion?_some last).1
  have member : b ∈ members f.tree specifiers := pair.subset (by simp)
  obtain ⟨keys, keyed, same, chain, placed⟩ := keys_of_linked linked pair
  obtain ⟨s, here⟩ := placed b member
  have nonempty : keys ≠ [] := by
    rintro rfl
    have none := map_eq_of_mapM keyed
    rw [List.map_nil, List.map_eq_nil_iff] at none
    rw [none] at member
    cases member
  exact ⟨s, keys, here, nonempty, same, chain,
    visit_inverted shape last keyed (edit_off off keys) here⟩

end Visit

/-- Without the option, members with a loose comment around them are reported when they are not
sorted, and not edited. Members in the text without a loose comment are sorted in place. -/
theorem member_edit_spares_comments {id : NodeId} {specifiers : List NodeId} {path : Text}
    {kind : ImportKind} (off : o.sortWithComments = false) (untangled : f.Untangled)
    (shape : f.tree.kind id = .importDeclaration specifiers path kind)
    (linked : Linked f (members f.tree specifiers)) :
    (∀ found ∈ (visit o f id).findings, found.suggestion.isSome = true →
      ¬ HaveLoose f (members f.tree specifiers)) ∧
    ∀ x y, [x, y] <:+: members f.tree specifiers → o.collation.isAfter x.name y.name = true →
      ∃ a b s suggestion,
        lastInversion? o.collation (members f.tree specifiers) = some (a, b) ∧
        f.tree.span? b.node = some s ∧
        visit o f id = ⟨[⟨.orderedImportMembers, s, "sortMembersAlphabetically",
          [("specifierA", b.name), ("specifierB", a.name)], suggestion⟩], .ok ()⟩ ∧
        (HaveLoose f (members f.tree specifiers) → suggestion = none) ∧
        ((∀ u ∈ places f.tree (members f.tree specifiers),
            u.start ≤ u.stop ∧ u.stop ≤ f.text.size) →
          ¬ HaveLoose f (members f.tree specifiers) → suggestion.isSome = true) := by
  constructor
  · intro found member suggested loose
    cases last : lastInversion? o.collation (members f.tree specifiers) with
    | none =>
      rw [visit_sorted shape last] at member
      cases member
    | some pair =>
      obtain ⟨s, keys, -, -, same, chain, visited⟩ := visit_reports shape off linked last
      have noted := haveComments_of_loose untangled same chain loose
      rw [visited, List.mem_singleton] at member
      simp [member, noted] at suggested
  · intro x y pair inverted
    obtain ⟨a, b, last⟩ := exists_lastInversion? pair inverted
    obtain ⟨s, keys, here, nonempty, same, chain, visited⟩ := visit_reports shape off linked last
    refine ⟨a, b, s, _, last, here, visited, ?_, ?_⟩
    · intro loose
      simp [haveComments_of_loose untangled same chain loose]
    · intro fit free
      have quiet : ¬ haveComments f keys = true := fun noted =>
        free (loose_of_haveComments untangled same chain fit noted)
      rw [if_neg quiet, Option.isSome_map]
      exact inPlaceEdit?_isSome nonempty

/-- Three members, the first two in the wrong order, with a comment in front of the second one. -/
def commentedMembers : SourceFile :=
  .ofParts "import \x7b b, /*x*/ a, c \x7d from 'x';".toList
    { nodes := #[⟨.identifier ['b'], some ⟨9, 10⟩⟩, ⟨.importSpecifier 0 0, some ⟨9, 10⟩⟩,
        ⟨.identifier ['a'], some ⟨18, 19⟩⟩, ⟨.importSpecifier 2 2, some ⟨18, 19⟩⟩,
        ⟨.identifier ['c'], some ⟨21, 22⟩⟩, ⟨.importSpecifier 4 4, some ⟨21, 22⟩⟩,
        ⟨.importDeclaration [1, 3, 5] ['x'] .value, some ⟨0, 34⟩⟩, ⟨.program [6], some ⟨0, 34⟩⟩]
      root := 7 }
    [⟨.keyword, ⟨0, 6⟩⟩, ⟨.punctuator, ⟨7, 8⟩⟩, ⟨.identifier, ⟨9, 10⟩⟩, ⟨.punctuator, ⟨10, 11⟩⟩,
      ⟨.identifier, ⟨18, 19⟩⟩, ⟨.punctuator, ⟨19, 20⟩⟩, ⟨.identifier, ⟨21, 22⟩⟩,
      ⟨.punctuator, ⟨23, 24⟩⟩, ⟨.keyword, ⟨25, 29⟩⟩, ⟨.string, ⟨30, 33⟩⟩, ⟨.punctuator, ⟨33, 34⟩⟩]
    [⟨.block, ⟨12, 17⟩⟩] []

theorem member_edit_spares_comments_three :
    let ms : List Member := [⟨1, ['b']⟩, ⟨3, ['a']⟩, ⟨5, ['c']⟩]
    commentedMembers.Untangled ∧ Linked commentedMembers ms ∧ HaveLoose commentedMembers ms ∧
      visit {} commentedMembers 6 = ⟨[⟨.orderedImportMembers, ⟨18, 19⟩, "sortMembersAlphabetically",
        [("specifierA", ['a']), ("specifierB", ['b'])], none⟩], .ok ()⟩ := by
  intro ms
  have untangled : commentedMembers.Untangled := of_decide_eq_true (by cbv)
  have linked : Linked commentedMembers ms := of_decide_eq_true (by cbv)
  have loose : HaveLoose commentedMembers ms := of_decide_eq_true (by cbv)
  have listed : members commentedMembers.tree [1, 3, 5] = ms := by cbv
  have off : ({} : ImportMembersOptions).sortWithComments = false := rfl
  have shape : commentedMembers.tree.kind 6 = .importDeclaration [1, 3, 5] ['x'] .value := by cbv
  have pair : [⟨1, ['b']⟩, ⟨3, ['a']⟩] <:+: ms := ⟨[], [⟨5, ['c']⟩], rfl⟩
  obtain ⟨-, reported⟩ := member_edit_spares_comments off untangled shape (listed ▸ linked)
  rw [listed] at reported
  obtain ⟨a, b, s, suggestion, last, here, visited, silent, -⟩ :=
    reported _ _ pair (by decide)
  have inversion : lastInversion? {} ms = some (⟨1, ['b']⟩, ⟨3, ['a']⟩) := by decide
  have place : commentedMembers.tree.span? 3 = some ⟨18, 19⟩ := by cbv
  cases inversion.symm.trans last
  cases place.symm.trans here
  rw [visited, silent loose]
  exact ⟨untangled, linked, loose, rfl⟩

/-- Two members in the wrong order, with a comment that starts inside the first one and ends behind
it. -/
def crossedMembers : SourceFile :=
  .ofParts "import \x7b b/**/, a \x7d from 'x';".toList
    { nodes := #[⟨.identifier ['b'], some ⟨9, 10⟩⟩, ⟨.importSpecifier 0 0, some ⟨9, 12⟩⟩,
        ⟨.identifier ['a'], some ⟨16, 17⟩⟩, ⟨.importSpecifier 2 2, some ⟨16, 17⟩⟩,
        ⟨.importDeclaration [1, 3] ['x'] .value, some ⟨0, 29⟩⟩, ⟨.program [4], some ⟨0, 29⟩⟩]
      root := 5 }
    [⟨.keyword, ⟨0, 6⟩⟩, ⟨.punctuator, ⟨7, 8⟩⟩, ⟨.identifier, ⟨9, 10⟩⟩, ⟨.punctuator, ⟨14, 15⟩⟩,
      ⟨.identifier, ⟨16, 17⟩⟩, ⟨.punctuator, ⟨18, 19⟩⟩, ⟨.keyword, ⟨20, 24⟩⟩, ⟨.string, ⟨25, 28⟩⟩,
      ⟨.punctuator, ⟨28, 29⟩⟩]
    [⟨.block, ⟨10, 14⟩⟩] []

/-- A comment that is inside no member may still share offsets with one. Then nothing holds back the
edit, which tears the comment apart. -/
theorem crossed_comment_torn :
    let ms : List Member := [⟨1, ['b']⟩, ⟨3, ['a']⟩]
    crossedMembers.Untangled ∧ members crossedMembers.tree [1, 3] = ms ∧ Linked crossedMembers ms ∧
      (∃ c ∈ crossedMembers.comments.toList,
        crossedMembers.IsAround (places crossedMembers.tree ms) c.span ∧
          ∀ s ∈ places crossedMembers.tree ms, s.contains c.span = false) ∧
      visit {} crossedMembers 4 = ⟨[⟨.orderedImportMembers, ⟨16, 17⟩, "sortMembersAlphabetically",
        [("specifierA", ['a']), ("specifierB", ['b'])],
        some (suggest ⟨⟨9, 17⟩, "a*/, b/*".toList⟩)⟩], .ok ()⟩ := by
  intro ms
  have listed : members crossedMembers.tree [1, 3] = ms := by cbv
  have entries : places crossedMembers.tree ms = [⟨9, 12⟩, ⟨16, 17⟩] := by cbv
  have comments : crossedMembers.comments.toList = [⟨.block, ⟨10, 14⟩⟩] := by cbv
  have around : crossedMembers.IsAround [⟨9, 12⟩, ⟨16, 17⟩] ⟨10, 14⟩ := of_decide_eq_true (by cbv)
  have shape : crossedMembers.tree.kind 4 = .importDeclaration [1, 3] ['x'] .value := by cbv
  have inversion : lastInversion? {} (members crossedMembers.tree [1, 3]) =
      some (⟨1, ['b']⟩, ⟨3, ['a']⟩) := by
    rw [listed]
    decide
  have keyed : (members crossedMembers.tree [1, 3]).mapM (sortKey crossedMembers.tree) =
      .ok [⟨⟨9, 12⟩, ['b']⟩, ⟨⟨16, 17⟩, ['a']⟩] := by cbv
  have edited : edit {} crossedMembers [⟨⟨9, 12⟩, ['b']⟩, ⟨⟨16, 17⟩, ['a']⟩] =
      .ok (some ⟨⟨9, 17⟩, "a*/, b/*".toList⟩) := by cbv
  have place : crossedMembers.tree.span? 3 = some ⟨16, 17⟩ := by cbv
  refine ⟨of_decide_eq_true (by cbv), listed, of_decide_eq_true (by cbv), ?_, ?_⟩
  · rw [entries, comments]
    exact ⟨_, List.mem_singleton_self _, around, by decide⟩
  · exact visit_inverted shape inversion keyed edited place

end ImportMembers

end ScriptLint
