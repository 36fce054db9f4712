import Mathlib
import ScriptLint.Proofs.Syntax.Places

/-!
The tokens and comments of a concrete tree are in order.

Children stand one after another inside their parent, so what is collected from the leaves comes out
in order and apart. A comment is met on one of two ways, among the tokens or below a string, a
template or a regular expression. On the first one it keeps clear of every token, and on the second
one it lies in the token that the outermost such node is.
-/
namespace ScriptLint

/-- Spans in order inside another one, none of them empty. -/
structure Spread (outer : Span) (spans : List Span) : Prop where
  inside : ∀ s ∈ spans, outer.contains s = true
  separate : Separate spans

theorem Spread.nil (outer : Span) : Spread outer [] := ⟨by simp, by simp, .nil⟩

theorem Spread.alone {s : Span} (filled : s.isEmpty = false) : Spread s [s] := by
  simp only [Span.isEmpty, decide_eq_false_iff_not, Nat.not_le] at filled
  exact ⟨by simp [contains_self], by simpa using filled, List.pairwise_singleton _ _⟩

theorem Spread.flatMap {outer : Span} {ns : List Concrete} {pick : Concrete → List Span}
    (inside : ∀ n ∈ ns, outer.contains n.span = true)
    (apart : ns.Pairwise fun a b => a.span.stop ≤ b.span.start)
    (each : ∀ n ∈ ns, Spread n.span (pick n)) : Spread outer (ns.flatMap pick) := by
  refine ⟨?_, ?_, List.pairwise_flatMap.mpr ⟨fun n member => (each n member).separate.apart, ?_⟩⟩
  · intro s member
    obtain ⟨n, listed, found⟩ := List.mem_flatMap.mp member
    exact contains_trans (inside n listed) ((each n listed).inside s found)
  · intro s member
    obtain ⟨n, listed, found⟩ := List.mem_flatMap.mp member
    exact (each n listed).separate.filled s found
  · refine apart.imp_of_mem ?_
    intro a b first second before x left y right
    have left := (each a first).inside x left
    have right := (each b second).inside y right
    simp only [Span.contains, Bool.and_eq_true, decide_eq_true_eq] at left right
    omega

theorem mergeSort_of_ordered {α : Type} {spanOf : α → Span} {xs : List α}
    (ordered : Ordered (xs.map spanOf)) :
    xs.mergeSort (fun a b => (spanOf a).start ≤ (spanOf b).start) = xs := by
  apply List.mergeSort_of_pairwise
  refine (List.pairwise_map.mp (ordered_starts ordered)).imp ?_
  intro a b before
  exact decide_eq_true before

theorem Separate.filter_contains {α : Type} [DecidableEq α] {spanOf : α → Span} {xs : List α}
    (separate : Separate (xs.map spanOf)) {x : α} (member : x ∈ xs) :
    xs.filter (fun y => (spanOf x).contains (spanOf y)) = [x] := by
  have same : ∀ y ∈ xs, (spanOf x).contains (spanOf y) = decide (y = x) := by
    intro y other
    rw [Bool.eq_iff_iff, decide_eq_true_eq]
    refine ⟨fun within => ?_, fun eq => eq ▸ contains_self _⟩
    have filled := separate.filled _ (List.mem_map_of_mem other)
    simp only [Span.contains, Bool.and_eq_true, decide_eq_true_eq] at within
    rcases ordered_disjoint separate.ordered (List.mem_map_of_mem other)
      (List.mem_map_of_mem member) with eq | before | after
    · exact List.inj_on_of_nodup_map separate.nodup other member eq
    · omega
    · omega
  rw [List.filter_congr same, List.filter_eq, List.count_eq_one_of_mem separate.nodup.of_map member]
  rfl

namespace Concrete

inductive Nested : Concrete → Prop where
  | node {info : ConcreteInfo} {children : List Concrete}
    (inside : ∀ c ∈ children, info.span.contains c.span = true)
    (apart : children.Pairwise fun a b => a.span.stop ≤ b.span.start)
    (below : ∀ c ∈ children, Nested c) : Nested (.node info children)

inductive BareComments : Concrete → Prop where
  | node {info : ConcreteInfo} {children : List Concrete}
    (bare : isComment info = true → children = [] ∧ info.span.isEmpty = false)
    (below : ∀ c ∈ children, BareComments c) : BareComments (.node info children)

theorem tokensOf_eq (ns : List Concrete) : tokensOf ns = ns.flatMap tokens :=
  eq_flatMap_of_cons rfl (fun _ _ => by rw [tokensOf]) ns

theorem nestedCommentsOf_eq (text : Text) (ns : List Concrete) :
    nestedCommentsOf text ns = ns.flatMap (nestedComments text) :=
  eq_flatMap_of_cons rfl (fun _ _ => by rw [nestedCommentsOf]) ns

theorem commentsOf_eq (text : Text) (ns : List Concrete) :
    commentsOf text ns = ns.flatMap (comments text) :=
  eq_flatMap_of_cons rfl (fun _ _ => by rw [commentsOf]) ns

theorem tokens_spread {n : Concrete} (nested : n.Nested) :
    Spread n.span (n.tokens.map (·.span)) := by
  induction nested with
  | @node info children inside apart below ih =>
    rw [tokens]
    split
    · exact .nil _
    · split
      · split
        · exact .nil _
        · rename_i filled
          exact @Spread.alone info.span (by simpa using filled)
      · rw [tokensOf_eq, List.map_flatMap]
        exact .flatMap inside apart ih

section Comments

variable {text : Text} {n : Concrete}

theorem nestedComments_spread (nested : n.Nested) (bare : n.BareComments) :
    Spread n.span ((n.nestedComments text).map (·.span)) := by
  induction nested with
  | @node info children inside apart below ih =>
    cases bare with
    | node bare bareBelow =>
      rw [nestedComments]
      split
      · rename_i comment
        exact .alone (bare (by simp [isComment, comment])).2
      · rw [nestedCommentsOf_eq, List.map_flatMap]
        exact .flatMap inside apart fun c child => ih c child (bareBelow c child)

theorem comments_spread (nested : n.Nested) (bare : n.BareComments) :
    Spread n.span ((n.comments text).map (·.span)) := by
  induction nested with
  | @node info children inside apart below ih =>
    cases bare with
    | node bare bareBelow =>
      rw [comments]
      split
      · rename_i comment
        exact .alone (bare comment).2
      · split
        · rw [nestedCommentsOf_eq, List.map_flatMap]
          exact .flatMap inside apart fun c child =>
            nestedComments_spread (below c child) (bareBelow c child)
        · rw [commentsOf_eq, List.map_flatMap]
          exact .flatMap inside apart fun c child => ih c child (bareBelow c child)

end Comments

mutual
def walk (above : List ConcreteInfo) : Concrete → List (List ConcreteInfo × ConcreteInfo)
  | node info children => (above, info) :: walkAll (above ++ [info]) children

def walkAll (above : List ConcreteInfo) : List Concrete → List (List ConcreteInfo × ConcreteInfo)
  | [] => []
  | n :: ns => walk above n ++ walkAll above ns
end

/-- Below an atomic node only the plain kind of comment is listed. -/
def isListed (place : List ConcreteInfo × ConcreteInfo) : Bool :=
  if place.1.any isAtomic then place.2.kind == "comment" else isComment place.2

theorem walkAll_eq (above : List ConcreteInfo) (ns : List Concrete) :
    walkAll above ns = ns.flatMap (walk above) :=
  eq_flatMap_of_cons rfl (fun _ _ => by rw [walkAll]) ns

theorem mem_walk {info : ConcreteInfo} {children : List Concrete} {above path : List ConcreteInfo}
    {m : ConcreteInfo} (member : (path, m) ∈ walk above (node info children)) :
    path = above ∧ m = info ∨ ∃ c ∈ children, (path, m) ∈ walk (above ++ [info]) c := by
  rw [walk, walkAll_eq] at member
  rcases List.mem_cons.mp member with here | below
  · exact Or.inl (Prod.mk.inj here)
  · exact Or.inr (List.mem_flatMap.mp below)

section Listing

variable {text : Text} {n : Concrete} {above : List ConcreteInfo}

theorem nestedComments_eq (bare : n.BareComments) (closed : above.any isAtomic = true) :
    n.nestedComments text =
      ((n.walk above).filter isListed).map fun place => commentAt text place.2.span := by
  induction bare generalizing above with
  | @node info children bare below ih =>
    have own : isListed (above, info) = (info.kind == "comment") := by simp [isListed, closed]
    rw [nestedComments, walk, List.filter_cons, own]
    split
    · rename_i comment
      rw [(bare (by simp [isComment, comment])).1]
      rfl
    · rw [nestedCommentsOf_eq, walkAll_eq, List.filter_flatMap, List.map_flatMap]
      exact List.flatMap_congr fun c child => ih c child (by simp [closed])

theorem comments_eq (bare : n.BareComments) (opened : above.any isAtomic = false) :
    n.comments text =
      ((n.walk above).filter isListed).map fun place => commentAt text place.2.span := by
  induction bare generalizing above with
  | @node info children bare below ih =>
    have own : isListed (above, info) = isComment info := by simp [isListed, opened]
    rw [comments, walk, List.filter_cons, own]
    split
    · rename_i comment
      rw [(bare comment).1]
      rfl
    · rw [walkAll_eq, List.filter_flatMap, List.map_flatMap]
      split
      · rename_i atomic
        rw [nestedCommentsOf_eq]
        exact List.flatMap_congr fun c child => nestedComments_eq (below c child) (by simp [atomic])
      · rename_i plain
        rw [commentsOf_eq]
        exact List.flatMap_congr fun c child => ih c child (by simp [opened, plain])

end Listing

section Places

variable {n : Concrete} {above path : List ConcreteInfo} {m : ConcreteInfo}

theorem walk_above (nested : n.Nested) (member : (path, m) ∈ n.walk above) : above <+: path := by
  induction nested generalizing above with
  | node inside apart below ih =>
    rcases mem_walk member with ⟨rfl, -⟩ | ⟨c, child, found⟩
    · exact List.prefix_rfl
    · exact (List.prefix_append above _).trans (ih c child found)

theorem walk_inside (nested : n.Nested) (member : (path, m) ∈ n.walk above) :
    n.span.contains m.span = true := by
  induction nested generalizing above with
  | node inside apart below ih =>
    rcases mem_walk member with ⟨-, rfl⟩ | ⟨c, child, found⟩
    · exact contains_self _
    · exact contains_trans (inside c child) (ih c child found)

theorem comment_apart (nested : n.Nested) (member : (path, m) ∈ n.walk above)
    (opened : path.any isAtomic = false) (comment : isComment m = true) {t : Token}
    (listed : t ∈ n.tokens) : t.span.stop ≤ m.span.start ∨ m.span.stop ≤ t.span.start := by
  induction nested generalizing above with
  | @node info children inside apart below ih =>
    rw [tokens] at listed
    rcases mem_walk member with ⟨-, rfl⟩ | ⟨c, child, found⟩
    · simp [comment] at listed
    · have plain : isAtomic info = false := by
        have upper := (walk_above (below c child) found).subset
        have every := List.any_eq_false.mp opened info (upper (by simp))
        simpa using every
      have parent : children.isEmpty = false := by
        simpa using List.ne_nil_of_mem child
      split at listed
      · cases listed
      · rw [plain, parent, Bool.or_false, if_neg Bool.false_ne_true, tokensOf_eq] at listed
        obtain ⟨d, second, token⟩ := List.mem_flatMap.mp listed
        rcases pairwise_cases apart child second with same | siblings
        · subst same
          exact ih c child found token
        · have around := walk_inside (below c child) found
          have within := (tokens_spread (below d second)).inside _ (List.mem_map_of_mem token)
          simp only [Span.contains, Bool.and_eq_true, decide_eq_true_eq] at around within
          omega

/-- What is below an atomic node lies inside the outermost one, which is a token if it is not
empty. -/
theorem atomic_token (nested : n.Nested) (bare : n.BareComments)
    (member : (path, m) ∈ n.walk above) (opened : above.any isAtomic = false) {a : ConcreteInfo}
    (outermost : path.find? isAtomic = some a) :
    a.span.contains m.span = true ∧ (a.span.isEmpty = false → ⟨.ofInfo a, a.span⟩ ∈ n.tokens) := by
  induction nested generalizing above with
  | @node info children inside apart below ih =>
    cases bare with
    | node bare bareBelow =>
      rcases mem_walk member with ⟨rfl, -⟩ | ⟨c, child, found⟩
      · have atomic := List.any_of_mem (List.mem_of_find?_eq_some outermost)
          (List.find?_some outermost)
        rw [opened] at atomic
        cases atomic
      · have parent : children ≠ [] := List.ne_nil_of_mem child
        have code : isComment info = false := by
          cases comment : isComment info with
          | false => rfl
          | true => exact absurd (bare comment).1 parent
        rw [tokens, if_neg (by simp [code])]
        cases atomic : isAtomic info with
        | true =>
          -- The nodes further up are not atomic, so this one is the first on the way down.
          have none : above.find? isAtomic = none := by
            simpa using opened
          have here : (above ++ [info]).find? isAtomic = some info := by
            rw [List.find?_append, none, List.find?_cons_of_pos atomic, Option.none_or]
          have first := (walk_above (below c child) found).find?_eq_some here
          rw [outermost] at first
          cases first
          refine ⟨contains_trans (inside c child) (walk_inside (below c child) found), ?_⟩
          intro filled
          simp [filled]
        | false =>
          obtain ⟨within, token⟩ :=
            ih c child (bareBelow c child) found (by simp [opened, atomic])
          refine ⟨within, fun filled => ?_⟩
          rw [Bool.false_or, if_neg (by simpa using parent), tokensOf_eq]
          exact List.mem_flatMap.mpr ⟨c, child, token filled⟩

end Places

theorem walk_filled {n : Concrete} {above path : List ConcreteInfo} {m : ConcreteInfo}
    (bare : n.BareComments) (member : (path, m) ∈ n.walk above) (comment : isComment m = true) :
    m.span.isEmpty = false := by
  induction bare generalizing above with
  | node bare below ih =>
    rcases mem_walk member with ⟨-, rfl⟩ | ⟨c, child, found⟩
    · exact (bare comment).2
    · exact ih c child found

/-- Tokens and comments are collected in order, so that sorting them changes nothing. The comments
are those of the listed nodes. Each of them is listed once: one below no atomic node keeps clear of
the tokens, one below an atomic node lies in the only token of the outermost such node. -/
theorem token_stream_ordered {root : Concrete} (nested : root.Nested) (bare : root.BareComments)
    (text : Text) :
    Separate (root.tokens.map (·.span)) ∧ Separate ((root.comments text).map (·.span)) ∧
    (∀ tree globals,
      let f := SourceFile.ofParts text tree root.tokens (root.comments text) globals
      f.tokens.toList = root.tokens ∧ f.comments.toList = root.comments text) ∧
    root.comments text =
      ((root.walk []).filter isListed).map (fun place => commentAt text place.2.span) ∧
    ∀ path m, (path, m) ∈ root.walk [] →
      (path.find? isAtomic = none → isComment m = true →
        (root.comments text).count (commentAt text m.span) = 1 ∧
        ∀ t ∈ root.tokens, t.span.stop ≤ m.span.start ∨ m.span.stop ≤ t.span.start) ∧
      ∀ a, path.find? isAtomic = some a → m.kind = "comment" →
        (root.comments text).count (commentAt text m.span) = 1 ∧
        root.tokens.filter (fun t => a.span.contains t.span) = [⟨.ofInfo a, a.span⟩] ∧
        a.span.contains m.span = true := by
  have tokens := (tokens_spread nested).separate
  have comments : Separate ((root.comments text).map (·.span)) :=
    (comments_spread nested bare).separate
  have listing : root.comments text =
      ((root.walk []).filter isListed).map (fun place => commentAt text place.2.span) :=
    comments_eq bare rfl
  have once : ∀ path m, (path, m) ∈ root.walk [] → isListed (path, m) = true →
      (root.comments text).count (commentAt text m.span) = 1 := by
    intro path m member listed
    refine List.count_eq_one_of_mem comments.nodup.of_map ?_
    rw [listing]
    exact List.mem_map_of_mem (List.mem_filter.mpr ⟨member, listed⟩)
  refine ⟨tokens, comments, fun tree globals => ⟨?_, ?_⟩, listing, fun path m member => ⟨?_, ?_⟩⟩
  · exact mergeSort_of_ordered tokens.ordered
  · exact mergeSort_of_ordered comments.ordered
  · intro outside comment
    have opened : path.any isAtomic = false := by simpa using outside
    refine ⟨once path m member (by simp [isListed, opened, comment]), fun t listed => ?_⟩
    exact comment_apart nested member opened comment listed
  · intro a outermost comment
    have closed := List.any_of_mem (List.mem_of_find?_eq_some outermost) (List.find?_some outermost)
    obtain ⟨within, token⟩ := atomic_token nested bare member rfl outermost
    have filled := walk_filled bare member (by simp [isComment, comment])
    have outer : a.span.isEmpty = false := by
      simp only [Span.contains, Span.isEmpty, Bool.and_eq_true, decide_eq_true_eq,
        decide_eq_false_iff_not] at within filled ⊢
      omega
    refine ⟨once path m member (by simp [isListed, closed, comment]), ?_, within⟩
    exact Separate.filter_contains tokens (token outer)

/-- A template with a comment in it between two comments, one of them of the other kind. -/
def templateText : Text := "/*x*/`$\x7b/*y*/a\x7d`;<!--z".toList

def templateInfo : ConcreteInfo := ⟨"template_string", ⟨5, 16⟩, true, false, false, false, []⟩

def templateTree : Concrete :=
  let info (kind : String) (start stop : Nat) (isNamed : Bool) : ConcreteInfo :=
    ⟨kind, ⟨start, stop⟩, isNamed, false, false, false, []⟩
  .node (info "program" 0 22 true)
    [.node (info "comment" 0 5 true) [],
      .node (info "expression_statement" 5 17 true)
        [.node templateInfo
          [.node (info "`" 5 6 false) [],
            .node (info "template_substitution" 6 15 true)
              [.node (info "comment" 8 13 true) [], .node (info "identifier" 13 14 true) []],
            .node (info "`" 15 16 false) []],
          .node (info ";" 16 17 false) []],
      .node (info "html_comment" 17 22 true) []]

theorem templateTree_nested : templateTree.Nested := by
  have leaf (info : ConcreteInfo) : (node info []).Nested := .node (by simp) .nil (by simp)
  refine .node (by decide) (by decide) ?_
  simp only [List.forall_mem_cons, List.not_mem_nil, false_implies, implies_true, and_true]
  refine ⟨leaf _, .node (by decide) (by decide) ?_, leaf _⟩
  simp only [List.forall_mem_cons, List.not_mem_nil, false_implies, implies_true, and_true]
  refine ⟨.node (by decide) (by decide) ?_, leaf _⟩
  simp only [List.forall_mem_cons, List.not_mem_nil, false_implies, implies_true, and_true]
  refine ⟨leaf _, .node (by decide) (by decide) ?_, leaf _⟩
  simp [leaf]

theorem templateTree_bare : templateTree.BareComments := by
  have leaf (info : ConcreteInfo) (filled : info.span.isEmpty = false) :
      (node info []).BareComments := .node (by simp [filled]) (by simp)
  refine .node (by decide) ?_
  simp only [List.forall_mem_cons, List.not_mem_nil, false_implies, implies_true, and_true]
  refine ⟨leaf _ rfl, .node (by decide) ?_, leaf _ rfl⟩
  simp only [List.forall_mem_cons, List.not_mem_nil, false_implies, implies_true, and_true]
  refine ⟨.node (by decide) ?_, leaf _ rfl⟩
  simp only [List.forall_mem_cons, List.not_mem_nil, false_implies, implies_true, and_true]
  refine ⟨leaf _ rfl, .node (by decide) ?_, leaf _ rfl⟩
  simp only [List.forall_mem_cons, List.not_mem_nil, false_implies, implies_true, and_true]
  exact ⟨leaf _ rfl, leaf _ rfl⟩

theorem token_stream_ordered_template :
    templateTree.Nested ∧ templateTree.BareComments ∧
      templateTree.tokens = [⟨.template, ⟨5, 16⟩⟩, ⟨.punctuator, ⟨16, 17⟩⟩] ∧
      templateTree.comments templateText =
        [⟨.block, ⟨0, 5⟩⟩, ⟨.block, ⟨8, 13⟩⟩, ⟨.line, ⟨17, 22⟩⟩] ∧
      Separate (templateTree.tokens.map (·.span)) ∧
      Separate ((templateTree.comments templateText).map (·.span)) ∧
      (templateTree.comments templateText).count (commentAt templateText ⟨8, 13⟩) = 1 ∧
      templateTree.tokens.filter (fun t => templateInfo.span.contains t.span) =
        [⟨.template, ⟨5, 16⟩⟩] := by
  obtain ⟨tokens, comments, -, -, places⟩ :=
    token_stream_ordered templateTree_nested templateTree_bare templateText
  obtain ⟨path, m, member, outermost, comment, span⟩ : ∃ path m,
      (path, m) ∈ templateTree.walk [] ∧ path.find? isAtomic = some templateInfo ∧
        m.kind = "comment" ∧ m.span = ⟨8, 13⟩ := by
    exact ⟨_, _, List.mem_of_getElem? (i := 6) rfl, by decide, by decide, by decide⟩
  obtain ⟨once, token, -⟩ := (places path m member).2 _ outermost comment
  rw [span] at once
  exact ⟨templateTree_nested, templateTree_bare, by decide, by decide, tokens, comments, once,
    token⟩

end Concrete

end ScriptLint
