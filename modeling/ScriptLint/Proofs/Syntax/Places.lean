import Mathlib.Data.List.Forall2
import ScriptLint.Proofs.Reordering.Tidy

/-!
Builders that keep nodes in their places.

A concrete tree fits a text when its nodes are ranges of the text, inside their parents and one
after another. A list of nodes is placed when every node is a range of the text and the entries
below a program, an import or an object pattern follow one another. The one exception is the
declaration in the head of a loop, which is no part of the concrete tree.
-/
namespace ScriptLint

structure Span.Fits (s : Span) (text : Text) : Prop where
  forward : s.start ≤ s.stop
  first : text.isBoundary s.start = true
  last : text.isBoundary s.stop = true

instance (s : Span) (text : Text) : Decidable (s.Fits text) :=
  decidable_of_iff
    (s.start ≤ s.stop ∧ text.isBoundary s.start = true ∧ text.isBoundary s.stop = true)
    ⟨fun h => ⟨h.1, h.2.1, h.2.2⟩, fun h => ⟨h.forward, h.first, h.last⟩⟩

theorem contains_trans {a b c : Span} (outer : a.contains b = true) (inner : b.contains c = true) :
    a.contains c = true := by
  simp only [Span.contains, Bool.and_eq_true, decide_eq_true_eq] at *
  omega

theorem contains_self (s : Span) : s.contains s = true := by simp [Span.contains]

structure SpansFit (text : Text) (spans : List Span) : Prop where
  each : ∀ s ∈ spans, s.Fits text
  apart : spans.Pairwise fun a b => a.stop ≤ b.start

theorem SpansFit.ordered {text : Text} {spans : List Span} (fit : SpansFit text spans) :
    Ordered spans :=
  ⟨fun s member => (fit.each s member).forward, fit.apart⟩

theorem SpansFit.sublist {text : Text} {spans kept : List Span} (fit : SpansFit text spans)
    (sub : kept.Sublist spans) : SpansFit text kept :=
  ⟨fun s member => fit.each s (sub.subset member), fit.apart.sublist sub⟩

theorem SpansFit.hull {text : Text} {spans : List Span} {first last : Span}
    (fit : SpansFit text spans) (head : spans.head? = some first)
    (final : spans.getLast? = some last) : Span.Fits ⟨first.start, last.stop⟩ text := by
  have firstMember := List.mem_of_mem_head? head
  have lastMember := List.mem_of_getLast? final
  have reach := ordered_le_last fit.ordered final firstMember
  have firstFits := fit.each first firstMember
  exact ⟨Nat.le_trans firstFits.forward reach, firstFits.first, (fit.each last lastMember).last⟩

namespace Concrete

/-- Every node is a range of the text, and its children follow one another inside it. -/
inductive Fits (text : Text) : Concrete → Prop where
  | node {info : ConcreteInfo} {children : List Concrete} (own : info.span.Fits text)
    (inside : ∀ c ∈ children, info.span.contains c.span = true)
    (apart : children.Pairwise fun a b => a.span.stop ≤ b.span.start)
    (below : ∀ c ∈ children, Fits text c) : Fits text (.node info children)

variable {text : Text} {n : Concrete}

theorem Fits.span (fit : n.Fits text) : n.span.Fits text := by
  cases fit with
  | node own _ _ _ => exact own

theorem Fits.child (fit : n.Fits text) {c : Concrete} (member : c ∈ n.children) : c.Fits text := by
  cases fit with
  | node _ _ _ below => exact below c member

theorem Fits.inside (fit : n.Fits text) {c : Concrete} (member : c ∈ n.children) :
    n.span.contains c.span = true := by
  cases fit with
  | node _ inside _ _ => exact inside c member

theorem Fits.apart (fit : n.Fits text) :
    n.children.Pairwise fun a b => a.span.stop ≤ b.span.start := by
  cases fit with
  | node _ _ apart _ => exact apart

theorem parts_sublist (n : Concrete) : n.parts.Sublist n.children := List.filter_sublist

theorem partsBesides_sublist (name : String) (n : Concrete) :
    (n.partsBesides name).Sublist n.children :=
  List.filter_sublist.trans List.eraseP_sublist

theorem partsOf_sublist (kind : String) (n : Concrete) : (n.partsOf kind).Sublist n.children :=
  List.filter_sublist.trans n.parts_sublist

theorem field?_mem {field : String} {c : Concrete} (found : n.field? field = some c) :
    c ∈ n.children := List.mem_of_find?_eq_some found

theorem Fits.part (fit : n.Fits text) : ∀ c ∈ n.parts, c.Fits text :=
  fun _ member => fit.child (n.parts_sublist.subset member)

theorem Fits.partOf (fit : n.Fits text) (kind : String) : ∀ c ∈ n.partsOf kind, c.Fits text :=
  fun _ member => fit.child ((n.partsOf_sublist kind).subset member)

theorem Fits.field (fit : n.Fits text) {field : String} {c : Concrete}
    (found : n.field? field = some c) : c.Fits text := fit.child (field?_mem found)

/-- Trees that fit the text, one after another inside a span. -/
structure InOrder (text : Text) (outer : Span) (ns : List Concrete) : Prop where
  fits : ∀ n ∈ ns, n.Fits text
  inside : ∀ n ∈ ns, outer.contains n.span = true
  apart : ns.Pairwise fun a b => a.span.stop ≤ b.span.start

theorem Fits.inOrder (fit : n.Fits text) : InOrder text n.span n.children :=
  ⟨fun _ => fit.child, fun _ => fit.inside, fit.apart⟩

theorem Fits.alone (fit : n.Fits text) : InOrder text n.span [n] := by
  refine ⟨fun m member => ?_, fun m member => ?_, List.pairwise_singleton _ _⟩
  · rwa [List.mem_singleton.mp member]
  · rw [List.mem_singleton.mp member]
    exact contains_self _

theorem InOrder.nil (text : Text) (outer : Span) : InOrder text outer [] :=
  ⟨by simp, by simp, .nil⟩

theorem InOrder.sublist {outer : Span} {ns kept : List Concrete} (row : InOrder text outer ns)
    (sub : kept.Sublist ns) : InOrder text outer kept :=
  ⟨fun m member => row.fits m (sub.subset member), fun m member => row.inside m (sub.subset member),
    row.apart.sublist sub⟩

theorem InOrder.flatMap {outer : Span} {ns : List Concrete} {pick : Concrete → List Concrete}
    (row : InOrder text outer ns) (picked : ∀ m ∈ ns, InOrder text m.span (pick m)) :
    InOrder text outer (ns.flatMap pick) := by
  refine ⟨?_, ?_, List.pairwise_flatMap.mpr ⟨fun m member => (picked m member).apart, ?_⟩⟩
  · intro c member
    obtain ⟨m, listed, found⟩ := List.mem_flatMap.mp member
    exact (picked m listed).fits c found
  · intro c member
    obtain ⟨m, listed, found⟩ := List.mem_flatMap.mp member
    exact contains_trans (row.inside m listed) ((picked m listed).inside c found)
  · refine row.apart.imp_of_mem ?_
    intro a b first second before x left y right
    have left := (picked a first).inside x left
    have right := (picked b second).inside y right
    simp only [Span.contains, Bool.and_eq_true, decide_eq_true_eq] at left right
    omega

end Concrete

def spanAt (nodes : Array Node) (id : NodeId) : Option Span := nodes[id]?.bind Node.span

def EntriesAt (text : Text) (nodes : Array Node) (ids : List NodeId) : Prop :=
  ∃ spans, List.Forall₂ (fun id s => spanAt nodes id = some s) ids spans ∧ SpansFit text spans

structure Placed (text : Text) (nodes : Array Node) : Prop where
  fits : ∀ node ∈ nodes, node.kind.tag ≠ .variableDeclaration →
    ∃ s, node.span = some s ∧ s.Fits text
  entries : ∀ node ∈ nodes, node.kind.tag.HoldsEntries → EntriesAt text nodes node.kind.children

def Grows (old new : Array Node) : Prop := ∀ id s, spanAt old id = some s → spanAt new id = some s

theorem grows_push (nodes : Array Node) (node : Node) : Grows nodes (nodes.push node) := by
  intro id s placed
  obtain ⟨found, member, span⟩ := Option.bind_eq_some_iff.mp placed
  have bound : id < nodes.size := (Array.getElem?_eq_some_iff.mp member).1
  rw [spanAt, Array.getElem?_push_lt bound, ← Array.getElem?_eq_getElem bound]
  exact placed

theorem entriesAt_grows {text : Text} {old new : Array Node} {ids : List NodeId}
    (grows : Grows old new) (entries : EntriesAt text old ids) : EntriesAt text new ids := by
  obtain ⟨spans, places, fit⟩ := entries
  exact ⟨spans, places.imp fun id s placed => grows id s placed, fit⟩

theorem placed_empty (text : Text) : Placed text #[] := ⟨by simp, by simp⟩

theorem placed_push {text : Text} {nodes : Array Node} {node : Node} (placed : Placed text nodes)
    (fits : node.kind.tag ≠ .variableDeclaration → ∃ s, node.span = some s ∧ s.Fits text)
    (entries : node.kind.tag.HoldsEntries → EntriesAt text nodes node.kind.children) :
    Placed text (nodes.push node) := by
  have grows := grows_push nodes node
  refine ⟨?_, ?_⟩
  · intro other member tag
    rcases Array.mem_push.mp member with old | rfl
    · exact placed.fits other old tag
    · exact fits tag
  · intro other member holds
    rcases Array.mem_push.mp member with old | rfl
    · exact entriesAt_grows grows (placed.entries other old holds)
    · exact entriesAt_grows grows (entries holds)

/-- The builder keeps placed nodes placed, and its result has the property. -/
def Keeps {α : Type} (text : Text) (m : Builder α) (post : α → Array Node → Prop) : Prop :=
  ∀ nodes, Placed text nodes →
    Placed text (m.run nodes).2 ∧ Grows nodes (m.run nodes).2 ∧
      post (m.run nodes).1 (m.run nodes).2

def Stands (text : Text) (outer : Span) (id : NodeId) (nodes : Array Node) : Prop :=
  ∃ s, spanAt nodes id = some s ∧ s.Fits text ∧ outer.contains s = true

def StandsIfAny (text : Text) (outer : Span) (id : Option NodeId) (nodes : Array Node) : Prop :=
  ∀ x, id = some x → Stands text outer x nodes

abbrev Anywhere {α : Type} : α → Array Node → Prop := fun _ _ => True

section Rules

variable {α β : Type} {text : Text} {post : β → Array Node → Prop}

theorem keeps_pure {a : β} (holds : ∀ nodes, post a nodes) : Keeps text (pure a) post :=
  fun nodes placed => ⟨placed, fun _ _ same => same, holds nodes⟩

theorem keeps_return (a : β) : Keeps text (pure a) Anywhere := keeps_pure fun _ => trivial

theorem keeps_bind {m : Builder α} {f : α → Builder β} {mid : α → Array Node → Prop}
    (first : Keeps text m mid)
    (next : ∀ a nodes, Placed text nodes → mid a nodes →
      Placed text ((f a).run nodes).2 ∧ Grows nodes ((f a).run nodes).2 ∧
        post ((f a).run nodes).1 ((f a).run nodes).2) :
    Keeps text (m >>= f) post := by
  intro nodes placed
  obtain ⟨placed', grows, holds⟩ := first nodes placed
  obtain ⟨placed'', grows', final⟩ := next _ _ placed' holds
  exact ⟨placed'', fun id s same => grows' id s (grows id s same), final⟩

theorem keeps_then {m : Builder α} {f : α → Builder β} {mid : α → Array Node → Prop}
    (first : Keeps text m mid) (next : ∀ a, Keeps text (f a) post) : Keeps text (m >>= f) post :=
  keeps_bind first fun a nodes placed _ => next a nodes placed

theorem keeps_map {m : Builder α} {g : α → β} (keeps : Keeps text m fun a => post (g a)) :
    Keeps text (g <$> m) post := keeps

theorem keeps_post {m : Builder β} {post' : β → Array Node → Prop} (keeps : Keeps text m post)
    (weaker : ∀ b nodes, post b nodes → post' b nodes) : Keeps text m post' := by
  intro nodes placed
  obtain ⟨placed', grows, holds⟩ := keeps nodes placed
  exact ⟨placed', grows, weaker _ _ holds⟩

theorem keeps_anywhere {m : Builder β} (keeps : Keeps text m post) : Keeps text m Anywhere :=
  keeps_post keeps fun _ _ _ => trivial

theorem keeps_map_anywhere {m : Builder β} {g : β → α} (keeps : Keeps text m post) :
    Keeps text (g <$> m) Anywhere :=
  keeps_map (keeps_anywhere keeps)

theorem keeps_some {m : Builder NodeId} {outer : Span} (keeps : Keeps text m (Stands text outer)) :
    Keeps text (some <$> m) (StandsIfAny text outer) := by
  refine keeps_map (keeps_post keeps ?_)
  rintro id nodes stands x ⟨⟩
  exact stands

theorem keeps_none (outer : Span) : Keeps text (pure none) (StandsIfAny text outer) :=
  keeps_pure fun _ => nofun

theorem keeps_mapM {f : α → Builder β} {xs : List α}
    (each : ∀ x ∈ xs, Keeps text (f x) Anywhere) :
    Keeps text (xs.mapM f) Anywhere := by
  induction xs with
  | nil => exact keeps_pure fun _ => trivial
  | cons x xs ih =>
    obtain ⟨first, others⟩ := List.forall_mem_cons.mp each
    rw [List.mapM_cons]
    exact keeps_then first fun _ => keeps_then (ih others) fun _ => keeps_pure fun _ => trivial

theorem stands_grows {outer : Span} {id : NodeId} {old new : Array Node} (grows : Grows old new)
    (stands : Stands text outer id old) : Stands text outer id new := by
  obtain ⟨s, placed, fit, inside⟩ := stands
  exact ⟨s, grows id s placed, fit, inside⟩

theorem stands_wider {outer wider : Span} {id : NodeId} {nodes : Array Node}
    (contains : wider.contains outer = true) (stands : Stands text outer id nodes) :
    Stands text wider id nodes := by
  obtain ⟨s, placed, fit, inside⟩ := stands
  exact ⟨s, placed, fit, contains_trans contains inside⟩

theorem entriesAt_of_stands {nodes : Array Node} {ids : List NodeId} {outers : List Span}
    (stands : List.Forall₂ (fun id outer => Stands text outer id nodes) ids outers)
    (apart : outers.Pairwise fun a b => a.stop ≤ b.start) : EntriesAt text nodes ids := by
  -- The places found so far stay inside the spans, which carries the order over.
  suffices found : ∃ spans, List.Forall₂ (fun id s => spanAt nodes id = some s) ids spans ∧
      (∀ s ∈ spans, s.Fits text ∧ ∃ outer ∈ outers, outer.contains s = true) ∧
      spans.Pairwise fun a b => a.stop ≤ b.start by
    obtain ⟨spans, places, inside, ordered⟩ := found
    exact ⟨spans, places, fun s member => (inside s member).1, ordered⟩
  induction stands with
  | nil => exact ⟨[], .nil, by simp, .nil⟩
  | @cons id outer ids outers head tail ih =>
    obtain ⟨before, later⟩ := List.pairwise_cons.mp apart
    obtain ⟨spans, places, inside, ordered⟩ := ih later
    obtain ⟨s, placed, fit, contains⟩ := head
    refine ⟨s :: spans, .cons placed places, ?_, List.pairwise_cons.mpr ⟨?_, ordered⟩⟩
    · intro u member
      rcases List.mem_cons.mp member with rfl | rest
      · exact ⟨fit, outer, by simp, contains⟩
      · obtain ⟨fits, next, listed, around⟩ := inside u rest
        exact ⟨fits, next, List.mem_cons_of_mem _ listed, around⟩
    · intro u member
      obtain ⟨-, next, listed, around⟩ := inside u member
      have apart := before next listed
      simp only [Span.contains, Bool.and_eq_true, decide_eq_true_eq] at contains around
      omega

theorem keeps_mapM_stands {f : Concrete → Builder β} (take : β → Option NodeId)
    {xs : List Concrete}
    (each : ∀ x ∈ xs, Keeps text (f x) fun b => StandsIfAny text x.span (take b)) :
    Keeps text (xs.mapM f) fun bs nodes => ∃ outers, outers.Sublist (xs.map (·.span)) ∧
      List.Forall₂ (fun id outer => Stands text outer id nodes) (bs.filterMap take) outers := by
  induction xs with
  | nil => exact keeps_pure fun _ => ⟨[], .slnil, .nil⟩
  | cons x xs ih =>
    obtain ⟨first, others⟩ := List.forall_mem_cons.mp each
    rw [List.mapM_cons]
    intro nodes placed
    obtain ⟨placed', grows, stands⟩ := first nodes placed
    obtain ⟨placed'', grows', outers, sub, all⟩ := ih others _ placed'
    refine ⟨placed'', fun id s same => grows' id s (grows id s same), ?_⟩
    change ∃ outers, _ ∧ List.Forall₂ _ (List.filterMap take
      (((f x).run nodes).1 :: ((xs.mapM f).run ((f x).run nodes).2).1)) outers
    rw [List.filterMap_cons]
    cases found : take ((f x).run nodes).1 with
    | none => exact ⟨outers, sub.cons _, all⟩
    | some y =>
      have here := stands_grows grows' (stands y found)
      exact ⟨x.span :: outers, sub.cons_cons _, .cons here all⟩

theorem keeps_mapM_entries {f : Concrete → Builder β} (take : β → Option NodeId)
    {xs : List Concrete} {outer : Span} (row : Concrete.InOrder text outer xs)
    (each : ∀ x : Concrete, x.Fits text →
      Keeps text (f x) fun b => StandsIfAny text x.span (take b)) :
    Keeps text (xs.mapM f) fun bs nodes => EntriesAt text nodes (bs.filterMap take) := by
  have all := keeps_mapM_stands take fun x member => each x (row.fits x member)
  refine keeps_post all ?_
  rintro bs nodes ⟨outers, sub, stands⟩
  exact entriesAt_of_stands stands ((List.pairwise_map.mpr row.apart).sublist sub)

theorem keeps_mapM_nodes {f : Concrete → Builder NodeId} {xs : List Concrete} {outer : Span}
    (row : Concrete.InOrder text outer xs)
    (each : ∀ x : Concrete, x.Fits text → Keeps text (f x) (Stands text x.span)) :
    Keeps text (xs.mapM f) fun ids nodes => EntriesAt text nodes ids := by
  have all : Keeps text (xs.mapM f) fun ids nodes => EntriesAt text nodes (ids.filterMap some) := by
    refine keeps_mapM_entries some row fun x fit => keeps_post (each x fit) ?_
    rintro id nodes stands y ⟨⟩
    exact stands
  simpa only [List.filterMap_some] using all

end Rules

section Emit

variable {text : Text} {n : Concrete}

theorem spanAt_push_size (nodes : Array Node) (kind : NodeKind) (span : Span) :
    spanAt (nodes.push ⟨kind, some span⟩) nodes.size = some span := by
  rw [spanAt, Array.getElem?_push_size]
  rfl

theorem keeps_push {kind : NodeKind} {span : Span}
    (fits : kind.tag ≠ .variableDeclaration → span.Fits text)
    (plain : decide kind.tag.HoldsEntries = false) :
    Keeps text (Builder.push kind span) Anywhere := by
  intro nodes placed
  refine ⟨placed_push placed (fun tag => ⟨span, rfl, fits tag⟩) fun holds => ?_,
    grows_push _ _, trivial⟩
  exact absurd holds (of_decide_eq_false plain)

theorem emit_entries {nodes : Array Node} {kind : NodeKind} (fit : n.Fits text)
    (placed : Placed text nodes)
    (entries : kind.tag.HoldsEntries → EntriesAt text nodes kind.children) :
    Placed text ((Lowerer.emit kind n).run nodes).2 ∧
      Grows nodes ((Lowerer.emit kind n).run nodes).2 ∧
      Stands text n.span ((Lowerer.emit kind n).run nodes).1 ((Lowerer.emit kind n).run nodes).2 :=
  ⟨placed_push placed (fun _ => ⟨n.span, rfl, fit.span⟩) entries, grows_push _ _,
    n.span, spanAt_push_size nodes kind n.span, fit.span, contains_self _⟩

theorem keeps_emit {kind : NodeKind} (fit : n.Fits text)
    (plain : decide kind.tag.HoldsEntries = false) :
    Keeps text (Lowerer.emit kind n) (Stands text n.span) :=
  fun _ placed => emit_entries fit placed fun holds => absurd holds (of_decide_eq_false plain)

end Emit

end ScriptLint
