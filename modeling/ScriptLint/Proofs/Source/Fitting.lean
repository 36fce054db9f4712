import ScriptLint.Proofs.Syntax.LoweredPlaces
import ScriptLint.Proofs.Syntax.TokenStream

/-!
Files read from a concrete tree that fits the text.

Tokens, nodes and entries of such a file are ranges of its text, and tokens and entries are in
order.
-/
namespace ScriptLint

namespace Concrete

theorem Fits.nested {text : Text} {n : Concrete} (fit : n.Fits text) : n.Nested := by
  induction fit with
  | node _ inside apart _ ih => exact .node inside apart ih

theorem tokens_fit {text : Text} {n : Concrete} (fit : n.Fits text) :
    ∀ t ∈ n.tokens, t.span.Fits text := by
  induction fit with
  | @node info children own _ _ _ ih =>
    intro t member
    rw [tokens] at member
    split at member
    · cases member
    · split at member
      · split at member
        · cases member
        · rw [List.mem_singleton.mp member]
          exact own
      · rw [tokensOf_eq] at member
        obtain ⟨c, child, found⟩ := List.mem_flatMap.mp member
        exact ih c child t found

end Concrete

namespace SourceFile

structure Fitting (f : SourceFile) : Prop where
  tokens : f.TokensOrdered
  tokenStarts : ∀ t ∈ f.tokens.toList, f.text.isBoundary t.span.start = true
  nodes : ∀ id s, f.tree.span? id = some s → f.tree.tag id ≠ .variableDeclaration → s.Fits f.text
  entries : ∀ id, (f.tree.tag id).HoldsEntries → SpansFit f.text (f.tree.childSpans id)
  scopes : ∃ globals, f.scopes = .ofTree f.tree globals

theorem placed_node {text : Text} {t : Tree} (placed : Placed text t.nodes) {id : NodeId} {s : Span}
    (stands : t.span? id = some s) (tag : t.tag id ≠ .variableDeclaration) : s.Fits text := by
  obtain ⟨node, found, span⟩ := Option.bind_eq_some_iff.mp stands
  rw [Tree.tag, Tree.kind, found] at tag
  obtain ⟨u, same, fits⟩ := placed.fits node (Array.mem_of_getElem? found) tag
  rw [span] at same
  cases same
  exact fits

theorem filterMap_places {nodes : Array Node} {ids : List NodeId} {spans : List Span}
    (places : List.Forall₂ (fun id s => spanAt nodes id = some s) ids spans) :
    ids.filterMap (spanAt nodes) = spans := by
  induction places with
  | nil => rfl
  | cons here _ ih => rw [List.filterMap_cons_some here, ih]

theorem placed_entries {text : Text} {t : Tree} (placed : Placed text t.nodes) {id : NodeId}
    (holds : (t.tag id).HoldsEntries) : SpansFit text (t.childSpans id) := by
  cases found : t.nodes[id]? with
  | none => simp [NodeTag.HoldsEntries, Tree.tag, Tree.kind, found, NodeKind.tag] at holds
  | some node =>
    rw [Tree.tag, Tree.kind, found] at holds
    obtain ⟨spans, places, fit⟩ := placed.entries node (Array.mem_of_getElem? found) holds
    rw [Tree.childSpans, Tree.children, Tree.kind, found]
    exact filterMap_places places ▸ fit

theorem ofConcrete_fitting {text : Text} {root : Concrete} (fit : root.Fits text)
    (globals : List Text) : (SourceFile.ofConcrete text root globals).Fitting := by
  have placed := toTree_placed fit
  have ordered := (Concrete.tokens_spread fit.nested).separate.ordered
  have listed : (SourceFile.ofConcrete text root globals).tokens.toList = root.tokens :=
    mergeSort_of_ordered ordered
  refine ⟨?_, ?_, ?_, ?_, globals, rfl⟩
  · rw [TokensOrdered, listed]
    exact ordered
  · rw [listed]
    exact fun t member => (Concrete.tokens_fit fit t member).first
  · exact fun id s => placed_node placed
  · exact fun id => placed_entries placed

end SourceFile

end ScriptLint
