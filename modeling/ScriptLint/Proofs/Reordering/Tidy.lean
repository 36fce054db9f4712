import ScriptLint.Proofs.Lists
import ScriptLint.Proofs.Reordering.Edits

/-!
Files that the edits of the ordering rules rely on.

Tokens, comments and the spans of siblings lie in order, end on boundaries of the text and do not
cut each other. Every token belongs to a statement, and every import starts with a token.
-/
namespace ScriptLint

def Tree.childSpans (t : Tree) (id : NodeId) : List Span := (t.children id).filterMap t.span?

def NodeTag.HoldsEntries (tag : NodeTag) : Prop :=
  tag = .program ∨ tag = .importDeclaration ∨ tag = .objectPattern

instance (tag : NodeTag) : Decidable tag.HoldsEntries := inferInstanceAs (Decidable (_ ∨ _ ∨ _))

namespace SourceFile

structure Tidy (f : SourceFile) : Prop where
  tokens : TokensFit f
  proper : ∀ t ∈ f.tokens.toList, t.span.start < t.span.stop
  comments : f.CommentsOrdered
  commentStops : ∀ c ∈ f.comments.toList, f.text.isBoundary c.span.stop = true
  siblings : ∀ id < f.tree.nodes.size, (f.tree.tag id).HoldsEntries →
    EntriesFit f (f.tree.childSpans id)
  covered : ∀ t ∈ f.tokens.toList, ∃ s ∈ f.tree.childSpans f.tree.root, s.contains t.span = true
  imports : ∀ id ∈ f.tree.children f.tree.root, f.tree.tag id = .importDeclaration →
    ∀ s ∈ f.tree.span? id, ∃ t ∈ f.tokens.toList, t.span.start = s.start

instance (f : SourceFile) : Decidable f.Tidy :=
  decidable_of_iff
    (TokensFit f ∧ (∀ t ∈ f.tokens.toList, t.span.start < t.span.stop) ∧ f.CommentsOrdered ∧
      (∀ c ∈ f.comments.toList, f.text.isBoundary c.span.stop = true) ∧
      (∀ id < f.tree.nodes.size, (f.tree.tag id).HoldsEntries →
        EntriesFit f (f.tree.childSpans id)) ∧
      (∀ t ∈ f.tokens.toList,
        ∃ s ∈ f.tree.childSpans f.tree.root, s.contains t.span = true) ∧
      ∀ id ∈ f.tree.children f.tree.root, f.tree.tag id = .importDeclaration →
        ∀ s ∈ f.tree.span? id, ∃ t ∈ f.tokens.toList, t.span.start = s.start)
    ⟨fun h => ⟨h.1, h.2.1, h.2.2.1, h.2.2.2.1, h.2.2.2.2.1, h.2.2.2.2.2.1, h.2.2.2.2.2.2⟩,
      fun h => ⟨h.tokens, h.proper, h.comments, h.commentStops, h.siblings, h.covered, h.imports⟩⟩

theorem tidy_entries {f : SourceFile} (tidy : f.Tidy) {id : NodeId}
    (holds : (f.tree.tag id).HoldsEntries) : EntriesFit f (f.tree.childSpans id) := by
  refine tidy.siblings id (Nat.lt_of_not_le fun outside => ?_) holds
  have missing : f.tree.nodes[id]? = none := Array.getElem?_eq_none outside
  simp [NodeTag.HoldsEntries, Tree.tag, Tree.kind, missing, NodeKind.tag] at holds

end SourceFile

theorem place_eq_ok {t : Tree} {id : NodeId} {s : Span} :
    t.place id = .ok s ↔ t.span? id = some s := by
  cases found : t.span? id <;> simp [Tree.place, found]

theorem spans_of_mapM {α β : Type} {t : Tree} (node : α → NodeId) {spanOf : β → Span}
    {f : α → Except LintError β} {xs : List α} {ys : List β} (made : xs.mapM f = .ok ys)
    (placed : ∀ x y, f x = .ok y → t.span? (node x) = some (spanOf y)) :
    (xs.map node).filterMap t.span? = ys.map spanOf := by
  have results := map_eq_of_mapM made
  clear made
  induction xs generalizing ys with
  | nil =>
    have empty : ys = [] := by simpa using results.symm
    rw [empty]
    rfl
  | cons x xs ih =>
    cases ys with
    | nil => simp at results
    | cons y ys =>
      simp only [List.map_cons, List.cons.injEq] at results
      rw [List.map_cons, List.filterMap_cons_some (placed x y results.1), List.map_cons,
        ih results.2]

end ScriptLint
