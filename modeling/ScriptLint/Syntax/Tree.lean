import ScriptLint.Syntax.Node

/-!
Abstract syntax trees.

A tree is a list of numbered nodes with one of them as root. Children come before their parent, and
a table next to the nodes tells each node's parent. Walks go down at most as many levels as there
are nodes, which is every level of a tree.
-/
namespace ScriptLint

/-- Each node's parent, the last one listed when several nodes claim a child. -/
def parentTable (nodes : Array Node) : Array (Option NodeId) :=
  nodes.toList.zipIdx.foldl
    (fun table (node, i) =>
      node.kind.children.foldl (fun table child => table.setIfInBounds child (some i)) table)
    (Array.replicate nodes.size none)

structure Tree where
  nodes : Array Node
  root : NodeId
  parents : Array (Option NodeId) := parentTable nodes
  parents_eq : parents = parentTable nodes := by rfl

namespace Tree

def kind (t : Tree) (id : NodeId) : NodeKind :=
  match t.nodes[id]? with
  | some node => node.kind
  | none => .other "" []

def span? (t : Tree) (id : NodeId) : Option Span := t.nodes[id]?.bind Node.span

def tag (t : Tree) (id : NodeId) : NodeTag := (t.kind id).tag

def children (t : Tree) (id : NodeId) : List NodeId := (t.kind id).children

def name? (t : Tree) (id : NodeId) : Option Text := (t.kind id).name?

def parent? (t : Tree) (id : NodeId) : Option NodeId := (t.parents[id]?).join

def parentTag? (t : Tree) (id : NodeId) : Option NodeTag := (t.parent? id).map t.tag

def ancestorsWithin (t : Tree) : Nat → NodeId → List NodeId
  | 0, _ => []
  | levels + 1, id => match t.parent? id with
    | some parent => parent :: ancestorsWithin t levels parent
    | none => []

def ancestors (t : Tree) (id : NodeId) : List NodeId := t.ancestorsWithin t.nodes.size id

def preorderWithin (t : Tree) : Nat → NodeId → List NodeId
  | 0, _ => []
  | levels + 1, id => id :: (t.children id).flatMap (preorderWithin t levels)

def preorder (t : Tree) (id : NodeId) : List NodeId := t.preorderWithin t.nodes.size id

def walk (t : Tree) : List NodeId := t.preorder t.root

def path (t : Tree) (id : NodeId) : String :=
  " > ".intercalate (((id :: t.ancestors id).map fun a => (t.kind a).describe).reverse)

end Tree

end ScriptLint
