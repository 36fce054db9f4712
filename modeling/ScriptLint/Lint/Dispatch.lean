import ScriptLint.Syntax.Tree

/-!
Which visitor sees which node.

A visitor is known by its number and asks for nodes by selectors. The selectors of all visitors are
kept in one table by tag, so that a node is compared only with those that ask for its tag. However
many of its selectors accept a node, a visitor sees it once.
-/
namespace ScriptLint

structure Selector where
  tag : NodeTag
  parent : Option NodeTag := none
  deriving DecidableEq, Repr

def Selector.accepts (s : Selector) (tag : NodeTag) (parent : Option NodeTag) : Bool :=
  s.tag == tag && (s.parent.isNone || s.parent == parent)

structure Registration where
  visitor : Nat
  parent : Option NodeTag
  deriving DecidableEq, Repr

abbrev DispatchTable := List (NodeTag × List Registration)

namespace DispatchTable

def register (tag : NodeTag) (r : Registration) : DispatchTable → DispatchTable
  | [] => [(tag, [r])]
  | (entry, rs) :: table =>
    if entry = tag then (entry, if rs.contains r then rs else rs ++ [r]) :: table
    else (entry, rs) :: register tag r table

def ofSelectors (visitors : List (List Selector)) : DispatchTable :=
  visitors.zipIdx.foldl
    (fun table (selectors, i) =>
      selectors.foldl (fun table s => register s.tag ⟨i, s.parent⟩ table) table)
    []

def targets (table : DispatchTable) (tag : NodeTag) (parent : Option NodeTag) : List Nat :=
  match table.lookup tag with
  | none => []
  | some rs =>
    ((rs.filter fun r => r.parent.isNone || r.parent == parent).map (·.visitor)).eraseDups

end DispatchTable

structure Visit where
  visitor : Nat
  node : NodeId
  deriving DecidableEq, Repr

def Tree.visits (t : Tree) (visitors : List (List Selector)) : List Visit :=
  let table := DispatchTable.ofSelectors visitors
  t.walk.flatMap fun id => (table.targets (t.tag id) (t.parentTag? id)).map fun v => ⟨v, id⟩

/-- Make the calls one after another. The first error ends the walk, and what was gathered until
then stays. -/
def runVisits {σ ε : Type _} (call : σ → Visit → σ × Option ε) : σ → List Visit → σ × Option ε
  | s, [] => (s, none)
  | s, v :: vs => match call s v with
    | (s, none) => runVisits call s vs
    | (s, some e) => (s, some e)

end ScriptLint
