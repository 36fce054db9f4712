import Mathlib
import ScriptLint.Syntax.Lowering.Builder

/-!
Forests of nodes, and builders that keep them.

Some nodes of a growing forest are still roots: no node lists them as a child. A builder takes
certain roots and leaves others, and every node stays either a root or a child, once.
-/
namespace ScriptLint

/-- Each node is a child or a root, exactly once, and children come before their parents. -/
structure Forest (nodes : Array Node) (roots : List NodeId) : Prop where
  cover : (nodes.toList.flatMap (·.kind.children) ++ roots).Perm (List.range nodes.size)
  descends : ∀ (p : NodeId) (node : Node), nodes[p]? = some node → ∀ c ∈ node.kind.children, c < p

theorem forest_empty : Forest #[] [] := ⟨by simp, by simp⟩

theorem forest_perm {nodes : Array Node} {roots roots' : List NodeId} (forest : Forest nodes roots)
    (same : roots.Perm roots') : Forest nodes roots' :=
  ⟨(same.symm.append_left _).trans forest.cover, forest.descends⟩

theorem forest_roots_nodup {nodes : Array Node} {roots : List NodeId}
    (forest : Forest nodes roots) : roots.Nodup := by
  have all := forest.cover.nodup_iff.mpr List.nodup_range
  exact (List.nodup_append.mp all).2.1

theorem forest_roots_lt {nodes : Array Node} {roots : List NodeId} (forest : Forest nodes roots)
    {id : NodeId} (member : id ∈ roots) : id < nodes.size :=
  List.mem_range.mp (forest.cover.mem_iff.mp (List.mem_append_right _ member))

theorem forest_push {nodes : Array Node} {roots : List NodeId} {node : Node}
    (forest : Forest nodes (node.kind.children ++ roots)) :
    Forest (nodes.push node) (nodes.size :: roots) := by
  refine ⟨?_, ?_⟩
  · rw [Array.toList_push, List.flatMap_append, List.flatMap_singleton, Array.size_push,
      List.range_succ, List.append_assoc]
    have moved : (node.kind.children ++ nodes.size :: roots).Perm
        (node.kind.children ++ roots ++ [nodes.size]) := by
      rw [List.append_assoc]
      exact (List.perm_append_singleton nodes.size roots).symm.append_left _
    refine (moved.append_left _).trans ?_
    rw [← List.append_assoc]
    exact forest.cover.append_right _
  · intro p found at_p c child
    rw [Array.getElem?_push] at at_p
    split at at_p
    · rename_i last
      cases at_p
      rw [last]
      exact forest_roots_lt forest (List.mem_append_left _ child)
    · exact forest.descends p found at_p c child

/-- The builder takes the roots `pre` of any forest and leaves the roots `post`. -/
def Turns {α : Type} (pre : List NodeId) (m : Builder α) (post : α → List NodeId) : Prop :=
  ∀ nodes roots, Forest nodes (pre ++ roots) →
    Forest (m.run nodes).2 (post (m.run nodes).1 ++ roots)

section Rules

variable {α β : Type} {pre : List NodeId}

theorem turns_pure {a : α} {post : α → List NodeId} (same : pre.Perm (post a)) :
    Turns pre (pure a) post :=
  fun _ _ forest => forest_perm forest (same.append_right _)

theorem turns_bind {m : Builder α} {f : α → Builder β} {mid : α → List NodeId}
    {post : β → List NodeId} (first : Turns pre m mid) (next : ∀ a, Turns (mid a) (f a) post) :
    Turns pre (m >>= f) post :=
  fun nodes roots forest => next (m.run nodes).1 (m.run nodes).2 roots (first nodes roots forest)

theorem turns_frame {m : Builder α} {post : α → List NodeId} (turns : Turns [] m post)
    (frame : List NodeId) : Turns frame m fun a => frame ++ post a := by
  intro nodes roots forest
  have built := turns nodes (frame ++ roots) forest
  refine forest_perm built ?_
  rw [← List.append_assoc]
  exact List.perm_append_comm.append_right _

theorem turns_then {m : Builder α} {f : α → Builder β} {mid : α → List NodeId}
    {post : β → List NodeId} (first : Turns [] m mid)
    (next : ∀ a, Turns (pre ++ mid a) (f a) post) : Turns pre (m >>= f) post :=
  turns_bind (turns_frame first pre) next

theorem turns_map {m : Builder α} {g : α → β} {post : β → List NodeId}
    (turns : Turns pre m fun a => post (g a)) : Turns pre (g <$> m) post := turns

theorem turns_post {m : Builder α} {post post' : α → List NodeId} (turns : Turns pre m post)
    (same : ∀ a, (post a).Perm (post' a)) : Turns pre m post' :=
  fun nodes roots forest => forest_perm (turns nodes roots forest) ((same _).append_right _)

theorem turns_mapM {f : α → Builder β} {post : β → List NodeId} (each : ∀ x, Turns [] (f x) post)
    (xs : List α) : Turns [] (xs.mapM f) fun ys => ys.flatMap post := by
  induction xs with
  | nil => exact turns_pure (.refl _)
  | cons x xs ih =>
    rw [List.mapM_cons]
    refine turns_then (each x) fun y => turns_then ih fun ys => turns_pure ?_
    simp

theorem turns_push {kind : NodeKind} {span : Span} {rest : List NodeId}
    (takes : pre.Nodup → pre.Perm (kind.children ++ rest)) :
    Turns pre (Builder.push kind span) fun id => rest ++ [id] := by
  intro nodes roots forest
  have distinct := (List.nodup_append.mp (forest_roots_nodup forest)).1
  have ready : Forest nodes (kind.children ++ (rest ++ roots)) := by
    rw [← List.append_assoc]
    exact forest_perm forest ((takes distinct).append_right _)
  have pushed : Forest (nodes.push ⟨kind, some span⟩) (nodes.size :: (rest ++ roots)) :=
    forest_push ready
  refine forest_perm pushed ?_
  rw [List.append_assoc]
  exact List.perm_middle.symm

theorem turns_push_all {kind : NodeKind} {span : Span}
    (takes : pre.Nodup → pre.Perm kind.children) :
    Turns pre (Builder.push kind span) fun id => [id] := by
  have all : pre.Nodup → pre.Perm (kind.children ++ []) := by
    intro distinct
    rw [List.append_nil]
    exact takes distinct
  exact turns_push all

theorem turns_push_of_eq {kind : NodeKind} {span : Span} (same : pre = kind.children) :
    Turns pre (Builder.push kind span) fun id => [id] := turns_push_all fun _ => .of_eq same

theorem turns_emit_of_eq {kind : NodeKind} {n : Concrete} (same : pre = kind.children) :
    Turns pre (Lowerer.emit kind n) fun id => [id] := turns_push_of_eq same

theorem turns_mapM_nodes {f : α → Builder NodeId} (each : ∀ x, Turns [] (f x) fun id => [id])
    (xs : List α) : Turns [] (xs.mapM f) fun ids => ids :=
  turns_post (turns_mapM each xs) fun ids => .of_eq (by simp)

theorem turns_mapM_options {f : α → Builder (Option NodeId)}
    (each : ∀ x, Turns [] (f x) Option.toList) (xs : List α) :
    Turns [] (xs.mapM f) fun ids => ids.filterMap id := by
  refine turns_post (turns_mapM each xs) fun ids => .of_eq ?_
  induction ids with
  | nil => rfl
  | cons id ids ih => cases id <;> simp [ih]

end Rules

end ScriptLint
