import ScriptLint.Proofs.Syntax.Lowering

/-!
Trees of which every part is reached once.

Each node but the root is a child of exactly one node, which has a greater number. The table of
parents then tells parents exactly, and a walk from the root meets every node once.
-/
namespace ScriptLint

/-- Numbers decrease downwards, and each node is the root or a child, exactly once. -/
structure Tree.WellFormed (t : Tree) : Prop where
  descends : ∀ p c : Nat, c ∈ t.children p → c < p
  cover : ((List.range t.nodes.size).flatMap t.children ++ [t.root]).Perm
    (List.range t.nodes.size)

namespace Tree

/-- The order in which a loop meets nodes that takes one from a stack and puts its children there,
for a number of rounds. -/
def stackOrder (t : Tree) : Nat → List NodeId → List NodeId
  | 0, _ | _ + 1, [] => []
  | rounds + 1, id :: stack => id :: stackOrder t rounds (t.children id ++ stack)

theorem children_of_getElem? {t : Tree} {p : NodeId} {node : Node} (found : t.nodes[p]? = some node) :
    t.children p = node.kind.children := by
  rw [children, kind, found]

theorem children_outside {t : Tree} {p : NodeId} (outside : t.nodes.size ≤ p) :
    t.children p = [] := by
  rw [children, kind, Array.getElem?_eq_none outside]
  rfl

theorem parent_lt {t : Tree} {p c : Nat} (child : c ∈ t.children p) : p < t.nodes.size := by
  refine Nat.lt_of_not_le fun outside => ?_
  rw [children_outside outside] at child
  simp at child

theorem wellFormed_iff {t : Tree} : t.WellFormed ↔
    (∀ p < t.nodes.size, ∀ c ∈ t.children p, c < p) ∧
      ((List.range t.nodes.size).flatMap t.children ++ [t.root]).Perm
        (List.range t.nodes.size) := by
  constructor
  · intro wellFormed
    exact ⟨fun p _ c child => wellFormed.descends p c child, wellFormed.cover⟩
  · rintro ⟨descends, cover⟩
    exact ⟨fun p c child => descends p (parent_lt child) c child, cover⟩

instance (t : Tree) : Decidable t.WellFormed := decidable_of_iff _ wellFormed_iff.symm

theorem map_children_range (t : Tree) :
    (List.range t.nodes.size).map t.children = t.nodes.toList.map (·.kind.children) := by
  refine List.ext_getElem (by simp) fun i bound _ => ?_
  have inside : i < t.nodes.size := by simpa using bound
  simp only [List.getElem_map, List.getElem_range, Array.getElem_toList]
  exact children_of_getElem? (Array.getElem?_eq_getElem inside)

theorem wellFormed_of_forest {t : Tree} (forest : Forest t.nodes [t.root]) : t.WellFormed := by
  refine ⟨?_, ?_⟩
  · intro p c child
    cases found : t.nodes[p]? with
    | none => simp [children, kind, found, NodeKind.children] at child
    | some node =>
      rw [children_of_getElem? found] at child
      exact forest.descends p node found c child
  · rw [List.flatMap_def, map_children_range, ← List.flatMap_def]
    exact forest.cover

section Shape

variable {t : Tree} (wellFormed : t.WellFormed)
include wellFormed

theorem all_nodup : ((List.range t.nodes.size).flatMap t.children ++ [t.root]).Nodup :=
  wellFormed.cover.nodup_iff.mpr List.nodup_range

theorem root_lt : t.root < t.nodes.size :=
  List.mem_range.mp (wellFormed.cover.mem_iff.mp (by simp))

theorem children_nodup (p : NodeId) : (t.children p).Nodup := by
  by_cases bound : p < t.nodes.size
  · have all := (List.nodup_append.mp (all_nodup wellFormed)).1
    exact (List.nodup_flatMap.mp all).1 p (List.mem_range.mpr bound)
  · rw [children_outside (Nat.le_of_not_lt bound)]
    exact List.nodup_nil

theorem parent_unique {p q c : NodeId} (first : c ∈ t.children p) (second : c ∈ t.children q) :
    p = q := by
  have all := (List.nodup_append.mp (all_nodup wellFormed)).1
  have apart := List.pairwise_iff_getElem.mp (List.nodup_flatMap.mp all).2
  have inP := parent_lt first
  have inQ := parent_lt second
  rcases Nat.lt_trichotomy p q with before | same | after
  · have disjoint := apart p q (by simpa using inP) (by simpa using inQ) before
    simp only [List.getElem_range, Function.onFun] at disjoint
    exact absurd second (disjoint first)
  · exact same
  · have disjoint := apart q p (by simpa using inQ) (by simpa using inP) after
    simp only [List.getElem_range, Function.onFun] at disjoint
    exact absurd first (disjoint second)

theorem root_not_child (p : NodeId) : t.root ∉ t.children p := by
  intro child
  have inside : t.root ∈ (List.range t.nodes.size).flatMap t.children :=
    List.mem_flatMap.mpr ⟨p, List.mem_range.mpr (parent_lt child), child⟩
  exact (List.nodup_append.mp (all_nodup wellFormed)).2.2 _ inside _ (by simp) rfl

theorem has_parent {id : NodeId} (bound : id < t.nodes.size) (other : id ≠ t.root) :
    ∃ p, id ∈ t.children p := by
  have member := wellFormed.cover.mem_iff.mpr (List.mem_range.mpr bound)
  rcases List.mem_append.mp member with inside | isRoot
  · obtain ⟨p, -, child⟩ := List.mem_flatMap.mp inside
    exact ⟨p, child⟩
  · exact absurd (List.mem_singleton.mp isRoot) other

theorem preorderWithin_stable {levels levels' id : Nat} (enough : id < levels)
    (enough' : id < levels') : t.preorderWithin levels id = t.preorderWithin levels' id := by
  induction levels generalizing levels' id with
  | zero => omega
  | succ levels ih =>
    cases levels' with
    | zero => omega
    | succ levels' =>
      rw [preorderWithin, preorderWithin]
      refine congrArg (id :: ·) (List.flatMap_congr fun c child => ?_)
      have below := wellFormed.descends id c child
      exact ih (by omega) (by omega)

theorem preorder_eq (id : Nat) : t.preorder id = id :: (t.children id).flatMap t.preorder := by
  have positive : 0 < t.nodes.size := Nat.zero_lt_of_lt (root_lt wellFormed)
  obtain ⟨levels, size⟩ : ∃ levels, t.nodes.size = levels + 1 := ⟨t.nodes.size - 1, by omega⟩
  rw [preorder, size, preorderWithin]
  refine congrArg (id :: ·) (List.flatMap_congr fun c child => ?_)
  have below := wellFormed.descends id c child
  have inside := parent_lt child
  rw [preorder]
  exact preorderWithin_stable wellFormed (by omega) (by omega)

theorem flatMap_preorder_perm {k : Nat} {roots : List NodeId}
    (cover : ((List.range k).flatMap t.children ++ roots).Perm (List.range k)) :
    (roots.flatMap t.preorder).Perm (List.range k) := by
  induction k generalizing roots with
  | zero =>
    obtain rfl : roots = [] := by simpa using cover
    simp
  | succ k ih =>
    rw [List.range_succ, List.flatMap_append, List.flatMap_singleton] at cover
    -- The greatest node is nobody's child, so it is one of the given ones.
    have isRoot : k ∈ roots := by
      have member := cover.mem_iff.mpr (List.mem_append_right _ (List.mem_singleton_self k))
      rcases List.mem_append.mp member with inside | isRoot
      · rcases List.mem_append.mp inside with lower | own
        · obtain ⟨p, bound, child⟩ := List.mem_flatMap.mp lower
          have := wellFormed.descends p k child
          have := List.mem_range.mp bound
          omega
        · have := wellFormed.descends k k own
          omega
      · exact isRoot
    obtain ⟨front, rest, rfl⟩ := List.append_of_mem isRoot
    have smaller : ((List.range k).flatMap t.children ++ (t.children k ++ (front ++ rest))).Perm
        (List.range k) := by
      refine List.Perm.cons_inv (a := k) ?_
      refine List.Perm.trans ?_ (cover.trans (List.perm_append_singleton k (List.range k)))
      rw [← List.append_assoc, ← List.append_assoc, ← List.append_assoc]
      exact List.perm_middle.symm
    have below := ih smaller
    rw [List.flatMap_append, List.flatMap_cons, preorder_eq wellFormed k, List.range_succ]
    refine List.Perm.trans ?_ (List.perm_append_singleton k (List.range k)).symm
    refine List.Perm.trans ?_ (below.cons k)
    rw [List.flatMap_append, List.flatMap_append, List.cons_append]
    refine List.perm_middle.trans (List.Perm.cons k ?_)
    rw [← List.append_assoc, ← List.append_assoc]
    exact List.perm_append_comm.append_right _

theorem walk_perm : t.walk.Perm (List.range t.nodes.size) := by
  have all := flatMap_preorder_perm wellFormed wellFormed.cover
  rwa [List.flatMap_singleton] at all

theorem stackOrder_eq {rounds : Nat} {stack : List NodeId}
    (enough : (stack.flatMap t.preorder).length ≤ rounds) :
    t.stackOrder rounds stack = stack.flatMap t.preorder := by
  induction rounds generalizing stack with
  | zero =>
    rw [List.length_eq_zero_iff.mp (Nat.le_zero.mp enough)]
    rfl
  | succ rounds ih =>
    cases stack with
    | nil => rfl
    | cons id stack =>
      have listing : (id :: stack).flatMap t.preorder =
          id :: (t.children id ++ stack).flatMap t.preorder := by
        rw [List.flatMap_cons, preorder_eq wellFormed id, List.flatMap_append, List.cons_append]
      rw [listing, List.length_cons] at enough
      rw [stackOrder, ih (Nat.le_of_succ_le_succ enough), listing]

theorem stackOrder_root : t.stackOrder t.nodes.size [t.root] = t.walk := by
  have once := (walk_perm wellFormed).length_eq
  rw [List.length_range] at once
  rw [stackOrder_eq wellFormed (by rw [List.flatMap_singleton]; exact Nat.le_of_eq once),
    List.flatMap_singleton]
  rfl

end Shape

section Parents

def Marked (table : Array (Option NodeId)) (c : NodeId) : Prop := ∃ p, table[c]? = some (some p)

def setParents (table : Array (Option NodeId)) (entry : Node × Nat) : Array (Option NodeId) :=
  entry.1.kind.children.foldl (fun table child => table.setIfInBounds child (some entry.2)) table

theorem parentTable_eq (nodes : Array Node) :
    parentTable nodes =
      nodes.toList.zipIdx.foldl setParents (Array.replicate nodes.size none) := rfl

theorem foldl_set_size {i : NodeId} {children : List NodeId} {table : Array (Option NodeId)} :
    (children.foldl (fun table child => table.setIfInBounds child (some i)) table).size =
      table.size := by
  induction children generalizing table with
  | nil => rfl
  | cons child children ih => rw [List.foldl_cons, ih, Array.size_setIfInBounds]

theorem foldl_set_sound {i : NodeId} {children : List NodeId} {table : Array (Option NodeId)}
    {c p : NodeId} (found : (children.foldl (fun table child =>
      table.setIfInBounds child (some i)) table)[c]? = some (some p)) :
    table[c]? = some (some p) ∨ (p = i ∧ c ∈ children) := by
  induction children generalizing table with
  | nil => exact Or.inl found
  | cons child children ih =>
    rcases ih found with before | ⟨same, later⟩
    · rw [Array.getElem?_setIfInBounds] at before
      split at before
      · rename_i here
        split at before
        · have eq : i = p := by simpa using before
          exact Or.inr ⟨eq.symm, by simp [here]⟩
        · simp at before
      · exact Or.inl before
    · exact Or.inr ⟨same, List.mem_cons_of_mem _ later⟩

theorem foldl_set_marks {i : NodeId} {children : List NodeId} {table : Array (Option NodeId)}
    {c : NodeId} (bound : c < table.size) (marked : Marked table c ∨ c ∈ children) :
    Marked (children.foldl (fun table child => table.setIfInBounds child (some i)) table) c := by
  induction children generalizing table with
  | nil => simpa using marked
  | cons child children ih =>
    refine ih (by simpa using bound) ?_
    by_cases here : child = c
    · refine Or.inl ⟨i, ?_⟩
      rw [Array.getElem?_setIfInBounds, if_pos here, if_pos (by rw [here]; exact bound)]
    · rcases marked with ⟨p, before⟩ | member
      · refine Or.inl ⟨p, ?_⟩
        rw [Array.getElem?_setIfInBounds, if_neg here]
        exact before
      · exact Or.inr (List.mem_of_ne_of_mem (Ne.symm here) member)

theorem setParents_sound {entries : List (Node × Nat)} {table : Array (Option NodeId)}
    {c p : NodeId} (found : (entries.foldl setParents table)[c]? = some (some p)) :
    table[c]? = some (some p) ∨ ∃ node, (node, p) ∈ entries ∧ c ∈ node.kind.children := by
  induction entries generalizing table with
  | nil => exact Or.inl found
  | cons entry entries ih =>
    rcases ih found with before | ⟨node, member, child⟩
    · rcases foldl_set_sound before with old | ⟨rfl, child⟩
      · exact Or.inl old
      · exact Or.inr ⟨entry.1, by simp, child⟩
    · exact Or.inr ⟨node, List.mem_cons_of_mem _ member, child⟩

theorem setParents_marks {entries : List (Node × Nat)} {table : Array (Option NodeId)}
    {c : NodeId} (bound : c < table.size)
    (marked : Marked table c ∨ ∃ entry ∈ entries, c ∈ entry.1.kind.children) :
    Marked (entries.foldl setParents table) c := by
  induction entries generalizing table with
  | nil => simpa using marked
  | cons entry entries ih =>
    refine ih (by rw [setParents, foldl_set_size]; exact bound) ?_
    rcases marked with before | ⟨other, member, child⟩
    · exact Or.inl (foldl_set_marks bound (Or.inl before))
    · rcases List.mem_cons.mp member with rfl | later
      · exact Or.inl (foldl_set_marks bound (Or.inr child))
      · exact Or.inr ⟨other, later, child⟩

theorem parent?_iff {t : Tree} (wellFormed : t.WellFormed) {c p : NodeId} :
    t.parent? c = some p ↔ c ∈ t.children p := by
  have sound : ∀ q, t.parent? c = some q → c ∈ t.children q := by
    intro q told
    rw [parent?, t.parents_eq, parentTable_eq, Option.join_eq_some_iff] at told
    rcases setParents_sound told with empty | ⟨node, member, child⟩
    · rw [Array.getElem?_replicate] at empty
      split at empty <;> simp at empty
    · have found := List.mem_zipIdx_iff_getElem?.mp member
      rw [Array.getElem?_toList] at found
      rw [children_of_getElem? found]
      exact child
  constructor
  · exact sound p
  · intro child
    have inside := parent_lt child
    have bound : c < t.nodes.size := Nat.lt_trans (wellFormed.descends p c child) inside
    have entry : (t.nodes[p], p) ∈ t.nodes.toList.zipIdx := by
      rw [List.mem_zipIdx_iff_getElem?, Array.getElem?_toList]
      exact Array.getElem?_eq_getElem inside
    have known : Marked (parentTable t.nodes) c := by
      rw [parentTable_eq]
      refine setParents_marks (by simpa using bound) (Or.inr ⟨_, entry, ?_⟩)
      rw [← children_of_getElem? (Array.getElem?_eq_getElem inside)]
      exact child
    obtain ⟨q, told⟩ := known
    have parent : t.parent? c = some q := by
      rw [parent?, t.parents_eq, told]
      rfl
    rw [parent, parent_unique wellFormed (sound q parent) child]

theorem parent?_none_iff {t : Tree} (wellFormed : t.WellFormed) {id : NodeId}
    (bound : id < t.nodes.size) : t.parent? id = none ↔ id = t.root := by
  constructor
  · intro missing
    by_cases isRoot : id = t.root
    · exact isRoot
    · obtain ⟨p, child⟩ := has_parent wellFormed bound isRoot
      rw [(parent?_iff wellFormed).mpr child] at missing
      simp at missing
  · rintro rfl
    refine Option.eq_none_iff_forall_ne_some.mpr fun p told => ?_
    exact root_not_child wellFormed p ((parent?_iff wellFormed).mp told)

theorem parent?_outside {t : Tree} (wellFormed : t.WellFormed) {id : Nat}
    (outside : t.nodes.size ≤ id) : t.parent? id = none := by
  refine Option.eq_none_iff_forall_ne_some.mpr fun p told => ?_
  have child := (parent?_iff wellFormed).mp told
  have below := wellFormed.descends p id child
  have inside := parent_lt child
  omega

theorem ancestorsWithin_stable {t : Tree} (wellFormed : t.WellFormed) {levels levels' id : Nat}
    (enough : t.nodes.size ≤ id + levels) (enough' : t.nodes.size ≤ id + levels') :
    t.ancestorsWithin levels id = t.ancestorsWithin levels' id := by
  induction levels generalizing levels' id with
  | zero =>
    have orphan : t.parent? id = none := parent?_outside wellFormed enough
    cases levels' with
    | zero => rfl
    | succ levels' => rw [ancestorsWithin, ancestorsWithin, orphan]
  | succ levels ih =>
    cases levels' with
    | zero =>
      have orphan : t.parent? id = none := parent?_outside wellFormed enough'
      rw [ancestorsWithin, ancestorsWithin, orphan]
    | succ levels' =>
      rw [ancestorsWithin, ancestorsWithin]
      cases told : t.parent? id with
      | none => rfl
      | some p =>
        have below := wellFormed.descends p id ((parent?_iff wellFormed).mp told)
        have rest : t.ancestorsWithin levels p = t.ancestorsWithin levels' p :=
          ih (by omega) (by omega)
        simp only [rest]

theorem ancestors_root {t : Tree} (wellFormed : t.WellFormed) : t.ancestors t.root = [] := by
  have orphan := (parent?_none_iff wellFormed (root_lt wellFormed)).mpr rfl
  rw [ancestors]
  cases t.nodes.size with
  | zero => rfl
  | succ levels => rw [ancestorsWithin, orphan]

theorem ancestors_child {t : Tree} (wellFormed : t.WellFormed) {c p : Nat}
    (child : c ∈ t.children p) : t.ancestors c = p :: t.ancestors p := by
  have below := wellFormed.descends p c child
  have inside := parent_lt child
  obtain ⟨levels, size⟩ : ∃ levels, t.nodes.size = levels + 1 := ⟨t.nodes.size - 1, by omega⟩
  have rest : t.ancestorsWithin levels p = t.ancestors p :=
    ancestorsWithin_stable wellFormed (by omega) (by omega)
  rw [ancestors, size, ancestorsWithin, (parent?_iff wellFormed).mpr child]
  simp only [rest]

theorem descend_induction {t : Tree} (wellFormed : t.WellFormed) {motive : NodeId → Prop}
    (atRoot : motive t.root) (step : ∀ p c, c ∈ t.children p → motive p → motive c) :
    ∀ id < t.nodes.size, motive id := by
  intro id
  induction rest : t.nodes.size - id using Nat.strongRecOn generalizing id with
  | ind k ih =>
    intro bound
    by_cases isRoot : id = t.root
    · rw [isRoot]
      exact atRoot
    · obtain ⟨p, child⟩ := has_parent wellFormed bound isRoot
      have below : (id : Nat) < p := wellFormed.descends p id child
      have inside := parent_lt child
      exact step p id child (ih (t.nodes.size - p) (by omega) p rfl inside)

end Parents

section Order

variable {t : Tree} (wellFormed : t.WellFormed)
include wellFormed

theorem preorder_cases {id a : Nat} (member : a ∈ t.preorder id) :
    a = id ∨ a < id ∧ ∃ p ∈ t.preorder id, a ∈ t.children p := by
  induction id using Nat.strongRecOn with
  | ind id ih =>
    rw [preorder_eq wellFormed] at member ⊢
    rcases List.mem_cons.mp member with same | below
    · exact Or.inl same
    · obtain ⟨c, child, inside⟩ := List.mem_flatMap.mp below
      have lower := wellFormed.descends id c child
      rcases ih c lower inside with rfl | ⟨less, p, listed, parent⟩
      · exact Or.inr ⟨lower, id, List.mem_cons_self, child⟩
      · refine Or.inr ⟨Nat.lt_trans less lower, p, ?_, parent⟩
        exact List.mem_cons_of_mem id (List.mem_flatMap.mpr ⟨c, child, listed⟩)

theorem preorder_le {id a : Nat} (member : a ∈ t.preorder id) : a ≤ id := by
  rcases preorder_cases wellFormed member with same | ⟨less, -⟩
  · exact Nat.le_of_eq same
  · exact Nat.le_of_lt less

theorem preorder_sublist : ∀ id < t.nodes.size, (t.preorder id).Sublist t.walk := by
  refine descend_induction wellFormed (List.Sublist.refl _) ?_
  intro p c child above
  have inside : (t.preorder c).Sublist ((t.children p).flatMap t.preorder) := by
    rw [List.flatMap_def]
    exact List.sublist_flatten_of_mem (List.mem_map_of_mem child)
  rw [preorder_eq wellFormed p] at above
  exact (inside.cons p).trans above

theorem children_sublist (id : NodeId) : (t.children id).Sublist (t.preorder id) := by
  have each : ∀ ids : List NodeId, ids.Sublist (ids.flatMap t.preorder) := by
    intro ids
    induction ids with
    | nil => exact List.Sublist.refl _
    | cons c ids ih =>
      rw [List.flatMap_cons, preorder_eq wellFormed, List.cons_append]
      exact (ih.trans (List.sublist_append_right _ _)).cons_cons c
  rw [preorder_eq wellFormed]
  exact (each (t.children id)).cons id

theorem preorder_parents_first {id : Nat} (bound : id < t.nodes.size) :
    (t.preorder id).Pairwise fun a b => a ∉ t.children b := by
  induction id using Nat.strongRecOn with
  | ind id ih =>
    have distinct : (t.preorder id).Nodup :=
      ((walk_perm wellFormed).nodup_iff.mpr List.nodup_range).sublist
        (preorder_sublist wellFormed id bound)
    rw [preorder_eq wellFormed] at distinct ⊢
    have apart := (List.nodup_flatMap.mp (List.nodup_cons.mp distinct).2).2
    rw [List.pairwise_cons]
    constructor
    · intro b below child
      obtain ⟨c, own, inside⟩ := List.mem_flatMap.mp below
      have := wellFormed.descends id c own
      have := wellFormed.descends b id child
      have := preorder_le wellFormed inside
      omega
    · rw [List.pairwise_flatMap]
      constructor
      · intro c child
        have := wellFormed.descends id c child
        exact ih c this (by omega)
      · apply apart.imp_of_mem
        intro c d first second disjoint a inC b inD child
        -- The parent of `a` is listed with `a` or it is the node at the top.
        rcases preorder_cases wellFormed inC with rfl | ⟨-, p, listed, parent⟩
        · obtain rfl := parent_unique wellFormed first child
          have := wellFormed.descends _ d second
          have := preorder_le wellFormed inD
          omega
        · rw [parent_unique wellFormed child parent] at inD
          exact disjoint listed inD

theorem parent_before {done rest : List NodeId} {p id : NodeId}
    (split : t.walk = done ++ id :: rest) (child : id ∈ t.children p) : p ∈ done := by
  have order := preorder_parents_first wellFormed (root_lt wellFormed)
  rw [show t.preorder t.root = t.walk from rfl, split] at order
  have visited : p ∈ t.walk := by
    rw [(walk_perm wellFormed).mem_iff, List.mem_range]
    exact parent_lt child
  rw [split] at visited
  rcases List.mem_append.mp visited with before | later
  · exact before
  · rcases List.mem_cons.mp later with same | after
    · rw [same] at child
      exact absurd (wellFormed.descends id id child) (Nat.lt_irrefl id)
    · have late := (List.pairwise_cons.mp (List.pairwise_append.mp order).2.1).1 p after
      exact absurd child late

end Order

end Tree

/-- Lowering any concrete tree gives a proper tree: parents have greater numbers than their
children, each node but the root has exactly one parent, which the table of parents tells, and the
walk in pre-order meets every node once. -/
theorem lowered_tree_is_proper (source : Text) (root : Concrete) :
    let t := root.toTree source
    (∀ p c : Nat, c ∈ t.children p → c < p) ∧
      (∀ p, (t.children p).Nodup) ∧
      (∀ p q c, c ∈ t.children p → c ∈ t.children q → p = q) ∧
      (∀ c p, t.parent? c = some p ↔ c ∈ t.children p) ∧
      (t.root < t.nodes.size ∧ ∀ id < t.nodes.size, t.parent? id = none ↔ id = t.root) ∧
      (∀ id, t.preorder id = id :: (t.children id).flatMap t.preorder) ∧
      t.stackOrder t.nodes.size [t.root] = t.preorder t.root ∧
      (t.preorder t.root).Perm (List.range t.nodes.size) := by
  have wellFormed := Tree.wellFormed_of_forest (toTree_forest source root)
  exact ⟨wellFormed.descends, Tree.children_nodup wellFormed,
    fun _ _ _ => Tree.parent_unique wellFormed, fun _ _ => Tree.parent?_iff wellFormed,
    ⟨Tree.root_lt wellFormed, fun _ => Tree.parent?_none_iff wellFormed⟩,
    Tree.preorder_eq wellFormed, Tree.stackOrder_root wellFormed, Tree.walk_perm wellFormed⟩

end ScriptLint
