import Mathlib
import ScriptLint.Lint.Dispatch
import ScriptLint.Proofs.Lists

/-!
Dispatch by the table and dispatch by asking every visitor agree.

The registrations of a tag stand in the order of their visitors. So the table calls, for each node
of the walk, the visitors with a selector that accepts the node, each once and in order.
-/
namespace ScriptLint

namespace DispatchTable

def registered (table : DispatchTable) (tag : NodeTag) : List Registration :=
  (table.lookup tag).getD []

theorem targets_eq_registered (table : DispatchTable) (tag : NodeTag) (parent : Option NodeTag) :
    table.targets tag parent =
      (((table.registered tag).filter fun r => r.parent.isNone || r.parent == parent).map
        (·.visitor)).eraseDups := by
  rw [targets, registered]
  cases table.lookup tag <;> rfl

theorem registered_register (tag : NodeTag) (r : Registration) (table : DispatchTable)
    (asked : NodeTag) :
    (register tag r table).registered asked =
      if asked = tag ∧ r ∉ table.registered asked then table.registered asked ++ [r]
      else table.registered asked := by
  induction table with
  | nil =>
    by_cases same : asked = tag
    · simp [register, registered, same]
    · have other : (asked == tag) = false := beq_false_of_ne same
      simp [register, registered, List.lookup_cons, other, same]
  | cons entry table ih =>
    obtain ⟨known, rs⟩ := entry
    rw [register]
    simp only [registered] at ih ⊢
    by_cases here : known = tag
    · rw [if_pos here]
      by_cases same : asked = known
      · simp only [List.lookup_cons, same, here, true_and, List.contains_iff_mem]
        by_cases member : r ∈ rs <;> simp [member]
      · have other : (asked == known) = false := beq_false_of_ne same
        have elsewhere : asked ≠ tag := fun eq => same (eq.trans here.symm)
        simp [List.lookup_cons, other, elsewhere]
    · rw [if_neg here]
      by_cases same : asked = known
      · have first : (asked == known) = true := beq_iff_eq.mpr same
        have elsewhere : asked ≠ tag := fun eq => here (same.symm.trans eq)
        simp [List.lookup_cons, first, elsewhere]
      · have other : (asked == known) = false := beq_false_of_ne same
        simp only [List.lookup_cons, other]
        exact ih

theorem mem_register (i : Nat) (s : Selector) (table : DispatchTable) (tag : NodeTag)
    (r : Registration) : r ∈ (register s.tag ⟨i, s.parent⟩ table).registered tag ↔
      r ∈ table.registered tag ∨ (r.visitor = i ∧ s = ⟨tag, r.parent⟩) := by
  obtain ⟨visitor, parent⟩ := r
  obtain ⟨wanted, above⟩ := s
  rw [registered_register]
  split
  · rename_i new
    simp only [List.mem_append, List.mem_singleton, Registration.mk.injEq, Selector.mk.injEq,
      new.1]
    grind
  · rename_i old
    simp only [Selector.mk.injEq]
    grind

/-- The registrations of each tag stand in the order of their visitors, none of them after `i`. -/
structure Ordered (table : DispatchTable) (i : Nat) : Prop where
  sorted : ∀ tag, (table.registered tag).Pairwise fun a b => a.visitor ≤ b.visitor
  bound : ∀ tag, ∀ r ∈ table.registered tag, r.visitor ≤ i

theorem ordered_empty (i : Nat) : Ordered [] i := ⟨by simp [registered], by simp [registered]⟩

theorem Ordered.succ {table : DispatchTable} {i : Nat} (ordered : table.Ordered i) :
    table.Ordered (i + 1) :=
  ⟨ordered.sorted, fun tag r member => Nat.le_succ_of_le (ordered.bound tag r member)⟩

theorem Ordered.register {table : DispatchTable} {i : Nat} (ordered : table.Ordered i)
    (s : Selector) : (register s.tag ⟨i, s.parent⟩ table).Ordered i := by
  refine ⟨?_, ?_⟩
  · intro tag
    rw [registered_register]
    split
    · refine List.pairwise_append.mpr ⟨ordered.sorted tag, List.pairwise_singleton _ _, ?_⟩
      intro a old b new
      rw [List.mem_singleton.mp new]
      exact ordered.bound tag a old
    · exact ordered.sorted tag
  · intro tag r member
    rcases (mem_register i s table tag r).mp member with old | ⟨same, -⟩
    · exact ordered.bound tag r old
    · exact Nat.le_of_eq same

theorem register_visitor {table : DispatchTable} {i : Nat} (ordered : table.Ordered i)
    (selectors : List Selector) :
    let after := selectors.foldl (fun table s => register s.tag ⟨i, s.parent⟩ table) table
    after.Ordered i ∧ ∀ tag r, r ∈ after.registered tag ↔
      r ∈ table.registered tag ∨ (r.visitor = i ∧ ⟨tag, r.parent⟩ ∈ selectors) := by
  induction selectors generalizing table with
  | nil => exact ⟨ordered, by simp⟩
  | cons s selectors ih =>
    obtain ⟨later, members⟩ := ih (ordered.register s)
    refine ⟨later, ?_⟩
    intro tag r
    rw [List.foldl_cons, members, mem_register, List.mem_cons]
    grind

theorem register_all {table : DispatchTable} {k : Nat} (ordered : table.Ordered k)
    (visitors : List (List Selector)) :
    let after := (visitors.zipIdx k).foldl (fun table (selectors, i) =>
      selectors.foldl (fun table s => register s.tag ⟨i, s.parent⟩ table) table) table
    (∀ tag, (after.registered tag).Pairwise fun a b => a.visitor ≤ b.visitor) ∧
      ∀ tag r, r ∈ after.registered tag ↔ r ∈ table.registered tag ∨
        ∃ selectors, (selectors, r.visitor) ∈ visitors.zipIdx k ∧ ⟨tag, r.parent⟩ ∈ selectors := by
  induction visitors generalizing k table with
  | nil => exact ⟨ordered.sorted, by simp⟩
  | cons selectors visitors ih =>
    obtain ⟨next, first⟩ := register_visitor ordered selectors
    obtain ⟨sorted, members⟩ := ih next.succ
    refine ⟨sorted, ?_⟩
    intro tag r
    rw [List.zipIdx_cons, List.foldl_cons, members, first, or_assoc]
    refine or_congr_right ?_
    simp only [List.mem_cons, Prod.mk.injEq]
    grind

/-- The table finds the visitors with a selector that accepts the node, in order. -/
theorem targets_eq (visitors : List (List Selector)) (tag : NodeTag) (parent : Option NodeTag) :
    (ofSelectors visitors).targets tag parent =
      (visitors.zipIdx.filter fun v => v.1.any (·.accepts tag parent)).map Prod.snd := by
  obtain ⟨ordered, exact⟩ := register_all (ordered_empty 0) visitors
  change ∀ tag, ((ofSelectors visitors).registered tag).Pairwise _ at ordered
  have members : ∀ r, r ∈ (ofSelectors visitors).registered tag ↔
      ∃ selectors, (selectors, r.visitor) ∈ visitors.zipIdx ∧ ⟨tag, r.parent⟩ ∈ selectors := by
    intro r
    refine (exact tag r).trans ?_
    simp [registered]
  rw [targets_eq_registered]
  have increasing : ((((ofSelectors visitors).registered tag).filter fun r =>
      r.parent.isNone || r.parent == parent).map (·.visitor)).eraseDups.Pairwise (· < ·) :=
    eraseDups_increasing (List.pairwise_map.mpr ((ordered tag).sublist List.filter_sublist))
  have increasing' : ((visitors.zipIdx.filter fun v => v.1.any (·.accepts tag parent)).map
      Prod.snd).Pairwise (· < ·) := by
    have numbers : (visitors.zipIdx.map Prod.snd).Pairwise (· < ·) := by
      rw [List.zipIdx_map_snd]
      exact List.pairwise_lt_range'
    exact numbers.sublist (List.filter_sublist.map _)
  refine List.Perm.eq_of_pairwise (fun a b _ _ less more => ?_) increasing increasing' ?_
  · omega
  · refine (List.perm_ext_iff_of_nodup (increasing.imp Nat.ne_of_lt)
      (increasing'.imp Nat.ne_of_lt)).mpr fun i => ?_
    simp only [List.mem_eraseDups, List.mem_map, List.mem_filter, members, List.any_eq_true,
      Selector.accepts, Prod.exists, Bool.and_eq_true, beq_iff_eq]
    constructor
    · rintro ⟨r, ⟨⟨selectors, listed, asked⟩, fits⟩, rfl⟩
      exact ⟨selectors, r.visitor, ⟨listed, _, asked, rfl, fits⟩, rfl⟩
    · rintro ⟨selectors, i, ⟨listed, ⟨wanted, above⟩, asked, rfl, fits⟩, rfl⟩
      exact ⟨⟨i, above⟩, ⟨⟨selectors, listed, asked⟩, fits⟩, rfl⟩

end DispatchTable

def rowOfVisits (t : Tree) (visitors : List (List Selector × Nat)) (id : NodeId) : List Visit :=
  (visitors.filter fun v => v.1.any (·.accepts (t.tag id) (t.parentTag? id))).map fun v => ⟨v.2, id⟩

theorem visits_eq (t : Tree) (visitors : List (List Selector)) :
    t.visits visitors = t.walk.flatMap (rowOfVisits t visitors.zipIdx) := by
  refine List.flatMap_congr fun id _ => ?_
  rw [DispatchTable.targets_eq, List.map_map]
  rfl

end ScriptLint
