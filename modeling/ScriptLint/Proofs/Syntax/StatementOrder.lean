import ScriptLint.Proofs.Syntax.NameRoles

/-!
The order of statements does not matter to names.

Only the list of the program's statements differs between a tree and the same tree with its
statements in another order, and nothing that decides about scopes and bindings reads that list but
the walk. The walk meets the same nodes with the same chains around them, in another order.
-/
namespace ScriptLint

namespace Tree

def withBody (t : Tree) (body : List NodeId) : Tree where
  nodes := t.nodes.modify t.root fun node => { node with kind := .program body }
  root := t.root

@[simp] theorem withBody_size (t : Tree) (body : List NodeId) :
    (t.withBody body).nodes.size = t.nodes.size :=
  Array.size_modify

section Reordered

variable {t : Tree} {body body' : List NodeId} (shape : t.kind t.root = .program body)
include shape

theorem withBody_kind (body' : List NodeId) (id : NodeId) :
    (t.withBody body').kind id = t.kind id ∨
      (t.withBody body').kind id = .program body' ∧ t.kind id = .program body := by
  by_cases isRoot : id = t.root
  · right
    subst isRoot
    have inside : t.root < t.nodes.size := lt_of_kind (by simp [shape])
    constructor
    · rw [kind, withBody, Array.getElem?_modify, if_pos rfl, Array.getElem?_eq_getElem inside]
      rfl
    · exact shape
  · left
    rw [kind, withBody, Array.getElem?_modify, if_neg (Ne.symm isRoot), kind]

theorem withBody_tag (id : NodeId) : (t.withBody body').tag id = t.tag id := by
  rcases withBody_kind shape body' id with same | ⟨new, old⟩
  · rw [tag, tag, same]
  · rw [tag, tag, new, old]
    rfl

theorem withBody_bind (scope : ScopeChain) (node : NodeId) (initialized : Bool) (id : NodeId) :
    (t.withBody body').bind scope node initialized id = t.bind scope node initialized id := by
  rcases withBody_kind shape body' id with same | ⟨new, old⟩
  · rw [bind, bind, same]
  · rw [bind, bind, new, old]

theorem withBody_patternParts (p : NodeId) :
    (t.withBody body').patternParts p = t.patternParts p := by
  have target : (t.withBody body').entryTarget = t.entryTarget := by
    funext entry
    rcases withBody_kind shape body' entry with same | ⟨new, old⟩
    · rw [entryTarget, entryTarget, same]
    · rw [entryTarget, entryTarget, new, old]
  rcases withBody_kind shape body' p with same | ⟨new, old⟩
  · rw [patternParts, patternParts, same, target]
  · rw [patternParts, patternParts, new, old]

theorem withBody_patternNames (p : NodeId) :
    (t.withBody body').patternNames p = t.patternNames p := by
  rw [patternNames, patternNames, withBody_size]
  generalize t.nodes.size + 1 = levels
  induction levels generalizing p with
  | zero => rfl
  | succ levels ih =>
    rw [patternNamesWithin_succ, patternNamesWithin_succ, withBody_tag shape,
      withBody_patternParts shape, funext ih]

theorem withBody_bindPattern (scope : ScopeChain) (node : NodeId) (initialized : Bool)
    (p : NodeId) :
    (t.withBody body').bindPattern scope node initialized p =
      t.bindPattern scope node initialized p := by
  rw [bindPattern, bindPattern, withBody_patternNames shape,
    funext (withBody_bind shape scope node initialized)]

variable (reordered : body'.Perm body)
include reordered

theorem withBody_children (p : NodeId) :
    ((t.withBody body').children p).Perm (t.children p) := by
  rcases withBody_kind shape body' p with same | ⟨new, old⟩
  · rw [children, children, same]
  · rw [children, children, new, old]
    exact reordered

variable (wellFormed : t.WellFormed)
include wellFormed

theorem withBody_wellFormed : (t.withBody body').WellFormed := by
  constructor
  · intro p c child
    exact wellFormed.descends p c ((withBody_children shape reordered p).mem_iff.mp child)
  · have lists := List.Perm.flatMap_left (List.range t.nodes.size)
      fun p _ => withBody_children shape reordered p
    rw [withBody_size]
    exact (lists.append_right _).trans wellFormed.cover

theorem withBody_parent? (id : NodeId) : (t.withBody body').parent? id = t.parent? id := by
  ext p
  rw [parent?_iff (withBody_wellFormed shape reordered wellFormed), parent?_iff wellFormed]
  exact (withBody_children shape reordered p).mem_iff

theorem withBody_opens? (id : NodeId) : (t.withBody body').opens? id = t.opens? id := by
  have parentTag : (t.withBody body').parentTag? id = t.parentTag? id := by
    rw [parentTag?, parentTag?, withBody_parent? shape reordered wellFormed,
      funext (withBody_tag shape)]
  rcases withBody_kind shape body' id with same | ⟨new, old⟩
  · rw [opens?, opens?, same, parentTag]
  · rw [opens?, opens?, new, old]

theorem withBody_enter (outer : ScopeChain) (id : NodeId) :
    (t.withBody body').enter outer id = t.enter outer id := by
  rw [enter, enter, withBody_opens? shape reordered wellFormed]

theorem withBody_ancestors (id : NodeId) : (t.withBody body').ancestors id = t.ancestors id := by
  rw [ancestors, ancestors, withBody_size]
  generalize t.nodes.size = levels
  induction levels generalizing id with
  | zero => rfl
  | succ levels ih =>
    rw [ancestorsWithin, ancestorsWithin, withBody_parent? shape reordered wellFormed]
    cases t.parent? id with
    | none => rfl
    | some p => exact congrArg (p :: ·) (ih p)

theorem withBody_scopesAround (id : NodeId) :
    (t.withBody body').scopesAround id = t.scopesAround id := by
  rw [scopesAround, scopesAround, withBody_ancestors shape reordered wellFormed,
    funext (withBody_opens? shape reordered wellFormed)]
  rfl

theorem withBody_scopedNodes : (t.withBody body').scopedNodes.Perm t.scopedNodes := by
  have wellFormed' := withBody_wellFormed shape reordered wellFormed
  have once : ∀ {s : Tree}, s.WellFormed → s.scopedNodes.Nodup := by
    intro s proper
    exact .of_map _ ((scopedNodes_perm proper).nodup_iff.mpr List.nodup_range)
  rw [List.perm_ext_iff_of_nodup (once wellFormed') (once wellFormed)]
  rintro ⟨id, outer⟩
  rw [mem_scopedNodes wellFormed', mem_scopedNodes wellFormed, withBody_size,
    withBody_scopesAround shape reordered wellFormed]

theorem withBody_bindingsAt (id : NodeId) (outer : ScopeChain) :
    (t.withBody body').bindingsAt id outer = t.bindingsAt id outer := by
  have moduleScope : (t.withBody body').moduleScope = t.moduleScope := rfl
  rcases withBody_kind shape body' id with same | ⟨new, old⟩
  · rw [bindingsAt, bindingsAt, same]
    simp only [withBody_bind shape, funext (withBody_bindPattern shape _ _ _),
      withBody_enter shape reordered wellFormed, moduleScope]
    cases t.kind id with
    | variableDeclaration kind declarations =>
      -- Each declarator is read as well.
      apply List.flatMap_congr
      intro d _
      rcases withBody_kind shape body' d with alike | ⟨new, old⟩
      · rw [alike]
      · rw [new, old]
    | _ => rfl
  · rw [bindingsAt, bindingsAt, new, old]

theorem withBody_bindings : (t.withBody body').bindings.Perm t.bindings := by
  have made : (fun entry : NodeId × ScopeChain => (t.withBody body').bindingsAt entry.1 entry.2) =
      fun entry => t.bindingsAt entry.1 entry.2 := by
    funext entry
    exact withBody_bindingsAt shape reordered wellFormed entry.1 entry.2
  rw [bindings, bindings, made]
  exact (withBody_scopedNodes shape reordered wellFormed).flatMap_right _

theorem withBody_isReferencePosition (id : NodeId) :
    (t.withBody body').isReferencePosition id = t.isReferencePosition id := by
  rw [isReferencePosition, isReferencePosition, withBody_parent? shape reordered wellFormed]
  cases t.parent? id with
  | none => rfl
  | some p =>
    dsimp only
    rw [withBody_parent? shape reordered wellFormed]
    rcases withBody_kind shape body' p with same | ⟨new, old⟩
    · rw [same]
      cases t.kind p with
      | exportSpecifier origin exported =>
        -- An export is judged by the node above it, too.
        cases t.parent? p with
        | none => rfl
        | some q =>
          rcases withBody_kind shape body' q with alike | ⟨new, old⟩
          · simp only [Option.map_some, alike]
          · simp only [Option.map_some, new, old]
      | _ => rfl
    · rw [new, old]

end Reordered

end Tree

/-- The same variable in two tables, its identifiers and references listed in any order. -/
structure Variable.Matches (v w : Variable) : Prop where
  scope : v.scope = w.scope
  name : v.name = w.name
  identifiers : v.identifiers.Perm w.identifiers
  references : v.references.Perm w.references

def Variable.place (v : Variable) : Option NodeId × Text := (v.scope.head?.map Scope.node, v.name)

namespace ScopeTable

def targets (s : ScopeTable) (r : Reference) : List (Option NodeId × Text) :=
  (s.allVariables.filter (·.references.contains r)).map Variable.place

theorem lookup?_perm {keys keys' : List Key} (same : keys'.Perm keys) (name : Text)
    (chain : ScopeChain) : lookup? keys' name chain = lookup? keys name chain := by
  induction chain with
  | nil => rfl
  | cons scope outer ih => rw [lookup?, lookup?, same.contains_eq, ih]

theorem variableOf_matches {bindings bindings' : List Binding}
    {resolved resolved' : List (NodeId × Option Key)} (bound : bindings'.Perm bindings)
    (uses : resolved'.Perm resolved) (key : Key) :
    (variableOf bindings' resolved' key).Matches (variableOf bindings resolved key) where
  scope := rfl
  name := rfl
  identifiers := eraseDups_perm ((bound.filter _).map _)
  references := (((bound.filter _).filter _).map _).append ((uses.filter _).map _)

theorem places_of_matches {vars vars' : List Variable}
    (alike : List.Forall₂ Variable.Matches vars vars') (r : Reference) :
    (vars.filter (·.references.contains r)).map Variable.place =
      (vars'.filter (·.references.contains r)).map Variable.place := by
  induction alike with
  | nil => rfl
  | @cons v w _ _ here _ ih =>
    have place : v.place = w.place := by
      rw [Variable.place, here.scope, here.name]
      rfl
    rw [List.filter_cons, List.filter_cons, here.references.contains_eq]
    split
    · rw [List.map_cons, List.map_cons, place, ih]
    · exact ih

section Reordered

variable {t : Tree} {body body' : List NodeId} (wellFormed : t.WellFormed)
  (shape : t.kind t.root = .program body) (reordered : body'.Perm body)
include wellFormed shape reordered

theorem withBody_keysOf : (keysOf (t.withBody body')).Perm (keysOf t) :=
  eraseDups_perm ((Tree.withBody_bindings shape reordered wellFormed).map _)

theorem withBody_usesOf :
    (usesOf (t.withBody body') (t.withBody body').bindings).Perm (usesOf t t.bindings) := by
  have declaring := (Tree.withBody_bindings shape reordered wellFormed).map (·.identifier)
  have nodes := Tree.withBody_scopedNodes shape reordered wellFormed
  refine (List.Perm.of_eq (List.filterMap_congr ?_)).trans (nodes.filterMap _)
  rintro ⟨id, outer⟩ _
  dsimp only
  rw [declaring.contains_eq, Tree.withBody_isReferencePosition shape reordered wellFormed]
  rcases Tree.withBody_kind shape body' id with same | ⟨new, old⟩
  · rw [same]
  · rw [new, old]

theorem withBody_resolvedOf : (resolvedOf (t.withBody body')).Perm (resolvedOf t) := by
  have keys := withBody_keysOf wellFormed shape reordered
  simp only [resolvedOf, lookup?_perm keys]
  exact (withBody_usesOf wellFormed shape reordered).map _

end Reordered

/-- Statements in another order leave the same identifiers unresolved, give the same variables with
the same declaring identifiers, and refer to the same variables. -/
theorem resolution_ignores_statement_order {t : Tree} (wellFormed : t.WellFormed)
    {body body' : List NodeId} (shape : t.kind t.root = .program body)
    (reordered : body'.Perm body) (globals : List Text) :
    let s := ofTree t globals
    let s' := ofTree (t.withBody body') globals
    s'.unresolved.Perm s.unresolved ∧
      (∃ vars, s'.allVariables.Perm vars ∧ List.Forall₂ Variable.Matches vars s.allVariables) ∧
      ∀ r, (s'.targets r).Perm (s.targets r) := by
  intro s s'
  have keys := withBody_keysOf wellFormed shape reordered
  have variablesMatch : ∃ vars, s'.allVariables.Perm vars ∧
      List.Forall₂ Variable.Matches vars s.allVariables := by
    refine ⟨_, keys.map _, ?_⟩
    rw [ofTree_allVariables, List.forall₂_map_left_iff, List.forall₂_map_right_iff,
      List.forall₂_same]
    intro key _
    exact variableOf_matches (Tree.withBody_bindings shape reordered wellFormed)
      (withBody_resolvedOf wellFormed shape reordered) key
  have sameUnresolved : s'.unresolved.Perm s.unresolved := by
    have wellFormed' := Tree.withBody_wellFormed shape reordered wellFormed
    have uses := withBody_usesOf wellFormed shape reordered
    rw [List.perm_ext_iff_of_nodup (unresolved_nodup wellFormed' globals)
      (unresolved_nodup wellFormed globals)]
    intro id
    simp only [mem_unresolved, lookup?_perm keys, uses.mem_iff]
  obtain ⟨vars, listed, alike⟩ := variablesMatch
  refine ⟨sameUnresolved, ⟨vars, listed, alike⟩, ?_⟩
  intro r
  rw [targets, targets, ← places_of_matches alike]
  exact (listed.filter _).map _

theorem shadowing_ignores_statement_order :
    shadowing.WellFormed ∧ shadowing.kind shadowing.root = .program [2, 10] ∧
      [10, 2].Perm [2, 10] ∧
      (ofTree shadowing []).allVariables.map Variable.place =
        [(some 11, ['n']), (some 11, ['f']), (some 10, ['n'])] ∧
      (ofTree (shadowing.withBody [10, 2]) []).allVariables.map Variable.place =
        [(some 11, ['f']), (some 10, ['n']), (some 11, ['n'])] ∧
      ((ofTree (shadowing.withBody [10, 2]) []).targets ⟨8, false⟩).Perm [(some 10, ['n'])] := by
  have wellFormed : shadowing.WellFormed := of_decide_eq_true (by cbv)
  have swapped : [10, 2].Perm [2, 10] := List.Perm.swap 2 10 []
  obtain ⟨-, -, targets⟩ := resolution_ignores_statement_order wellFormed rfl swapped []
  have target : (ofTree shadowing []).targets ⟨8, false⟩ = [(some 10, ['n'])] := by cbv
  rw [← target]
  exact ⟨wellFormed, rfl, swapped, by cbv, by cbv, targets ⟨8, false⟩⟩

end ScopeTable

end ScriptLint
