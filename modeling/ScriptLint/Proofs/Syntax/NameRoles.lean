import ScriptLint.Proofs.Syntax.Declarations

/-!
Every identifier has one role.

An identifier declares a variable, names something that is no variable, refers to a variable, or
refers to nothing that the file declares; then it is a known global name or unresolved. The table
of scopes lists it accordingly, once or not at all.
-/
namespace ScriptLint

namespace ScopeTable

def declaredAs (s : ScopeTable) (id : NodeId) : List Variable :=
  s.allVariables.filter fun v => v.identifiers.contains id

def initializedAs (s : ScopeTable) (id : NodeId) : List Variable :=
  s.allVariables.filter fun v => v.references.contains ⟨id, true⟩

def Silent (s : ScopeTable) (id : NodeId) : Prop :=
  s.declaredAs id = [] ∧ s.recordedWith id = [] ∧ s.initializedAs id = [] ∧ id ∉ s.unresolved

def Visible (s : ScopeTable) (t : Tree) (id : NodeId) (name : Text) : Prop :=
  ∃ v ∈ s.allVariables, v.name = name ∧ v.scope <:+ t.scopesAround id

section Lookup

theorem lookup?_some {keys : List Key} {name : Text} {chain : ScopeChain} {key : Key}
    (found : lookup? keys name chain = some key) : key.2 = name ∧ key.1 <:+ chain := by
  induction chain with
  | nil => simp [lookup?] at found
  | cons scope outer ih =>
    rw [lookup?] at found
    split at found
    · obtain rfl := Option.some.inj found
      exact ⟨rfl, List.suffix_rfl⟩
    · obtain ⟨named, suffix⟩ := ih found
      exact ⟨named, suffix.trans (List.suffix_cons _ _)⟩

theorem lookup?_none {keys : List Key} {name : Text} {chain : ScopeChain}
    (missing : lookup? keys name chain = none) {scope : ScopeChain} (nonempty : scope ≠ [])
    (suffix : scope <:+ chain) : (scope, name) ∉ keys := by
  induction chain with
  | nil => exact absurd (List.suffix_nil.mp suffix) nonempty
  | cons first outer ih =>
    rw [lookup?] at missing
    split at missing
    · simp at missing
    · rename_i unknown
      rcases List.suffix_cons_iff.mp suffix with rfl | later
      · intro member
        exact unknown (List.contains_iff_mem.mpr member)
      · exact ih missing later

theorem lookup?_none_iff {t : Tree} (wellFormed : t.WellFormed) (globals : List Text)
    (id : NodeId) (name : Text) :
    lookup? (keysOf t) name (t.scopesAround id) = none ↔
      ¬ (ofTree t globals).Visible t id name := by
  constructor
  · rintro missing ⟨v, member, rfl, suffix⟩
    rw [ofTree_allVariables] at member
    obtain ⟨key, known, rfl⟩ := List.mem_map.mp member
    obtain ⟨b, bound, rfl⟩ := mem_keysOf.mp known
    exact lookup?_none missing (Tree.bindings_canonical wellFormed bound).1 suffix known
  · intro hidden
    cases found : lookup? (keysOf t) name (t.scopesAround id) with
    | none => rfl
    | some key =>
      obtain ⟨named, suffix⟩ := lookup?_some found
      refine absurd ⟨variableOf t.bindings (resolvedOf t) key, ?_, named, suffix⟩ hidden
      rw [ofTree_allVariables]
      exact List.mem_map_of_mem (lookup?_mem found)

end Lookup

section Bindings

variable {t : Tree}

theorem mem_identifiers_iff {key : Key} {x : NodeId} :
    x ∈ (variableOf t.bindings (resolvedOf t) key).identifiers ↔
      ∃ b ∈ t.bindings, keyOf b = key ∧ b.identifier = x := by
  simp [variableOf, and_assoc]

theorem mem_firstValues {key : Key} {x : NodeId} :
    ⟨x, true⟩ ∈ (variableOf t.bindings (resolvedOf t) key).references ↔
      ∃ b ∈ t.bindings, keyOf b = key ∧ b.initialized = true ∧ b.identifier = x := by
  simp [variableOf, and_assoc, and_left_comm]

theorem declaredAs_binding (wellFormed : t.WellFormed) (globals : List Text) {b : Binding}
    (member : b ∈ t.bindings) :
    (ofTree t globals).declaredAs b.identifier =
      [variableOf t.bindings (resolvedOf t) (keyOf b)] := by
  refine filter_variables t globals (mem_keysOf.mpr ⟨b, member, rfl⟩) fun other _ => ?_
  rw [List.contains_iff_mem, mem_identifiers_iff]
  constructor
  · rintro ⟨b', member', rfl, same⟩
    rw [Tree.bindings_inj wellFormed member' member same]
  · rintro rfl
    exact ⟨b, member, rfl, rfl⟩

theorem declaredAs_free (globals : List Text) {x : NodeId}
    (free : x ∉ t.bindings.map (·.identifier)) : (ofTree t globals).declaredAs x = [] := by
  refine List.filter_eq_nil_iff.mpr fun v member lists => free ?_
  rw [ofTree_allVariables] at member
  obtain ⟨key, -, rfl⟩ := List.mem_map.mp member
  obtain ⟨b, bound, -, rfl⟩ := mem_identifiers_iff.mp (List.contains_iff_mem.mp lists)
  exact List.mem_map_of_mem bound

theorem initializedAs_binding (wellFormed : t.WellFormed) (globals : List Text) {b : Binding}
    (member : b ∈ t.bindings) (set : b.initialized = true) :
    (ofTree t globals).initializedAs b.identifier =
      [variableOf t.bindings (resolvedOf t) (keyOf b)] := by
  refine filter_variables t globals (mem_keysOf.mpr ⟨b, member, rfl⟩) fun other _ => ?_
  rw [List.contains_iff_mem, mem_firstValues]
  constructor
  · rintro ⟨b', member', rfl, -, same⟩
    rw [Tree.bindings_inj wellFormed member' member same]
  · rintro rfl
    exact ⟨b, member, rfl, set, rfl⟩

theorem initializedAs_nil (globals : List Text) {x : NodeId}
    (unset : ∀ b ∈ t.bindings, b.initialized = true → b.identifier ≠ x) :
    (ofTree t globals).initializedAs x = [] := by
  refine List.filter_eq_nil_iff.mpr fun v member lists => ?_
  rw [ofTree_allVariables] at member
  obtain ⟨key, -, rfl⟩ := List.mem_map.mp member
  obtain ⟨b, bound, -, set, same⟩ := mem_firstValues.mp (List.contains_iff_mem.mp lists)
  exact unset b bound set same

theorem count_firstValues (wellFormed : t.WellFormed) {b : Binding} (member : b ∈ t.bindings)
    (set : b.initialized = true) :
    (variableOf t.bindings (resolvedOf t) (keyOf b)).references.count ⟨b.identifier, true⟩ = 1 := by
  have later : ∀ uses : List (NodeId × Option Key),
      (uses.map fun use => (⟨use.1, false⟩ : Reference)).count ⟨b.identifier, true⟩ = 0 := by
    intro uses
    refine List.count_eq_zero.mpr fun inside => ?_
    obtain ⟨use, -, same⟩ := List.mem_map.mp inside
    exact Bool.noConfusion (congrArg Reference.init same)
  rw [variableOf, List.count_append, later, Nat.add_zero]
  refine List.count_eq_one_of_mem ?_ ?_
  · -- The identifiers of all bindings are distinct, so those of some of them are.
    have distinct := Tree.bindings_identifiers_nodup wellFormed
    refine List.Nodup.of_map Reference.identifier ?_
    rw [List.map_map]
    exact distinct.sublist ((List.filter_sublist.trans List.filter_sublist).map _)
  · exact List.mem_map_of_mem
      (List.mem_filter.mpr ⟨List.mem_filter.mpr ⟨member, beq_self_eq_true _⟩, set⟩)

end Bindings

section Uses

variable {t : Tree}

theorem mem_unresolved {globals : List Text} {id : NodeId} :
    id ∈ (ofTree t globals).unresolved ↔
      ∃ use ∈ usesOf t t.bindings, use.identifier = id ∧
        lookup? (keysOf t) use.name use.chain = none ∧ isBuiltinGlobal use.name = false ∧
          use.name ∉ globals := by
  have listed : (ofTree t globals).unresolved = ((usesOf t t.bindings).filter fun use =>
      (lookup? (keysOf t) use.name use.chain).isNone && !isBuiltinGlobal use.name &&
        !globals.contains use.name).map (·.identifier) := rfl
  rw [listed, List.mem_map]
  refine exists_congr fun use => ?_
  simp only [List.mem_filter, Bool.and_eq_true, Option.isNone_iff_eq_none, Bool.not_eq_true',
    ← Bool.not_eq_true, List.contains_iff_mem]
  grind

theorem unresolved_nodup (wellFormed : t.WellFormed) (globals : List Text) :
    (ofTree t globals).unresolved.Nodup := by
  have once : (t.scopedNodes.map Prod.fst).Nodup :=
    (Tree.scopedNodes_perm wellFormed).nodup_iff.mpr List.nodup_range
  have uses := once.sublist (usesOf_sublist t t.bindings)
  exact uses.sublist (List.filter_sublist.map _)

theorem unused_unrecorded (globals : List Text) {id : NodeId}
    (unused : ∀ use ∈ usesOf t t.bindings, use.identifier ≠ id) :
    (ofTree t globals).recordedWith id = [] ∧ id ∉ (ofTree t globals).unresolved := by
  constructor
  · refine List.filter_eq_nil_iff.mpr fun v member lists => ?_
    rw [ofTree_allVariables] at member
    obtain ⟨key, -, rfl⟩ := List.mem_map.mp member
    rw [List.contains_iff_mem, ← List.count_pos_iff, count_references, List.count_pos_iff,
      resolvedOf] at lists
    obtain ⟨use, made, same⟩ := List.mem_map.mp lists
    exact unused use made (congrArg Prod.fst same)
  · intro listed
    obtain ⟨use, made, same, -⟩ := mem_unresolved.mp listed
    exact unused use made same

theorem use_unresolved_iff (wellFormed : t.WellFormed) (globals : List Text) {id : NodeId}
    {name : Text} (shape : t.kind id = .identifier name)
    (free : id ∉ t.bindings.map (·.identifier)) (position : t.isReferencePosition id = true) :
    id ∈ (ofTree t globals).unresolved ↔
      lookup? (keysOf t) name (t.scopesAround id) = none ∧ isBuiltinGlobal name = false ∧
        name ∉ globals := by
  rw [mem_unresolved]
  constructor
  · rintro ⟨use, made, rfl, rest⟩
    obtain ⟨entry, known, -, -⟩ := mem_usesOf.mp made
    obtain rfl := NodeKind.identifier.inj (shape.symm.trans known)
    obtain ⟨-, around⟩ := (Tree.mem_scopedNodes wellFormed).mp entry
    rwa [around] at rest
  · intro rest
    have bound : id < t.nodes.size := Tree.lt_of_kind (by simp [shape])
    have entry := (Tree.mem_scopedNodes wellFormed).mpr ⟨bound, rfl⟩
    exact ⟨⟨id, name, t.scopesAround id⟩, mem_usesOf.mpr ⟨entry, shape, free, position⟩, rfl, rest⟩

end Uses

end ScopeTable

inductive NameRole where
  | declaration
  /-- A key, a label or a name of another file. -/
  | outsideName
  | use
  | knownGlobal
  | undeclared
  deriving DecidableEq, Repr

/-- What the tree says about an identifier in a role, and how the table of scopes lists it. -/
def NameRole.Holds (t : Tree) (globals : List Text) (id : NodeId) (name : Text) :
    NameRole → Prop :=
  let s := ScopeTable.ofTree t globals
  let bound := ∃ node, t.Declares node id
  let known := isBuiltinGlobal name = true ∨ name ∈ globals
  fun
  | declaration => bound ∧
      (∃ v, s.declaredAs id = [v] ∧ v.name = name ∧ v.identifiers.count id = 1) ∧
        s.recordedWith id = [] ∧ id ∉ s.unresolved
  | outsideName => ¬ bound ∧ t.isReferencePosition id = false ∧ s.Silent id
  | use => ¬ bound ∧ t.isReferencePosition id = true ∧ s.declaredAs id = [] ∧
      (∃ v, s.recordedWith id = [v] ∧ v.name = name ∧ v.scope <:+ t.scopesAround id ∧
        v.references.count ⟨id, false⟩ = 1) ∧ s.initializedAs id = [] ∧ id ∉ s.unresolved
  | knownGlobal => ¬ bound ∧ t.isReferencePosition id = true ∧ ¬ s.Visible t id name ∧ known ∧
      s.Silent id
  | undeclared => ¬ bound ∧ t.isReferencePosition id = true ∧ ¬ s.Visible t id name ∧ ¬ known ∧
      s.declaredAs id = [] ∧ s.recordedWith id = [] ∧ s.initializedAs id = [] ∧
        s.unresolved.count id = 1

namespace NameRole

theorem holds_unique {t : Tree} {globals : List Text} {id : NodeId} {name : Text}
    {role role' : NameRole} (one : role.Holds t globals id name)
    (other : role'.Holds t globals id name) : role = role' := by
  cases role <;> cases role' <;> simp_all [Holds, ScopeTable.Silent]

theorem unbound_silent {t : Tree} (wellFormed : t.WellFormed) (globals : List Text) {id : NodeId}
    (unbound : ¬ ∃ node, t.Declares node id) :
    (ScopeTable.ofTree t globals).declaredAs id = [] ∧
      (ScopeTable.ofTree t globals).initializedAs id = [] := by
  have free : id ∉ t.bindings.map (·.identifier) := fun declaring =>
    unbound ((Tree.mem_bindings_identifiers wellFormed).mp declaring)
  refine ⟨ScopeTable.declaredAs_free globals free, ScopeTable.initializedAs_nil globals ?_⟩
  rintro b member - rfl
  exact free (List.mem_map_of_mem member)

section Cases

variable {t : Tree} (wellFormed : t.WellFormed) (globals : List Text) {id : NodeId} {name : Text}
  (shape : t.kind id = .identifier name)
include wellFormed shape

theorem holds_declaration (bound : ∃ node, t.Declares node id) :
    declaration.Holds t globals id name := by
  have declaring := (Tree.mem_bindings_identifiers wellFormed).mpr bound
  obtain ⟨b, member, rfl⟩ := List.mem_map.mp declaring
  have unused : ∀ use ∈ ScopeTable.usesOf t t.bindings, use.identifier ≠ b.identifier := by
    rintro use made same
    obtain ⟨-, -, free, -⟩ := ScopeTable.mem_usesOf.mp made
    rw [same] at free
    exact free declaring
  refine ⟨bound, ⟨_, ScopeTable.declaredAs_binding wellFormed globals member, ?_, ?_⟩,
    ScopeTable.unused_unrecorded globals unused⟩
  · exact NodeKind.identifier.inj ((Tree.binding_name member).symm.trans shape)
  · exact List.count_eq_one_of_mem (nodup_eraseDups _) (ScopeTable.mem_identifiers member)

theorem holds_outsideName (unbound : ¬ ∃ node, t.Declares node id)
    (elsewhere : t.isReferencePosition id = false) : outsideName.Holds t globals id name := by
  obtain ⟨undeclared, unset⟩ := unbound_silent wellFormed globals unbound
  have unused : ∀ use ∈ ScopeTable.usesOf t t.bindings, use.identifier ≠ id := by
    rintro use made rfl
    obtain ⟨-, -, -, position⟩ := ScopeTable.mem_usesOf.mp made
    rw [elsewhere] at position
    exact Bool.noConfusion position
  obtain ⟨unrecorded, resolved⟩ := ScopeTable.unused_unrecorded globals unused
  exact ⟨unbound, elsewhere, undeclared, unrecorded, unset, resolved⟩

theorem holds_reference (unbound : ¬ ∃ node, t.Declares node id)
    (position : t.isReferencePosition id = true) :
    use.Holds t globals id name ∨ knownGlobal.Holds t globals id name ∨
      undeclared.Holds t globals id name := by
  obtain ⟨undeclared, unset⟩ := unbound_silent wellFormed globals unbound
  have free : id ∉ t.bindings.map (·.identifier) := fun declaring =>
    unbound ((Tree.mem_bindings_identifiers wellFormed).mp declaring)
  have inside : id < t.nodes.size := Tree.lt_of_kind (by simp [shape])
  have entry := (Tree.mem_scopedNodes wellFormed).mpr ⟨inside, rfl⟩
  have recorded := ScopeTable.recordedWith_around wellFormed globals entry shape free position
  have unresolved := ScopeTable.use_unresolved_iff wellFormed globals shape free position
  cases found : ScopeTable.lookup? (ScopeTable.keysOf t) name (t.scopesAround id) with
  | some key =>
    rw [found] at recorded unresolved
    obtain ⟨named, suffix⟩ := ScopeTable.lookup?_some found
    refine Or.inl ⟨unbound, position, undeclared, ⟨_, recorded, named, suffix, ?_⟩, unset, ?_⟩
    · rw [ScopeTable.count_references]
      refine List.count_eq_one_of_mem (ScopeTable.resolvedOf_nodup wellFormed) ?_
      rw [ScopeTable.mem_resolvedOf_around wellFormed entry shape free position, found]
    · intro listed
      simp [unresolved] at listed
  | none =>
    rw [found] at recorded unresolved
    have hidden := (ScopeTable.lookup?_none_iff wellFormed globals id name).mp found
    by_cases known : isBuiltinGlobal name = true ∨ name ∈ globals
    · refine Or.inr (Or.inl ⟨unbound, position, hidden, known, undeclared, recorded, unset, ?_⟩)
      intro listed
      obtain ⟨-, notBuiltin, notGlobal⟩ := unresolved.mp listed
      rcases known with builtin | extra
      · rw [notBuiltin] at builtin
        exact Bool.noConfusion builtin
      · exact notGlobal extra
    · refine Or.inr (Or.inr ⟨unbound, position, hidden, known, undeclared, recorded, unset, ?_⟩)
      refine List.count_eq_one_of_mem (ScopeTable.unresolved_nodup wellFormed globals) ?_
      rw [not_or, Bool.not_eq_true] at known
      exact unresolved.mpr ⟨rfl, known⟩

end Cases

end NameRole

namespace ScopeTable

theorem variables_distinct {t : Tree} (wellFormed : t.WellFormed) (globals : List Text) :
    (ofTree t globals).allVariables.Pairwise fun v w =>
      ¬ (v.scope.head? = w.scope.head? ∧ v.name = w.name) := by
  rw [ofTree_allVariables, List.pairwise_map]
  refine (keysOf_nodup t).imp_of_mem ?_
  rintro ⟨scope, name⟩ ⟨scope', name'⟩ known known' apart ⟨heads, names⟩
  -- A chain is told by its first scope, so the keys would be equal.
  have same := Tree.canonical_unique wellFormed (keysOf_canonical wellFormed known)
    (keysOf_canonical wellFormed known') heads
  exact apart (Prod.ext same names)

theorem firstValues_exact {t : Tree} (wellFormed : t.WellFormed) (globals : List Text)
    (x : NodeId) :
    (t.Initializes x → ∃ v, (ofTree t globals).declaredAs x = [v] ∧
      (ofTree t globals).initializedAs x = [v] ∧ v.references.count ⟨x, true⟩ = 1) ∧
    (¬ t.Initializes x → (ofTree t globals).initializedAs x = []) := by
  constructor
  · intro initializes
    obtain ⟨node, kind, declarations, d, p, value, shape, listed, declarator, named⟩ := initializes
    have declares : t.Declares node x := by
      refine Or.inr ⟨p, ?_, named⟩
      rw [Tree.declaredPatterns, shape]
      refine List.mem_flatMap.mpr ⟨d, listed, ?_⟩
      rw [Tree.declaratorPattern?, declarator]
      exact List.mem_singleton_self _
    obtain ⟨b, member, rfl⟩ :=
      List.mem_map.mp ((Tree.mem_bindings_identifiers wellFormed).mpr ⟨node, declares⟩)
    have set := (Tree.initialized_iff wellFormed member).mpr
      ⟨node, kind, declarations, d, p, value, shape, listed, declarator, named⟩
    exact ⟨_, declaredAs_binding wellFormed globals member,
      initializedAs_binding wellFormed globals member set,
      count_firstValues wellFormed member set⟩
  · intro uninitialized
    refine initializedAs_nil globals ?_
    rintro b member set rfl
    exact uninitialized ((Tree.initialized_iff wellFormed member).mp set)

/-- No identifier is lost or counted twice. Each one that the walk reaches has exactly one role,
no two variables have both scope and name in common, and the first values are those of the
declarators that give one. -/
theorem identifiers_counted_once {t : Tree} (wellFormed : t.WellFormed) (globals : List Text) :
    let s := ofTree t globals
    (∀ id ∈ t.walk, ∀ name, t.kind id = .identifier name →
        ∃! role : NameRole, role.Holds t globals id name) ∧
      (s.allVariables.Pairwise fun v w =>
        ¬ (v.scope.head? = w.scope.head? ∧ v.name = w.name)) ∧
      ∀ x, (t.Initializes x → ∃ v, s.declaredAs x = [v] ∧ s.initializedAs x = [v] ∧
          v.references.count ⟨x, true⟩ = 1) ∧
        (¬ t.Initializes x → s.initializedAs x = []) := by
  refine ⟨?_, variables_distinct wellFormed globals, firstValues_exact wellFormed globals⟩
  intro id _ name shape
  have some_role : ∃ role : NameRole, role.Holds t globals id name := by
    by_cases bound : ∃ node, t.Declares node id
    · exact ⟨_, NameRole.holds_declaration wellFormed globals shape bound⟩
    · cases position : t.isReferencePosition id with
      | false => exact ⟨_, NameRole.holds_outsideName wellFormed globals shape bound position⟩
      | true =>
        rcases NameRole.holds_reference wellFormed globals shape bound position with
          role | role | role
        · exact ⟨_, role⟩
        · exact ⟨_, role⟩
        · exact ⟨_, role⟩
  obtain ⟨role, holds⟩ := some_role
  exact ⟨role, holds, fun other holds' => NameRole.holds_unique holds' holds⟩

/-- `var n = 1; n; Math.k; q;` -/
def fiveNames : Tree where
  nodes := #[
    ⟨.identifier ['n'], none⟩, ⟨.literal ['1'], none⟩, ⟨.variableDeclarator 0 (some 1), none⟩,
    ⟨.variableDeclaration .var [2], none⟩, ⟨.identifier ['n'], none⟩,
    ⟨.identifier ['M', 'a', 't', 'h'], none⟩, ⟨.identifier ['k'], none⟩,
    ⟨.memberExpression 5 6 false, none⟩, ⟨.identifier ['q'], none⟩, ⟨.program [3, 4, 7, 8], none⟩]
  root := 9

theorem five_names_counted_once :
    fiveNames.WellFormed ∧ (ofTree fiveNames []).unresolved = [8] ∧
      (∃! role : NameRole, role.Holds fiveNames [] 0 ['n']) ∧
      (∃! role : NameRole, role.Holds fiveNames [] 4 ['n']) ∧
      (∃! role : NameRole, role.Holds fiveNames [] 5 ['M', 'a', 't', 'h']) ∧
      (∃! role : NameRole, role.Holds fiveNames [] 6 ['k']) ∧
      (∃! role : NameRole, role.Holds fiveNames [] 8 ['q']) ∧
      ∃ v, (ofTree fiveNames []).initializedAs 0 = [v] := by
  have wellFormed : fiveNames.WellFormed := of_decide_eq_true (by cbv)
  obtain ⟨roles, -, values⟩ := identifiers_counted_once wellFormed []
  have first : fiveNames.Initializes 0 :=
    ⟨3, .var, [2], 2, 0, 1, rfl, List.mem_singleton_self _, rfl, .refl, rfl⟩
  obtain ⟨v, -, set, -⟩ := (values 0).1 first
  exact ⟨wellFormed, by cbv, roles 0 (by decide) _ rfl, roles 4 (by decide) _ rfl,
    roles 5 (by decide) _ rfl, roles 6 (by decide) _ rfl, roles 8 (by decide) _ rfl, v, set⟩

end ScopeTable

end ScriptLint
