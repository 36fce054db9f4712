import ScriptLint.Proofs.Lists
import ScriptLint.Proofs.Syntax.WellFormed
import ScriptLint.Syntax.Scope

/-!
Names are resolved along the tree.

The chain of scopes around a node is told here by its ancestors alone. The walk that carries chains
downwards agrees with it, so a scope stands in one chain only, and a look-up finds the innermost
scope around a use that has the name.
-/
namespace ScriptLint

namespace Tree

def scopeAt? (t : Tree) (id : NodeId) : Option Scope :=
  if id = t.root then some ⟨.program, id⟩ else
  match t.tag id with
  | .function => some ⟨.function, id⟩
  | .classDefinition => some ⟨.classBody, id⟩
  | .catchClause => some ⟨.handler, id⟩
  | .forStatement => some ⟨.block, id⟩
  | .blockStatement => if t.parentTag? id = some .function then none else some ⟨.block, id⟩
  | _ => none

/-- The scopes opened by a node and its ancestors, innermost first. -/
def chainAt (t : Tree) (id : NodeId) : ScopeChain := (id :: t.ancestors id).filterMap t.scopeAt?

/-- The scopes opened by the ancestors of a node, innermost first, and that of the whole file. -/
def scopesAround (t : Tree) (id : NodeId) : ScopeChain :=
  (t.ancestors id).filterMap (fun a => (t.opens? a).map (⟨·, a⟩)) ++ t.moduleScope

def chainFrom (t : Tree) (scope : Scope) : ScopeChain :=
  if scope.kind = .program then t.moduleScope else scope :: t.scopesAround scope.node

/-- A chain that stands around some part of the tree. -/
def Canonical (t : Tree) (chain : ScopeChain) : Prop :=
  chain ≠ [] ∧ ∃ id < t.nodes.size, chain <:+ t.enter (t.scopesAround id) id

theorem enter_eq (t : Tree) (outer : ScopeChain) (id : NodeId) :
    t.enter outer id = ((t.opens? id).map (⟨·, id⟩)).toList ++ outer := by
  rw [enter]
  cases t.opens? id <;> rfl

theorem scopeAt?_eq {t : Tree} {id : NodeId} (other : id ≠ t.root) :
    t.scopeAt? id = (t.opens? id).map (⟨·, id⟩) := by
  rw [scopeAt?, if_neg other, opens?, tag]
  cases t.kind id <;> first | rfl | (simp only [NodeKind.tag]; split <;> rfl)

theorem opens?_program {t : Tree} {id : NodeId} (program : t.tag id = .program) :
    t.opens? id = none := by
  rw [tag] at program
  rw [opens?]
  cases shape : t.kind id <;> rw [shape] at program <;> first | rfl | cases program

theorem chainFrom_opened {t : Tree} {id : NodeId} {kind : ScopeKind}
    (opened : t.opens? id = some kind) :
    t.chainFrom ⟨kind, id⟩ = ⟨kind, id⟩ :: t.scopesAround id := by
  refine if_neg ?_
  rintro rfl
  rw [opens?] at opened
  split at opened <;> try split at opened
  all_goals simp at opened

theorem moduleScope_suffix (t : Tree) (id : NodeId) : t.moduleScope <:+ t.scopesAround id :=
  List.suffix_append _ _

section Chains

variable {t : Tree} (wellFormed : t.WellFormed)
include wellFormed

theorem scopesAround_root : t.scopesAround t.root = t.moduleScope := by
  rw [scopesAround, ancestors_root wellFormed]
  rfl

theorem scopesAround_child {c p : NodeId} (child : c ∈ t.children p) :
    t.scopesAround c = t.enter (t.scopesAround p) p := by
  rw [scopesAround, ancestors_child wellFormed child, enter_eq, scopesAround, List.filterMap_cons]
  cases t.opens? p <;> rfl

theorem chainAt_eq (rooted : t.tag t.root = .program) :
    ∀ id < t.nodes.size, t.chainAt id = t.enter (t.scopesAround id) id := by
  refine descend_induction wellFormed ?_ ?_
  · rw [scopesAround_root wellFormed, enter, opens?_program rooted, chainAt,
      ancestors_root wellFormed, List.filterMap_cons_some (b := ⟨.program, t.root⟩)]
    · rfl
    · rw [scopeAt?, if_pos rfl]
  · intro p c child inherited
    have other : c ≠ t.root := by
      rintro rfl
      exact root_not_child wellFormed p child
    rw [scopesAround_child wellFormed child, ← inherited, enter_eq, ← scopeAt?_eq other, chainAt,
      ancestors_child wellFormed child, chainAt, List.filterMap_cons]
    cases t.scopeAt? c <;> rfl

theorem eq_chainFrom : ∀ id < t.nodes.size, ∀ scope outer,
    scope :: outer <:+ t.enter (t.scopesAround id) id → scope :: outer = t.chainFrom scope := by
  have inside : ∀ id, (∀ scope outer, scope :: outer <:+ t.scopesAround id →
      scope :: outer = t.chainFrom scope) → ∀ scope outer,
      scope :: outer <:+ t.enter (t.scopesAround id) id → scope :: outer = t.chainFrom scope := by
    intro id around scope outer suffix
    rw [enter] at suffix
    cases opened : t.opens? id with
    | none =>
      rw [opened] at suffix
      exact around scope outer suffix
    | some kind =>
      rw [opened] at suffix
      rcases List.suffix_cons_iff.mp suffix with same | later
      · obtain ⟨rfl, rfl⟩ := List.cons.inj same
        exact (chainFrom_opened opened).symm
      · exact around scope outer later
  refine descend_induction wellFormed (inside t.root ?_) ?_
  · intro scope outer suffix
    rw [scopesAround_root wellFormed, moduleScope, List.suffix_cons_iff] at suffix
    rcases suffix with same | later
    · obtain ⟨rfl, rfl⟩ := List.cons.inj same
      rfl
    · exact absurd (List.suffix_nil.mp later) (List.cons_ne_nil _ _)
  · intro p c child inherited
    refine inside c ?_
    rw [scopesAround_child wellFormed child]
    exact inherited

theorem canonical_unique {first second : ScopeChain} (one : t.Canonical first)
    (other : t.Canonical second) (heads : first.head? = second.head?) : first = second := by
  obtain ⟨nonempty, id, bound, suffix⟩ := one
  obtain ⟨nonempty', id', bound', suffix'⟩ := other
  cases first with
  | nil => exact absurd rfl nonempty
  | cons scope outer =>
    cases second with
    | nil => exact absurd rfl nonempty'
    | cons scope' outer' =>
      have same : scope = scope' := Option.some.inj heads
      rw [eq_chainFrom wellFormed id bound scope outer suffix, same,
        ← eq_chainFrom wellFormed id' bound' scope' outer' suffix']

theorem head_chainFrom {id : NodeId} (bound : id < t.nodes.size) {scope : Scope}
    (member : scope ∈ t.enter (t.scopesAround id) id) :
    (t.chainFrom scope).head? = some scope := by
  obtain ⟨inside, outer, chain⟩ := List.append_of_mem member
  rw [← eq_chainFrom wellFormed id bound scope outer ⟨inside, chain.symm⟩, List.head?_cons]

end Chains

theorem canonical_enter {t : Tree} {id : NodeId} (bound : id < t.nodes.size) :
    t.Canonical (t.enter (t.scopesAround id) id) := by
  refine ⟨?_, id, bound, List.suffix_rfl⟩
  rw [enter_eq]
  exact List.append_ne_nil_of_right_ne_nil _
    (List.append_ne_nil_of_right_ne_nil _ (List.cons_ne_nil _ _))

theorem Canonical.suffix {t : Tree} {inner outer : ScopeChain} (canonical : t.Canonical inner)
    (suffix : outer <:+ inner) (nonempty : outer ≠ []) : t.Canonical outer := by
  obtain ⟨-, id, bound, around⟩ := canonical
  exact ⟨nonempty, id, bound, suffix.trans around⟩

section Walk

theorem scopedWithin_nodes (t : Tree) (levels : Nat) (outer : ScopeChain) (id : NodeId) :
    (t.scopedWithin levels outer id).map Prod.fst = t.preorderWithin levels id := by
  induction levels generalizing outer id with
  | zero => rfl
  | succ levels ih =>
    rw [scopedWithin, preorderWithin, List.map_cons, List.map_flatMap]
    exact congrArg (id :: ·) (List.flatMap_congr fun c _ => ih _ c)

theorem scopedNodes_nodes (t : Tree) : t.scopedNodes.map Prod.fst = t.walk :=
  t.scopedWithin_nodes _ _ _

theorem scopedNodes_perm {t : Tree} (wellFormed : t.WellFormed) :
    (t.scopedNodes.map Prod.fst).Perm (List.range t.nodes.size) := by
  rw [scopedNodes_nodes]
  exact walk_perm wellFormed

theorem scopedNodes_unique {t : Tree} (wellFormed : t.WellFormed) {id : NodeId}
    {outer outer' : ScopeChain} (one : (id, outer) ∈ t.scopedNodes)
    (other : (id, outer') ∈ t.scopedNodes) : outer = outer' := by
  have once : (t.scopedNodes.map Prod.fst).Nodup :=
    (scopedNodes_perm wellFormed).nodup_iff.mpr List.nodup_range
  exact congrArg Prod.snd (List.inj_on_of_nodup_map once one other rfl)

theorem scopedNodes_lt {t : Tree} (wellFormed : t.WellFormed) {id : NodeId} {outer : ScopeChain}
    (member : (id, outer) ∈ t.scopedNodes) : id < t.nodes.size :=
  List.mem_range.mp
    ((scopedNodes_perm wellFormed).mem_iff.mp (List.mem_map.mpr ⟨_, member, rfl⟩))

theorem scopedNodes_total {t : Tree} (wellFormed : t.WellFormed) {id : NodeId}
    (bound : id < t.nodes.size) : ∃ outer, (id, outer) ∈ t.scopedNodes := by
  have listed := (scopedNodes_perm wellFormed).mem_iff.mpr (List.mem_range.mpr bound)
  obtain ⟨⟨x, outer⟩, member, rfl⟩ := List.mem_map.mp listed
  exact ⟨outer, member⟩

section Around

variable {t : Tree} (wellFormed : t.WellFormed)
include wellFormed

theorem scopedWithin_around {levels : Nat} {id : NodeId} :
    ∀ entry ∈ t.scopedWithin levels (t.scopesAround id) id, entry.2 = t.scopesAround entry.1 := by
  induction levels generalizing id with
  | zero => intro entry member; exact absurd member List.not_mem_nil
  | succ levels ih =>
    intro entry member
    rw [scopedWithin, List.mem_cons, List.mem_flatMap] at member
    rcases member with rfl | ⟨c, child, below⟩
    · rfl
    · rw [← scopesAround_child wellFormed child] at below
      exact ih entry below

theorem mem_scopedNodes {id : NodeId} {outer : ScopeChain} :
    (id, outer) ∈ t.scopedNodes ↔ id < t.nodes.size ∧ outer = t.scopesAround id := by
  have around : ∀ entry ∈ t.scopedNodes, entry.2 = t.scopesAround entry.1 := by
    rw [scopedNodes, ← scopesAround_root wellFormed]
    exact scopedWithin_around wellFormed
  constructor
  · intro member
    exact ⟨scopedNodes_lt wellFormed member, around _ member⟩
  · rintro ⟨bound, rfl⟩
    obtain ⟨outer, member⟩ := scopedNodes_total wellFormed bound
    rwa [show outer = t.scopesAround id from around _ member] at member

theorem scopedNodes_chains (rooted : t.tag t.root = .program) {id : NodeId} {outer : ScopeChain}
    (member : (id, outer) ∈ t.scopedNodes) : t.enter outer id = t.chainAt id := by
  obtain ⟨bound, rfl⟩ := (mem_scopedNodes wellFormed).mp member
  exact (chainAt_eq wellFormed rooted id bound).symm

theorem scopedNodes_unopened (rooted : t.tag t.root = .program) {id : NodeId}
    (closed : t.opens? id = none) {outer : ScopeChain} (member : (id, outer) ∈ t.scopedNodes) :
    outer = t.chainAt id := by
  have inner := scopedNodes_chains wellFormed rooted member
  rwa [enter, closed] at inner

end Around

end Walk

section Bindings

theorem lt_of_kind {t : Tree} {id : NodeId} (known : t.kind id ≠ .other "" []) :
    id < t.nodes.size := by
  refine Nat.lt_of_not_le fun outside => known ?_
  rw [kind, Array.getElem?_eq_none outside]

theorem mem_bindings {t : Tree} {b : Binding} :
    b ∈ t.bindings ↔ ∃ id outer, (id, outer) ∈ t.scopedNodes ∧ b ∈ t.bindingsAt id outer := by
  rw [bindings, List.mem_flatMap]
  exact ⟨fun ⟨entry, member, made⟩ => ⟨entry.1, entry.2, member, made⟩,
    fun ⟨id, outer, member, made⟩ => ⟨(id, outer), member, made⟩⟩

theorem mem_bind {t : Tree} {scope : ScopeChain} {node id : NodeId} {initialized : Bool}
    {b : Binding} (member : b ∈ t.bind scope node initialized id) :
    b.scope = scope ∧ b.declaredBy = node := by
  rw [bind] at member
  split at member
  · obtain rfl := List.mem_singleton.mp member
    exact ⟨rfl, rfl⟩
  · exact absurd member List.not_mem_nil

theorem mem_bindPattern {t : Tree} {scope : ScopeChain} {node pattern : NodeId}
    {initialized : Bool} {b : Binding} (member : b ∈ t.bindPattern scope node initialized pattern) :
    b.scope = scope ∧ b.declaredBy = node := by
  obtain ⟨id, -, bound⟩ := List.mem_flatMap.mp member
  exact mem_bind bound

theorem hoist_suffix (chain : ScopeChain) : hoist chain <:+ chain := by
  fun_induction hoist chain with
  | case1 => exact List.suffix_rfl
  | case2 => exact List.suffix_rfl
  | case3 => exact List.suffix_rfl
  | case4 scope outer _ _ ih => exact ih.trans (List.suffix_cons _ _)

theorem hoist_ne_nil {chain : ScopeChain} (nonempty : chain ≠ []) : hoist chain ≠ [] := by
  fun_induction hoist chain with
  | case1 => exact nonempty
  | case2 => exact nonempty
  | case3 => exact nonempty
  | case4 scope outer more _ ih =>
    refine ih fun empty => ?_
    exact more (by rw [empty])

theorem hoist_head {chain : ScopeChain} (ends : ∃ scope ∈ chain, scope.kind = .program) :
    (hoist chain).head? = chain.find? fun scope => scope.kind = .function || scope.kind = .program := by
  fun_induction hoist chain with
  | case1 => rfl
  | case2 scope =>
    obtain ⟨last, member, program⟩ := ends
    obtain rfl := List.mem_singleton.mp member
    simp [program]
  | case3 scope outer _ here => rw [List.find?_cons, here, List.head?_cons]
  | case4 scope outer _ elsewhere ih =>
    rw [List.find?_cons, Bool.eq_false_iff.mpr elsewhere]
    obtain ⟨last, member, program⟩ := ends
    rcases List.mem_cons.mp member with rfl | later
    · simp [program] at elsewhere
    · exact ih ⟨last, later, program⟩

theorem mem_bindingsAt {t : Tree} {id : NodeId} {outer : ScopeChain} {b : Binding}
    (member : b ∈ t.bindingsAt id outer) :
    b.declaredBy = id ∧
      (b.scope = outer ∨ b.scope = hoist outer ∨ b.scope = t.enter outer id ∨
        b.scope = t.moduleScope) := by
  rw [bindingsAt] at member
  split at member
  · -- A declaration binds the names of its patterns, hoisted or not.
    obtain ⟨declarator, -, bound⟩ := List.mem_flatMap.mp member
    split at bound
    · obtain ⟨scope, node⟩ := mem_bindPattern bound
      refine ⟨node, ?_⟩
      rw [scope]
      split
      · exact Or.inr (Or.inl rfl)
      · exact Or.inl rfl
    · exact absurd bound List.not_mem_nil
  · rcases List.mem_append.mp member with own | param
    · split at own
      · obtain ⟨scope, node⟩ := mem_bind own
        exact ⟨node, Or.inl scope⟩
      · obtain ⟨scope, node⟩ := mem_bind own
        exact ⟨node, Or.inr (Or.inr (Or.inl scope))⟩
      · exact absurd own List.not_mem_nil
    · obtain ⟨pattern, -, bound⟩ := List.mem_flatMap.mp param
      obtain ⟨scope, node⟩ := mem_bindPattern bound
      exact ⟨node, Or.inr (Or.inr (Or.inl scope))⟩
  · split at member
    · obtain ⟨scope, node⟩ := mem_bind member
      exact ⟨node, Or.inl scope⟩
    · obtain ⟨scope, node⟩ := mem_bind member
      exact ⟨node, Or.inr (Or.inr (Or.inl scope))⟩
    · exact absurd member List.not_mem_nil
  · obtain ⟨pattern, -, bound⟩ := List.mem_flatMap.mp member
    obtain ⟨scope, node⟩ := mem_bindPattern bound
    exact ⟨node, Or.inr (Or.inr (Or.inl scope))⟩
  iterate 3
    · obtain ⟨scope, node⟩ := mem_bind member
      exact ⟨node, Or.inr (Or.inr (Or.inr scope))⟩
  iterate 4
    · obtain ⟨scope, node⟩ := mem_bind member
      exact ⟨node, Or.inl scope⟩
  · exact absurd member List.not_mem_nil

theorem bindingsAt_var {t : Tree} {id : NodeId} {declarations : List NodeId}
    (shape : t.kind id = .variableDeclaration .var declarations) (outer : ScopeChain) :
    t.bindingsAt id outer = declarations.flatMap fun declarator =>
      match t.kind declarator with
      | .variableDeclarator pattern init => t.bindPattern (hoist outer) id init.isSome pattern
      | _ => [] := by
  rw [bindingsAt, shape]
  rfl

theorem patternNames_identifier {t : Tree} {levels : Nat} {id x : NodeId}
    (member : x ∈ t.patternNamesWithin levels id) : ∃ name, t.kind x = .identifier name := by
  induction levels generalizing id with
  | zero => exact absurd member List.not_mem_nil
  | succ levels ih =>
    rw [patternNamesWithin] at member
    split at member
    · rename_i name shape
      rw [List.mem_singleton.mp member]
      exact ⟨name, shape⟩
    · obtain ⟨property, -, inside⟩ := List.mem_flatMap.mp member
      split at inside <;> exact ih inside
    · obtain ⟨element, -, inside⟩ := List.mem_flatMap.mp member
      exact ih inside
    · exact ih member
    · exact ih member
    · exact absurd member List.not_mem_nil

theorem bindings_canonical {t : Tree} (wellFormed : t.WellFormed) {b : Binding}
    (member : b ∈ t.bindings) : t.Canonical b.scope := by
  obtain ⟨id, outer, entry, made⟩ := mem_bindings.mp member
  obtain ⟨bound, rfl⟩ := (mem_scopedNodes wellFormed).mp entry
  have inner := canonical_enter bound
  have around : t.Canonical (t.scopesAround id) := by
    refine inner.suffix ?_ (List.append_ne_nil_of_right_ne_nil _ (List.cons_ne_nil _ _))
    rw [enter_eq]
    exact List.suffix_append _ _
  rcases (mem_bindingsAt made).2 with scope | scope | scope | scope <;> rw [scope]
  · exact around
  · exact around.suffix (hoist_suffix _) (hoist_ne_nil around.1)
  · exact inner
  · exact around.suffix (moduleScope_suffix t id) (List.cons_ne_nil _ _)

theorem program_mem_chainAt {t : Tree} (wellFormed : t.WellFormed)
    (rooted : t.tag t.root = .program) {id : NodeId} (bound : id < t.nodes.size) :
    ∃ scope ∈ t.chainAt id, scope.kind = .program := by
  refine ⟨⟨.program, t.root⟩, ?_, rfl⟩
  rw [chainAt_eq wellFormed rooted id bound, enter_eq]
  exact List.mem_append_right _
    ((moduleScope_suffix t id).subset (List.mem_singleton_self _))

end Bindings

end Tree

namespace ScopeTable

/-- The innermost scope of a chain that has a variable of the name. -/
def binder? (s : ScopeTable) (name : Text) (chain : ScopeChain) : Option Scope :=
  chain.find? fun scope => s.allVariables.any fun v => v.name == name && v.scope.head? == some scope

def recordedWith (s : ScopeTable) (id : NodeId) : List Variable :=
  s.allVariables.filter fun v => v.references.contains ⟨id, false⟩

def keysOf (t : Tree) : List Key := (t.bindings.map keyOf).eraseDups

def resolvedOf (t : Tree) : List (NodeId × Option Key) :=
  (usesOf t t.bindings).map fun use => (use.identifier, lookup? (keysOf t) use.name use.chain)

theorem ofTree_allVariables (t : Tree) (globals : List Text) :
    (ofTree t globals).allVariables = (keysOf t).map (variableOf t.bindings (resolvedOf t)) := rfl

theorem mem_keysOf {t : Tree} {key : Key} : key ∈ keysOf t ↔ ∃ b ∈ t.bindings, keyOf b = key := by
  rw [keysOf, List.mem_eraseDups, List.mem_map]

theorem keysOf_nodup (t : Tree) : (keysOf t).Nodup := nodup_eraseDups _

theorem keysOf_canonical {t : Tree} (wellFormed : t.WellFormed) {key : Key}
    (member : key ∈ keysOf t) : t.Canonical key.1 := by
  obtain ⟨b, bound, rfl⟩ := mem_keysOf.mp member
  exact Tree.bindings_canonical wellFormed bound

theorem binder?_ofTree (t : Tree) (globals : List Text) (name : Text) (chain : ScopeChain) :
    (ofTree t globals).binder? name chain =
      chain.find? fun scope =>
        (keysOf t).any fun key => key.2 == name && key.1.head? == some scope := by
  simp only [binder?, ofTree_allVariables, List.any_map]
  rfl

theorem lookup?_mem {keys : List Key} {name : Text} {chain : ScopeChain} {key : Key}
    (found : lookup? keys name chain = some key) : key ∈ keys := by
  induction chain with
  | nil => simp [lookup?] at found
  | cons scope outer ih =>
    rw [lookup?] at found
    split at found
    · rename_i here
      obtain rfl := Option.some.inj found
      exact List.contains_iff_mem.mp here
    · exact ih found

/-- A look-up ends at the innermost scope that has the name, since a scope stands in one chain
only. -/
theorem lookup?_eq_binder? {t : Tree} (wellFormed : t.WellFormed) (globals : List Text)
    (name : Text) {chain : ScopeChain} {id : NodeId} (bound : id < t.nodes.size)
    (suffix : chain <:+ t.enter (t.scopesAround id) id) :
    lookup? (keysOf t) name chain =
      ((ofTree t globals).binder? name chain).map fun scope => (t.chainFrom scope, name) := by
  rw [binder?_ofTree]
  induction chain with
  | nil => rfl
  | cons scope outer ih =>
    have here : t.Canonical (scope :: outer) := ⟨List.cons_ne_nil _ _, id, bound, suffix⟩
    have known : (keysOf t).contains (scope :: outer, name) =
        (keysOf t).any fun key => key.2 == name && key.1.head? == some scope := by
      rw [Bool.eq_iff_iff, List.contains_iff_mem, List.any_eq_true]
      constructor
      · intro member
        exact ⟨_, member, by simp⟩
      · -- A key of this scope has the whole chain, not only its head.
        rintro ⟨⟨chain, label⟩, member, same⟩
        obtain ⟨rfl, head⟩ : label = name ∧ chain.head? = some scope := by simpa using same
        have whole := Tree.canonical_unique wellFormed (keysOf_canonical wellFormed member) here head
        rwa [← show chain = scope :: outer from whole]
    rw [lookup?, known, List.find?_cons]
    cases (keysOf t).any fun key => key.2 == name && key.1.head? == some scope with
    | true =>
      rw [if_pos rfl, Option.map_some, ← Tree.eq_chainFrom wellFormed id bound scope outer suffix]
    | false =>
      rw [if_neg Bool.false_ne_true]
      exact ih ((List.suffix_cons _ _).trans suffix)

section Uses

theorem mem_usesOf {t : Tree} {bindings : List Binding} {use : Use} :
    use ∈ usesOf t bindings ↔
      (use.identifier, use.chain) ∈ t.scopedNodes ∧ t.kind use.identifier = .identifier use.name ∧
        use.identifier ∉ bindings.map (·.identifier) ∧ t.isReferencePosition use.identifier = true := by
  rw [usesOf, List.mem_filterMap]
  constructor
  · rintro ⟨⟨id, outer⟩, entry, made⟩
    dsimp only at made
    split at made
    · rename_i name shape
      split at made
      · simp at made
      · rename_i free
        obtain rfl := Option.some.inj made
        simp only [Bool.or_eq_true, List.contains_iff_mem, Bool.not_eq_true', not_or,
          Bool.not_eq_false] at free
        exact ⟨entry, shape, free⟩
    · simp at made
  · rintro ⟨entry, shape, free, position⟩
    refine ⟨_, entry, ?_⟩
    simp only [shape, List.contains_eq_mem, free, position]
    rfl

theorem mem_resolvedOf_around {t : Tree} (wellFormed : t.WellFormed) {id : NodeId}
    {chain : ScopeChain} (entry : (id, chain) ∈ t.scopedNodes) {name : Text}
    (shape : t.kind id = .identifier name) (free : id ∉ t.bindings.map (·.identifier))
    (position : t.isReferencePosition id = true) {target : Option Key} :
    (id, target) ∈ resolvedOf t ↔ target = lookup? (keysOf t) name chain := by
  rw [resolvedOf, List.mem_map]
  constructor
  · rintro ⟨⟨x, label, chain'⟩, member, same⟩
    obtain ⟨rfl, rfl⟩ := Prod.mk.inj same
    obtain ⟨entry', known, -, -⟩ := mem_usesOf.mp member
    obtain rfl := NodeKind.identifier.inj (shape.symm.trans known)
    exact congrArg _ (Tree.scopedNodes_unique wellFormed entry' entry)
  · rintro rfl
    exact ⟨⟨id, name, chain⟩, mem_usesOf.mpr ⟨entry, shape, free, position⟩, rfl⟩

theorem use_entry {t : Tree} (wellFormed : t.WellFormed) (rooted : t.tag t.root = .program)
    {id : NodeId} {name : Text} (shape : t.kind id = .identifier name) :
    (id, t.chainAt id) ∈ t.scopedNodes := by
  have closed : t.opens? id = none := by rw [Tree.opens?, shape]
  have bound : id < t.nodes.size := Tree.lt_of_kind (by simp [shape])
  obtain ⟨outer, entry⟩ := Tree.scopedNodes_total wellFormed bound
  rwa [← Tree.scopedNodes_unopened wellFormed rooted closed entry]

theorem mem_resolvedOf {t : Tree} (wellFormed : t.WellFormed) (rooted : t.tag t.root = .program)
    {id : NodeId} {name : Text} (shape : t.kind id = .identifier name)
    (free : id ∉ t.bindings.map (·.identifier)) (position : t.isReferencePosition id = true)
    {target : Option Key} :
    (id, target) ∈ resolvedOf t ↔ target = lookup? (keysOf t) name (t.chainAt id) :=
  mem_resolvedOf_around wellFormed (use_entry wellFormed rooted shape) shape free position

theorem usesOf_sublist (t : Tree) (bindings : List Binding) :
    ((usesOf t bindings).map (·.identifier)).Sublist (t.scopedNodes.map Prod.fst) := by
  rw [usesOf]
  induction t.scopedNodes with
  | nil => exact List.Sublist.slnil
  | cons entry entries ih =>
    obtain ⟨id, outer⟩ := entry
    rw [List.filterMap_cons, List.map_cons]
    split
    · exact ih.cons _
    · rename_i use made
      have same : use.identifier = id := by
        dsimp only at made
        split at made
        · split at made
          · simp at made
          · rw [← Option.some.inj made]
        · simp at made
      rw [List.map_cons, same]
      exact ih.cons_cons _

theorem resolvedOf_nodup {t : Tree} (wellFormed : t.WellFormed) : (resolvedOf t).Nodup := by
  have once : (t.scopedNodes.map Prod.fst).Nodup :=
    (Tree.scopedNodes_perm wellFormed).nodup_iff.mpr List.nodup_range
  refine List.Nodup.of_map Prod.fst ?_
  rw [resolvedOf, List.map_map]
  exact once.sublist (usesOf_sublist t t.bindings)

theorem count_references (bindings : List Binding) (resolved : List (NodeId × Option Key))
    (key : Key) (id : NodeId) :
    (variableOf bindings resolved key).references.count ⟨id, false⟩ =
      resolved.count (id, some key) := by
  have first : ∀ own : List Binding,
      (own.map fun b => (⟨b.identifier, true⟩ : Reference)).count ⟨id, false⟩ = 0 := by
    intro own
    refine List.count_eq_zero.mpr fun member => ?_
    obtain ⟨b, -, same⟩ := List.mem_map.mp member
    cases same
  rw [variableOf, List.count_append, first, Nat.zero_add, List.count, List.countP_map,
    List.countP_filter, List.count]
  refine List.countP_congr fun use _ => ?_
  obtain ⟨x, target⟩ := use
  simp [Prod.ext_iff]

theorem filter_variables (t : Tree) (globals : List Text) {p : Variable → Bool} {key : Key}
    (known : key ∈ keysOf t)
    (picks : ∀ other ∈ keysOf t,
      p (variableOf t.bindings (resolvedOf t) other) = true ↔ other = key) :
    (ofTree t globals).allVariables.filter p = [variableOf t.bindings (resolvedOf t) key] := by
  have once := List.count_eq_one_of_mem (keysOf_nodup t) known
  have alike : ∀ other ∈ keysOf t,
      (p ∘ variableOf t.bindings (resolvedOf t)) other = (other == key) := by
    intro other member
    rw [Bool.eq_iff_iff, beq_iff_eq]
    exact picks other member
  rw [ofTree_allVariables, List.filter_map, List.filter_congr alike, List.filter_beq, once]
  rfl

theorem recordedWith_around {t : Tree} (wellFormed : t.WellFormed) (globals : List Text)
    {id : NodeId} {chain : ScopeChain} (entry : (id, chain) ∈ t.scopedNodes) {name : Text}
    (shape : t.kind id = .identifier name) (free : id ∉ t.bindings.map (·.identifier))
    (position : t.isReferencePosition id = true) :
    (ofTree t globals).recordedWith id =
      (lookup? (keysOf t) name chain).toList.map (variableOf t.bindings (resolvedOf t)) := by
  have recorded : ∀ key, (variableOf t.bindings (resolvedOf t) key).references.contains
      ⟨id, false⟩ = true ↔ lookup? (keysOf t) name chain = some key := by
    intro key
    rw [List.contains_iff_mem, ← List.count_pos_iff, count_references, List.count_pos_iff,
      mem_resolvedOf_around wellFormed entry shape free position]
    exact eq_comm
  cases found : lookup? (keysOf t) name chain with
  | none =>
    refine List.filter_eq_nil_iff.mpr fun v member contains => ?_
    rw [ofTree_allVariables] at member
    obtain ⟨key, -, rfl⟩ := List.mem_map.mp member
    rw [recorded, found] at contains
    simp at contains
  | some key =>
    refine filter_variables t globals (lookup?_mem found) fun other _ => ?_
    rw [recorded, found, Option.some.injEq]
    exact eq_comm

theorem recordedWith_eq {t : Tree} (wellFormed : t.WellFormed) (rooted : t.tag t.root = .program)
    (globals : List Text) {id : NodeId} {name : Text} (shape : t.kind id = .identifier name)
    (free : id ∉ t.bindings.map (·.identifier)) (position : t.isReferencePosition id = true) :
    (ofTree t globals).recordedWith id =
      (lookup? (keysOf t) name (t.chainAt id)).toList.map
        (variableOf t.bindings (resolvedOf t)) :=
  recordedWith_around wellFormed globals (use_entry wellFormed rooted shape) shape free position

end Uses

section Declarations

theorem named?_ofTree {t : Tree} (globals : List Text) {key : Key} (member : key ∈ keysOf t) :
    (ofTree t globals).named? key = some (variableOf t.bindings (resolvedOf t) key) := by
  rw [named?, ofTree_allVariables, List.find?_map]
  have alike : ((fun v : Variable => (v.scope, v.name) == key) ∘
      variableOf t.bindings (resolvedOf t)) = (· == key) := rfl
  cases found : (keysOf t).find? (· == key) with
  | none => exact absurd (beq_self_eq_true key) (List.find?_eq_none.mp found key member)
  | some other =>
    have same : other = key := by simpa using List.find?_some found
    rw [alike, found, same, Option.map_some]

theorem mem_declared {t : Tree} {globals : List Text} {node : NodeId} {v : Variable} :
    v ∈ (ofTree t globals).declared node ↔
      ∃ b ∈ t.bindings, b.declaredBy = node ∧
        v = variableOf t.bindings (resolvedOf t) (keyOf b) := by
  rw [declared, List.mem_filterMap]
  constructor
  · rintro ⟨key, member, found⟩
    obtain ⟨b, chosen, rfl⟩ := List.mem_map.mp (List.mem_eraseDups.mp member)
    obtain ⟨bound, own⟩ := List.mem_filter.mp chosen
    rw [named?_ofTree globals (mem_keysOf.mpr ⟨b, bound, rfl⟩)] at found
    exact ⟨b, bound, eq_of_beq own, (Option.some.inj found).symm⟩
  · rintro ⟨b, bound, own, rfl⟩
    refine ⟨keyOf b, ?_, named?_ofTree globals (mem_keysOf.mpr ⟨b, bound, rfl⟩)⟩
    exact List.mem_eraseDups.mpr
      (List.mem_map.mpr ⟨b, List.mem_filter.mpr ⟨bound, beq_iff_eq.mpr own⟩, rfl⟩)

theorem mem_identifiers {t : Tree} {b : Binding} (bound : b ∈ t.bindings) :
    b.identifier ∈ (variableOf t.bindings (resolvedOf t) (keyOf b)).identifiers := by
  rw [variableOf, List.mem_eraseDups]
  exact List.mem_map.mpr ⟨b, List.mem_filter.mpr ⟨bound, beq_self_eq_true _⟩, rfl⟩

theorem var_scope {t : Tree} (wellFormed : t.WellFormed) (rooted : t.tag t.root = .program)
    {node : NodeId} {declarations : List NodeId}
    (shape : t.kind node = .variableDeclaration .var declarations) {b : Binding}
    (bound : b ∈ t.bindings) (own : b.declaredBy = node) :
    b.scope.head? = (t.chainAt node).find? fun scope =>
      scope.kind = .function || scope.kind = .program := by
  obtain ⟨id, outer, entry, made⟩ := Tree.mem_bindings.mp bound
  obtain rfl : id = node := (Tree.mem_bindingsAt made).1.symm.trans own
  rw [Tree.bindingsAt_var shape] at made
  obtain ⟨declarator, -, inside⟩ := List.mem_flatMap.mp made
  split at inside
  · have closed : t.opens? id = none := by rw [Tree.opens?, shape]
    rw [(Tree.mem_bindPattern inside).1, Tree.scopedNodes_unopened wellFormed rooted closed entry]
    exact Tree.hoist_head
      (Tree.program_mem_chainAt wellFormed rooted (Tree.scopedNodes_lt wellFormed entry))
  · exact absurd inside List.not_mem_nil

theorem var_declares {t : Tree} (wellFormed : t.WellFormed) (globals : List Text)
    {node : NodeId} {declarations : List NodeId}
    (shape : t.kind node = .variableDeclaration .var declarations)
    {declarator pattern x : NodeId} {init : Option NodeId} (listed : declarator ∈ declarations)
    (declares : t.kind declarator = .variableDeclarator pattern init)
    (named : x ∈ t.patternNames pattern) :
    ∃ v ∈ (ofTree t globals).declared node, x ∈ v.identifiers := by
  have bound : node < t.nodes.size := Tree.lt_of_kind (by simp [shape])
  obtain ⟨outer, entry⟩ := Tree.scopedNodes_total wellFormed bound
  obtain ⟨name, identifier⟩ := Tree.patternNames_identifier named
  have made : (⟨Tree.hoist outer, name, x, node, init.isSome⟩ : Binding) ∈ t.bindings := by
    refine Tree.mem_bindings.mpr ⟨node, outer, entry, ?_⟩
    rw [Tree.bindingsAt_var shape]
    refine List.mem_flatMap.mpr ⟨declarator, listed, ?_⟩
    rw [declares]
    refine List.mem_flatMap.mpr ⟨x, named, ?_⟩
    rw [Tree.bind, identifier]
    exact List.mem_singleton_self _
  exact ⟨_, mem_declared.mpr ⟨_, made, rfl, rfl⟩, mem_identifiers made⟩

end Declarations

/-- Names are scoped lexically. The chain of scopes that the walk gives a node is the one opened by
the node and its ancestors. A use is recorded once, with the variable of its name in the innermost
scope around it that has one, and with no other variable. A `var` declares all names of its
patterns in the innermost function around it, or else in the program. -/
theorem names_resolve_lexically {t : Tree} (wellFormed : t.WellFormed)
    (rooted : t.tag t.root = .program) (globals : List Text) :
    let s := ofTree t globals
    (t.scopedNodes.map Prod.fst).Perm (List.range t.nodes.size) ∧
      (∀ id outer, (id, outer) ∈ t.scopedNodes → t.enter outer id = t.chainAt id) ∧
      (∀ id name, t.kind id = .identifier name → id ∉ s.bindings.map (·.identifier) →
        t.isReferencePosition id = true →
        match s.binder? name (t.chainAt id) with
        | some scope => ∃ v, s.recordedWith id = [v] ∧ v.name = name ∧
            v.scope.head? = some scope ∧ v.references.count ⟨id, false⟩ = 1
        | none => s.recordedWith id = []) ∧
      ∀ node declarations, t.kind node = .variableDeclaration .var declarations →
        (∀ v ∈ s.declared node, ∃ scope, v.scope.head? = some scope ∧
          (t.chainAt node).find? (fun scope => scope.kind = .function || scope.kind = .program) =
            some scope ∧ (scope.kind = .function ∨ scope.kind = .program)) ∧
        ∀ declarator ∈ declarations, ∀ pattern init,
          t.kind declarator = .variableDeclarator pattern init →
          ∀ x ∈ t.patternNames pattern, ∃ v ∈ s.declared node, x ∈ v.identifiers := by
  refine ⟨Tree.scopedNodes_perm wellFormed,
    fun id outer member => Tree.scopedNodes_chains wellFormed rooted member, ?_, ?_⟩
  · intro id name shape free position
    have bound : id < t.nodes.size := Tree.lt_of_kind (by simp [shape])
    have recorded := recordedWith_eq wellFormed rooted globals shape free position
    have resolves := @mem_resolvedOf t wellFormed rooted id name shape free position
    rw [Tree.chainAt_eq wellFormed rooted id bound] at recorded resolves ⊢
    have found := lookup?_eq_binder? wellFormed globals name bound List.suffix_rfl
    cases binder : (ofTree t globals).binder? name (t.enter (t.scopesAround id) id) with
    | none =>
      rw [binder, Option.map_none] at found
      rw [found] at recorded
      exact recorded
    | some scope =>
      rw [binder, Option.map_some] at found
      rw [found] at recorded
      refine ⟨_, recorded, rfl, ?_, ?_⟩
      · exact Tree.head_chainFrom wellFormed bound (List.mem_of_find?_eq_some binder)
      · rw [count_references]
        refine List.count_eq_one_of_mem (resolvedOf_nodup wellFormed) ?_
        rw [resolves, found]
  · intro node declarations shape
    refine ⟨?_, ?_⟩
    · intro v member
      obtain ⟨b, bound, own, rfl⟩ := mem_declared.mp member
      have head := var_scope wellFormed rooted shape bound own
      obtain ⟨scope, outer, chain⟩ := List.exists_cons_of_ne_nil
        (Tree.bindings_canonical wellFormed bound).1
      rw [chain, List.head?_cons] at head
      refine ⟨scope, ?_, head.symm, ?_⟩
      · exact congrArg List.head? chain
      · simpa using List.find?_some head.symm
    · intro declarator listed pattern init declares x named
      exact var_declares wellFormed globals shape listed declares named

/-- `var n; function f() { { var n; } n; }` -/
def shadowing : Tree where
  nodes := #[
    ⟨.identifier ['n'], none⟩, ⟨.variableDeclarator 0 none, none⟩,
    ⟨.variableDeclaration .var [1], none⟩, ⟨.identifier ['f'], none⟩,
    ⟨.identifier ['n'], none⟩, ⟨.variableDeclarator 4 none, none⟩,
    ⟨.variableDeclaration .var [5], none⟩, ⟨.blockStatement [6], none⟩,
    ⟨.identifier ['n'], none⟩, ⟨.blockStatement [7, 8], none⟩,
    ⟨.function .declaration (some 3) [] (some 9), none⟩, ⟨.program [2, 10], none⟩]
  root := 11

theorem shadowing_resolves_to_function :
    shadowing.WellFormed ∧ shadowing.tag shadowing.root = .program ∧
      ∃ v, (ofTree shadowing []).recordedWith 8 = [v] ∧ v.name = ['n'] ∧
        v.scope.head? = some ⟨.function, 10⟩ ∧ v.references.count ⟨8, false⟩ = 1 := by
  have wellFormed : shadowing.WellFormed := of_decide_eq_true (by cbv)
  have rooted : shadowing.tag shadowing.root = .program := rfl
  have innermost : (ofTree shadowing []).binder? ['n'] (shadowing.chainAt 8) =
      some ⟨.function, 10⟩ := by cbv
  obtain ⟨-, -, uses, -⟩ := names_resolve_lexically wellFormed rooted []
  have use := uses 8 ['n'] rfl (of_decide_eq_true (by cbv)) (by cbv)
  rw [innermost] at use
  exact ⟨wellFormed, rooted, use⟩

end ScopeTable

end ScriptLint
