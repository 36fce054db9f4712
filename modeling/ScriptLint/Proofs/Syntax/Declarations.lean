import ScriptLint.Proofs.Syntax.Scopes

/-!
Which identifiers a tree declares.

A declaring node binds its own name and the names in its patterns. Both are told here by the shape
of the tree alone. The way up from a name leads through patterns to a single declaring node, so no
identifier is bound twice.
-/
namespace ScriptLint

def NodeTag.buildsPatterns : NodeTag → Bool
  | .property | .objectPattern | .arrayPattern | .assignmentPattern | .restElement => true
  | _ => false

namespace Tree

/-- What an entry of an object pattern binds: the value of a property, or else the entry itself. -/
def entryTarget (t : Tree) (entry : NodeId) : NodeId :=
  match t.kind entry with
  | .property _ value _ _ => value
  | _ => entry

/-- The parts of a pattern whose names it binds. Keys and default values are none. -/
def patternParts (t : Tree) (p : NodeId) : List NodeId :=
  match t.kind p with
  | .objectPattern entries => entries.map t.entryTarget
  | .arrayPattern elements => elements
  | .assignmentPattern left _ => [left]
  | .restElement argument => [argument]
  | _ => []

def PatternPart (t : Tree) (p c : NodeId) : Prop := c ∈ t.patternParts p

def NamedIn (t : Tree) (p x : NodeId) : Prop :=
  Relation.ReflTransGen t.PatternPart p x ∧ t.tag x = .identifier

/-- The node by which a declaration is named. An arrow function has no name of its own. -/
def declaredName? (t : Tree) (node : NodeId) : Option NodeId :=
  match t.kind node with
  | .function .arrow _ _ _ => none
  | .function _ name _ _ | .classDefinition _ name _ _ => name
  | .importDefaultSpecifier name | .importNamespaceSpecifier name | .importSpecifier _ name
  | .interfaceDeclaration name _ _ | .typeAliasDeclaration name _ _ | .enumDeclaration name _
  | .typeParameter name => some name
  | _ => none

def declaratorPattern? (t : Tree) (declarator : NodeId) : Option NodeId :=
  match t.kind declarator with
  | .variableDeclarator pattern _ => some pattern
  | _ => none

def declaredPatterns (t : Tree) (node : NodeId) : List NodeId :=
  match t.kind node with
  | .variableDeclaration _ declarations => declarations.flatMap (t.declaratorPattern? · |>.toList)
  | .function _ _ params _ => params
  | .catchClause param _ => param.toList
  | _ => []

/-- The node binds the identifier, by its own name or in one of its patterns. -/
def Declares (t : Tree) (node x : NodeId) : Prop :=
  (t.declaredName? node = some x ∧ t.tag x = .identifier) ∨
    ∃ p ∈ t.declaredPatterns node, t.NamedIn p x

/-- A declarator with a first value has the identifier among its names. -/
def Initializes (t : Tree) (x : NodeId) : Prop :=
  ∃ node kind declarations declarator pattern value,
    t.kind node = .variableDeclaration kind declarations ∧ declarator ∈ declarations ∧
      t.kind declarator = .variableDeclarator pattern (some value) ∧ t.NamedIn pattern x

theorem entryTarget_cases (t : Tree) (e : NodeId) :
    (t.tag e = .property ∧ t.entryTarget e ∈ t.children e) ∨
      (t.tag e ≠ .property ∧ t.entryTarget e = e) := by
  rw [entryTarget, tag, children]
  cases t.kind e with
  | property key value short computed =>
    refine Or.inl ⟨rfl, ?_⟩
    simp only [NodeKind.children]
    split
    · rename_i same
      rw [same]
      exact List.mem_singleton_self _
    · exact List.mem_cons_of_mem _ (List.mem_singleton_self _)
  | _ => exact Or.inr ⟨by simp [NodeKind.tag], rfl⟩

theorem part_parent {t : Tree} {p c : NodeId} (part : t.PatternPart p c) :
    ∃ q, c ∈ t.children q ∧ (t.tag q).buildsPatterns = true ∧
      if t.tag q = .property then q ∈ t.children p else q = p := by
  rw [PatternPart, patternParts] at part
  split at part
  · rename_i entries shape
    obtain ⟨e, listed, rfl⟩ := List.mem_map.mp part
    have below : e ∈ t.children p := by
      rw [children, shape]
      exact listed
    rcases entryTarget_cases t e with ⟨property, inside⟩ | ⟨-, same⟩
    · refine ⟨e, inside, ?_, ?_⟩
      · rw [property]
        rfl
      · rw [if_pos property]
        exact below
    · rw [same]
      refine ⟨p, below, ?_, ?_⟩ <;> simp [tag, shape, NodeKind.tag, NodeTag.buildsPatterns]
  · rename_i elements shape
    refine ⟨p, ?_, ?_, ?_⟩ <;>
      simp [children, tag, shape, NodeKind.tag, NodeKind.children, NodeTag.buildsPatterns, part]
  · rename_i left right shape
    obtain rfl := List.mem_singleton.mp part
    refine ⟨p, ?_, ?_, ?_⟩ <;>
      simp [children, tag, shape, NodeKind.tag, NodeKind.children, NodeTag.buildsPatterns]
  · rename_i argument shape
    obtain rfl := List.mem_singleton.mp part
    refine ⟨p, ?_, ?_, ?_⟩ <;>
      simp [children, tag, shape, NodeKind.tag, NodeKind.children, NodeTag.buildsPatterns]
  · exact absurd part List.not_mem_nil

theorem place_parent {t : Tree} {node q : NodeId}
    (place : t.declaredName? node = some q ∨ q ∈ t.declaredPatterns node) :
    ∃ r, q ∈ t.children r ∧ (t.tag r).buildsPatterns = false ∧
      if t.tag r = .variableDeclarator then r ∈ t.children node else r = node := by
  rcases place with name | pattern
  · refine ⟨node, ?_⟩
    rw [declaredName?] at name
    rw [children, tag]
    split at name <;> simp_all [NodeKind.children, NodeKind.tag, NodeTag.buildsPatterns]
    split
    · rename_i same
      exact List.mem_singleton.mpr same
    · simp
  · rw [declaredPatterns] at pattern
    split at pattern
    · rename_i kind declarations shape
      obtain ⟨d, listed, own⟩ := List.mem_flatMap.mp pattern
      refine ⟨d, ?_⟩
      rw [declaratorPattern?] at own
      split at own
      · rename_i pattern init declarator
        obtain rfl := List.mem_singleton.mp own
        simp [children, tag, shape, declarator, NodeKind.children, NodeKind.tag,
          NodeTag.buildsPatterns, listed]
      · simp at own
    · rename_i kind name params body shape
      refine ⟨node, ?_⟩
      simp [children, tag, shape, NodeKind.children, NodeKind.tag, NodeTag.buildsPatterns, pattern]
    · rename_i param body shape
      refine ⟨node, ?_⟩
      simp_all [children, tag, NodeKind.children, NodeKind.tag, NodeTag.buildsPatterns]
    · exact absurd pattern List.not_mem_nil

section Unique

variable {t : Tree} (wellFormed : t.WellFormed)
include wellFormed

theorem part_lt {p c : Nat} (part : t.PatternPart p c) : c < p := by
  obtain ⟨q, child, -, place⟩ := part_parent part
  have below := wellFormed.descends q c child
  split at place
  · exact Nat.lt_trans below (wellFormed.descends p q place)
  · rwa [place] at below

theorem parts_le {p x : Nat} (path : Relation.ReflTransGen t.PatternPart p x) : x ≤ p := by
  induction path with
  | refl => exact Nat.le_refl _
  | tail _ part ih => exact Nat.le_trans (Nat.le_of_lt (part_lt wellFormed part)) ih

theorem whole_unique {p p' c : NodeId} (first : t.PatternPart p c) (second : t.PatternPart p' c) :
    p = p' := by
  obtain ⟨q, child, -, place⟩ := part_parent first
  obtain ⟨q', child', -, place'⟩ := part_parent second
  obtain rfl := parent_unique wellFormed child child'
  split at place
  · rename_i property
    rw [if_pos property] at place'
    exact parent_unique wellFormed place place'
  · rename_i other
    rw [if_neg other] at place'
    rw [← place, ← place']

theorem patterns_nested {q q' x : NodeId} (first : Relation.ReflTransGen t.PatternPart q x)
    (second : Relation.ReflTransGen t.PatternPart q' x) :
    Relation.ReflTransGen t.PatternPart q q' ∨ Relation.ReflTransGen t.PatternPart q' q := by
  have up : Relator.RightUnique (Function.swap t.PatternPart) :=
    fun _ _ _ above above' => whole_unique wellFormed above above'
  have both := Relation.ReflTransGen.total_of_right_unique up
    (Relation.reflTransGen_swap.mpr first) (Relation.reflTransGen_swap.mpr second)
  exact both.symm.imp Relation.reflTransGen_swap.mp Relation.reflTransGen_swap.mp

theorem part_not_above {p c c' : NodeId} (part : t.PatternPart p c) (part' : t.PatternPart p c')
    (path : Relation.ReflTransGen t.PatternPart c c') : c = c' := by
  rcases Relation.ReflTransGen.cases_tail path with same | ⟨r, above, last⟩
  · exact same.symm
  · -- The way from `c` to `c'` would lead through `p`, which has a greater number than `c`.
    obtain rfl := whole_unique wellFormed last part'
    exact absurd (parts_le wellFormed above) (Nat.not_le_of_lt (part_lt wellFormed part))

theorem part_unique {p c c' x : NodeId} (part : t.PatternPart p c) (part' : t.PatternPart p c')
    (first : Relation.ReflTransGen t.PatternPart c x)
    (second : Relation.ReflTransGen t.PatternPart c' x) : c = c' := by
  rcases patterns_nested wellFormed first second with path | path
  · exact part_not_above wellFormed part part' path
  · exact (part_not_above wellFormed part' part path).symm

theorem place_not_part {node q r : NodeId}
    (place : t.declaredName? node = some q ∨ q ∈ t.declaredPatterns node) :
    ¬ t.PatternPart r q := by
  intro part
  obtain ⟨s, child, outside, -⟩ := place_parent place
  obtain ⟨s', child', inside, -⟩ := part_parent part
  obtain rfl := parent_unique wellFormed child child'
  rw [inside] at outside
  exact Bool.noConfusion outside

/-- A name is reached from one declared name or pattern only. -/
theorem place_unique {node node' q q' x : NodeId}
    (place : t.declaredName? node = some q ∨ q ∈ t.declaredPatterns node)
    (place' : t.declaredName? node' = some q' ∨ q' ∈ t.declaredPatterns node')
    (first : Relation.ReflTransGen t.PatternPart q x)
    (second : Relation.ReflTransGen t.PatternPart q' x) : q = q' ∧ node = node' := by
  have same : q = q' := by
    rcases patterns_nested wellFormed first second with path | path
    · rcases Relation.ReflTransGen.cases_tail path with same | ⟨r, -, last⟩
      · exact same.symm
      · exact absurd last (place_not_part wellFormed place')
    · rcases Relation.ReflTransGen.cases_tail path with same | ⟨r, -, last⟩
      · exact same
      · exact absurd last (place_not_part wellFormed place)
  subst same
  refine ⟨rfl, ?_⟩
  obtain ⟨r, child, -, own⟩ := place_parent place
  obtain ⟨r', child', -, own'⟩ := place_parent place'
  obtain rfl := parent_unique wellFormed child child'
  split at own
  · rename_i declarator
    rw [if_pos declarator] at own'
    exact parent_unique wellFormed own own'
  · rename_i other
    rw [if_neg other] at own'
    rw [← own, ← own']

theorem patternParts_nodup (p : NodeId) : (t.patternParts p).Nodup := by
  have distinct := children_nodup wellFormed p
  rw [children] at distinct
  rw [patternParts]
  split
  · rename_i entries shape
    rw [shape] at distinct
    refine List.Nodup.map_on ?_ distinct
    intro e listed e' listed' same
    have child : e ∈ t.children p := by rw [children, shape]; exact listed
    have child' : e' ∈ t.children p := by rw [children, shape]; exact listed'
    have below := wellFormed.descends p e child
    have below' := wellFormed.descends p e' child'
    rcases entryTarget_cases t e with ⟨-, inside⟩ | ⟨-, self⟩ <;>
      rcases entryTarget_cases t e' with ⟨-, inside'⟩ | ⟨-, self'⟩
    · rw [same] at inside
      exact parent_unique wellFormed inside inside'
    · -- An entry is no part of another entry.
      rw [same, self'] at inside
      exact absurd (parent_unique wellFormed inside child') (Nat.ne_of_lt below)
    · rw [← same, self] at inside'
      exact absurd (parent_unique wellFormed inside' child) (Nat.ne_of_lt below')
    · rw [← self, same, self']
  · rename_i elements shape
    rw [shape] at distinct
    exact distinct
  · exact List.nodup_singleton _
  · exact List.nodup_singleton _
  · exact List.nodup_nil

end Unique

section PatternNames

theorem patternNamesWithin_succ (t : Tree) (levels : Nat) (p : NodeId) :
    t.patternNamesWithin (levels + 1) p =
      if t.tag p = .identifier then [p]
      else (t.patternParts p).flatMap (t.patternNamesWithin levels) := by
  rw [patternNamesWithin, patternParts, tag]
  cases t.kind p with
  | objectPattern entries =>
    rw [if_neg (by simp [NodeKind.tag]), List.flatMap_map]
    refine List.flatMap_congr fun e _ => ?_
    rw [entryTarget]
    cases t.kind e <;> rfl
  | _ => simp [NodeKind.tag]

theorem patternParts_identifier {t : Tree} {x : NodeId} (name : t.tag x = .identifier) :
    t.patternParts x = [] := by
  rw [tag] at name
  rw [patternParts]
  cases shape : t.kind x <;> rw [shape] at name <;> first | rfl | cases name

theorem named_of_mem {t : Tree} {levels : Nat} {p x : NodeId}
    (member : x ∈ t.patternNamesWithin levels p) : t.NamedIn p x := by
  induction levels generalizing p with
  | zero => exact absurd member List.not_mem_nil
  | succ levels ih =>
    rw [patternNamesWithin_succ] at member
    split at member
    · rename_i name
      obtain rfl := List.mem_singleton.mp member
      exact ⟨.refl, name⟩
    · obtain ⟨c, part, inside⟩ := List.mem_flatMap.mp member
      obtain ⟨path, name⟩ := ih inside
      exact ⟨.head part path, name⟩

theorem mem_of_path {t : Tree} (wellFormed : t.WellFormed) {p x : NodeId}
    (path : Relation.ReflTransGen t.PatternPart p x) (name : t.tag x = .identifier) :
    ∀ levels : Nat, (p : Nat) < levels → x ∈ t.patternNamesWithin levels p := by
  induction path using Relation.ReflTransGen.head_induction_on with
  | refl =>
    intro levels enough
    obtain ⟨levels, rfl⟩ := Nat.exists_eq_add_one_of_ne_zero (Nat.ne_zero_of_lt enough)
    rw [patternNamesWithin_succ, if_pos name]
    exact List.mem_singleton_self _
  | @head p c part _ ih =>
    intro levels enough
    obtain ⟨levels, rfl⟩ := Nat.exists_eq_add_one_of_ne_zero (Nat.ne_zero_of_lt enough)
    have below := part_lt wellFormed part
    rw [patternNamesWithin_succ, if_neg]
    · refine List.mem_flatMap.mpr ⟨c, part, ih levels ?_⟩
      exact Nat.lt_of_lt_of_le below (Nat.le_of_lt_succ enough)
    · intro isName
      rw [PatternPart, patternParts_identifier isName] at part
      exact List.not_mem_nil part

theorem mem_patternNames {t : Tree} (wellFormed : t.WellFormed) {p x : NodeId} :
    x ∈ t.patternNames p ↔ t.NamedIn p x := by
  constructor
  · exact named_of_mem
  · rintro ⟨path, name⟩
    refine mem_of_path wellFormed path name _ ?_
    refine Nat.lt_succ_of_lt (Nat.lt_of_not_le fun outside => ?_)
    -- A node outside the tree has no parts, and is no identifier.
    have missing : t.kind p = .other "" [] := by rw [kind, Array.getElem?_eq_none outside]
    rcases Relation.ReflTransGen.cases_head path with rfl | ⟨c, part, -⟩
    · simp [tag, missing, NodeKind.tag] at name
    · simp [PatternPart, patternParts, missing] at part

theorem patternNames_nodup {t : Tree} (wellFormed : t.WellFormed) (p : NodeId) :
    (t.patternNames p).Nodup := by
  rw [patternNames]
  generalize t.nodes.size + 1 = levels
  induction levels generalizing p with
  | zero => exact List.nodup_nil
  | succ levels ih =>
    rw [patternNamesWithin_succ]
    split
    · exact List.nodup_singleton _
    · refine List.nodup_flatMap.mpr ⟨fun c _ => ih c, ?_⟩
      refine (patternParts_nodup wellFormed p).imp_of_mem ?_
      intro c c' part part' apart x member member'
      exact apart (part_unique wellFormed part part' (named_of_mem member).1
        (named_of_mem member').1)

end PatternNames

section Bindings

def declaredNames (t : Tree) (node : NodeId) : List NodeId :=
  (t.declaredName? node).toList.filter (t.tag · = .identifier) ++
    (t.declaredPatterns node).flatMap t.patternNames

theorem mem_declaredNames {t : Tree} (wellFormed : t.WellFormed) {node x : NodeId} :
    x ∈ t.declaredNames node ↔ t.Declares node x := by
  rw [declaredNames, Declares, List.mem_append, List.mem_filter, List.mem_flatMap,
    Option.mem_toList, decide_eq_true_eq]
  refine or_congr_right (exists_congr fun p => and_congr_right fun _ => ?_)
  exact mem_patternNames wellFormed

theorem bind_identifiers (t : Tree) (scope : ScopeChain) (node : NodeId) (initialized : Bool)
    (x : NodeId) :
    (t.bind scope node initialized x).map (·.identifier) = [x].filter (t.tag · = .identifier) := by
  rw [bind, List.filter_singleton, tag]
  cases t.kind x <;> rfl

theorem bindPattern_identifiers (t : Tree) (scope : ScopeChain) (node : NodeId)
    (initialized : Bool) (p : NodeId) :
    (t.bindPattern scope node initialized p).map (·.identifier) = t.patternNames p := by
  rw [bindPattern, List.map_flatMap]
  calc (t.patternNames p).flatMap (fun x => (t.bind scope node initialized x).map (·.identifier))
      = (t.patternNames p).flatMap fun x => [x] := by
        refine List.flatMap_congr fun x member => ?_
        rw [bind_identifiers, List.filter_singleton, (named_of_mem member).2]
        rfl
    _ = t.patternNames p := List.flatMap_singleton' _

theorem bindingsAt_identifiers (t : Tree) (node : NodeId) (outer : ScopeChain) :
    (t.bindingsAt node outer).map (·.identifier) = t.declaredNames node := by
  rw [bindingsAt, declaredNames, declaredName?, declaredPatterns]
  cases t.kind node with
  | variableDeclaration kind declarations =>
    rw [List.flatMap_assoc, List.map_flatMap]
    refine List.flatMap_congr fun d _ => ?_
    rw [declaratorPattern?]
    cases t.kind d with
    | variableDeclarator pattern init =>
      rw [Option.toList_some, List.flatMap_singleton]
      exact bindPattern_identifiers t _ node _ pattern
    | _ => rfl
  | function kind name params body =>
    have patterns : (params.flatMap (t.bindPattern (t.enter outer node) node false)).map
        (·.identifier) = params.flatMap t.patternNames := by
      rw [List.map_flatMap]
      exact List.flatMap_congr fun p _ => bindPattern_identifiers t _ node false p
    rw [List.map_append, patterns]
    refine congrArg (· ++ _) ?_
    cases name with
    | none => cases kind <;> rfl
    | some name =>
      cases kind with
      | arrow => rfl
      | declaration => exact bind_identifiers t outer node false name
      | expression => exact bind_identifiers t _ node false name
  | classDefinition kind name heritage members =>
    rw [List.flatMap_nil, List.append_nil]
    cases name with
    | none => cases kind <;> rfl
    | some name => cases kind <;> exact bind_identifiers t _ node false name
  | catchClause param body =>
    rw [List.map_flatMap]
    exact List.flatMap_congr fun p _ => bindPattern_identifiers t _ node false p
  | importDefaultSpecifier name | importNamespaceSpecifier name | importSpecifier _ name
  | interfaceDeclaration name _ _ | typeAliasDeclaration name _ _ | enumDeclaration name _
  | typeParameter name =>
    rw [List.flatMap_nil, List.append_nil]
    exact bind_identifiers t _ node false name
  | _ => rfl

theorem places_nodup {t : Tree} (wellFormed : t.WellFormed) (node : NodeId) :
    ((t.declaredName? node).toList ++ t.declaredPatterns node).Nodup := by
  have distinct := children_nodup wellFormed node
  rw [children] at distinct
  rw [declaredName?, declaredPatterns]
  cases shape : t.kind node with
  | variableDeclaration kind declarations =>
    rw [shape] at distinct
    have parent : ∀ d p, p ∈ (t.declaratorPattern? d).toList → p ∈ t.children d := by
      intro d p own
      rw [declaratorPattern?] at own
      rw [children]
      split at own
      · rename_i pattern init declarator
        rw [declarator, List.mem_singleton.mp own]
        exact List.mem_cons_self
      · exact absurd own List.not_mem_nil
    refine List.nodup_flatMap.mpr ⟨fun d _ => ?_, ?_⟩
    · cases t.declaratorPattern? d with
      | none => exact List.nodup_nil
      | some p => exact List.nodup_singleton _
    · refine distinct.imp fun apart p own own' => ?_
      exact apart (parent_unique wellFormed (parent _ p own) (parent _ p own'))
  | function kind name params body =>
    rw [shape] at distinct
    have front : (name.toList ++ params).Nodup := (List.nodup_append.mp distinct).1
    cases kind with
    | arrow => exact (List.nodup_append.mp front).2.1
    | declaration => exact front
    | expression => exact front
  | classDefinition kind name heritage members =>
    rw [List.append_nil]
    cases name with
    | none => exact List.nodup_nil
    | some name => exact List.nodup_singleton _
  | catchClause param body =>
    cases param with
    | none => exact List.nodup_nil
    | some param => exact List.nodup_singleton _
  | _ => simp

theorem declaredNames_nodup {t : Tree} (wellFormed : t.WellFormed) (node : NodeId) :
    (t.declaredNames node).Nodup := by
  obtain ⟨own, patterns, apart⟩ := List.nodup_append.mp (places_nodup wellFormed node)
  refine List.nodup_append.mpr ⟨own.filter _, ?_, ?_⟩
  · refine List.nodup_flatMap.mpr ⟨fun p _ => patternNames_nodup wellFormed p, ?_⟩
    refine patterns.imp_of_mem fun listed listed' other x member member' => other ?_
    exact (place_unique wellFormed (Or.inr listed) (Or.inr listed') (named_of_mem member).1
      (named_of_mem member').1).1
  · rintro x named y member rfl
    obtain ⟨p, listed, inside⟩ := List.mem_flatMap.mp member
    have name := (List.mem_filter.mp named).1
    obtain rfl : x = p := (place_unique wellFormed (Or.inl (Option.mem_toList.mp name))
      (Or.inr listed) .refl (named_of_mem inside).1).1
    exact apart x name x listed rfl

theorem declares_unique {t : Tree} (wellFormed : t.WellFormed) {node node' x : NodeId}
    (first : t.Declares node x) (second : t.Declares node' x) : node = node' := by
  have place : ∀ n, t.Declares n x → ∃ q,
      (t.declaredName? n = some q ∨ q ∈ t.declaredPatterns n) ∧
        Relation.ReflTransGen t.PatternPart q x := by
    rintro n (⟨name, -⟩ | ⟨p, listed, path, -⟩)
    · exact ⟨x, Or.inl name, .refl⟩
    · exact ⟨p, Or.inr listed, path⟩
  obtain ⟨q, own, path⟩ := place node first
  obtain ⟨q', own', path'⟩ := place node' second
  exact (place_unique wellFormed own own' path path').2

theorem declares_lt {t : Tree} {node x : NodeId} (declares : t.Declares node x) :
    node < t.nodes.size := by
  refine lt_of_kind fun missing => ?_
  rcases declares with ⟨name, -⟩ | ⟨p, listed, -⟩
  · simp [declaredName?, missing] at name
  · simp [declaredPatterns, missing] at listed

theorem bindings_identifiers (t : Tree) :
    t.bindings.map (·.identifier) = t.walk.flatMap t.declaredNames := by
  rw [bindings, List.map_flatMap, ← scopedNodes_nodes, List.flatMap_map]
  exact List.flatMap_congr fun entry _ => bindingsAt_identifiers t entry.1 entry.2

theorem bindings_identifiers_nodup {t : Tree} (wellFormed : t.WellFormed) :
    (t.bindings.map (·.identifier)).Nodup := by
  rw [bindings_identifiers]
  refine List.nodup_flatMap.mpr ⟨fun node _ => declaredNames_nodup wellFormed node, ?_⟩
  refine ((walk_perm wellFormed).nodup_iff.mpr List.nodup_range).imp fun apart x one other => ?_
  refine apart ?_
  exact declares_unique wellFormed ((mem_declaredNames wellFormed).mp one)
    ((mem_declaredNames wellFormed).mp other)

theorem mem_bindings_identifiers {t : Tree} (wellFormed : t.WellFormed) {x : NodeId} :
    x ∈ t.bindings.map (·.identifier) ↔ ∃ node, t.Declares node x := by
  rw [bindings_identifiers, List.mem_flatMap]
  constructor
  · rintro ⟨node, -, member⟩
    exact ⟨node, (mem_declaredNames wellFormed).mp member⟩
  · rintro ⟨node, declares⟩
    refine ⟨node, ?_, (mem_declaredNames wellFormed).mpr declares⟩
    exact (walk_perm wellFormed).mem_iff.mpr (List.mem_range.mpr (declares_lt declares))

theorem bindings_inj {t : Tree} (wellFormed : t.WellFormed) {b b' : Binding}
    (one : b ∈ t.bindings) (other : b' ∈ t.bindings) (same : b.identifier = b'.identifier) :
    b = b' :=
  List.inj_on_of_nodup_map (bindings_identifiers_nodup wellFormed) one other same

theorem mem_bind_fields {t : Tree} {scope : ScopeChain} {node x : NodeId} {initialized : Bool}
    {b : Binding} (member : b ∈ t.bind scope node initialized x) :
    b.identifier = x ∧ t.kind x = .identifier b.name ∧ b.initialized = initialized := by
  rw [bind] at member
  split at member
  · rename_i name shape
    obtain rfl := List.mem_singleton.mp member
    exact ⟨rfl, shape, rfl⟩
  · exact absurd member List.not_mem_nil

theorem mem_bindingsAt_fields {t : Tree} {node : NodeId} {outer : ScopeChain} {b : Binding}
    (member : b ∈ t.bindingsAt node outer) :
    t.kind b.identifier = .identifier b.name ∧
      (b.initialized = true → t.Initializes b.identifier) := by
  -- Whatever is not in a declarator has no first value.
  have plain : ∀ {scope x}, b ∈ t.bind scope node false x →
      t.kind b.identifier = .identifier b.name ∧
        (b.initialized = true → t.Initializes b.identifier) := by
    intro scope x bound
    obtain ⟨rfl, shape, unset⟩ := mem_bind_fields bound
    refine ⟨shape, fun set => ?_⟩
    rw [unset] at set
    exact Bool.noConfusion set
  have plainPattern : ∀ {scope p}, b ∈ t.bindPattern scope node false p →
      t.kind b.identifier = .identifier b.name ∧
        (b.initialized = true → t.Initializes b.identifier) := by
    intro scope p bound
    obtain ⟨x, -, own⟩ := List.mem_flatMap.mp bound
    exact plain own
  rw [bindingsAt] at member
  split at member
  · rename_i kind declarations shape
    obtain ⟨d, listed, bound⟩ := List.mem_flatMap.mp member
    split at bound
    · rename_i pattern init declarator
      obtain ⟨x, named, own⟩ := List.mem_flatMap.mp bound
      obtain ⟨rfl, name, set⟩ := mem_bind_fields own
      refine ⟨name, fun marked => ?_⟩
      obtain ⟨value, rfl⟩ := Option.isSome_iff_exists.mp (set.symm.trans marked)
      exact ⟨node, kind, declarations, d, pattern, value, shape, listed, declarator,
        named_of_mem named⟩
    · exact absurd bound List.not_mem_nil
  · rcases List.mem_append.mp member with own | param
    · split at own
      · exact plain own
      · exact plain own
      · exact absurd own List.not_mem_nil
    · obtain ⟨p, -, bound⟩ := List.mem_flatMap.mp param
      exact plainPattern bound
  · split at member
    · exact plain member
    · exact plain member
    · exact absurd member List.not_mem_nil
  · obtain ⟨p, -, bound⟩ := List.mem_flatMap.mp member
    exact plainPattern bound
  iterate 7
    · exact plain member
  · exact absurd member List.not_mem_nil

theorem binding_name {t : Tree} {b : Binding} (member : b ∈ t.bindings) :
    t.kind b.identifier = .identifier b.name := by
  obtain ⟨node, outer, -, made⟩ := mem_bindings.mp member
  exact (mem_bindingsAt_fields made).1

theorem initialized_iff {t : Tree} (wellFormed : t.WellFormed) {b : Binding}
    (member : b ∈ t.bindings) : b.initialized = true ↔ t.Initializes b.identifier := by
  constructor
  · obtain ⟨node, outer, -, made⟩ := mem_bindings.mp member
    exact (mem_bindingsAt_fields made).2
  · rintro ⟨node, kind, declarations, d, p, value, shape, listed, declarator, named⟩
    -- The declarator makes a binding of the identifier, and there is only one.
    have bound : node < t.nodes.size := lt_of_kind (by simp [shape])
    obtain ⟨outer, entry⟩ := scopedNodes_total wellFormed bound
    have name := binding_name member
    let scope := if kind = .var then hoist outer else outer
    have made : (⟨scope, b.name, b.identifier, node, true⟩ : Binding) ∈ t.bindings := by
      refine mem_bindings.mpr ⟨node, outer, entry, ?_⟩
      rw [bindingsAt, shape]
      refine List.mem_flatMap.mpr ⟨d, listed, ?_⟩
      rw [declarator]
      refine List.mem_flatMap.mpr ⟨b.identifier, (mem_patternNames wellFormed).mpr named, ?_⟩
      rw [bind, name]
      exact List.mem_singleton_self _
    rw [bindings_inj wellFormed member made rfl]

end Bindings

end Tree

end ScriptLint
