import ScriptLint.Proofs.Lint.Shares
import ScriptLint.Proofs.Reordering.Tidy
import ScriptLint.Proofs.Syntax.WellFormed
import ScriptLint.Proofs.Template

/-!
Complexity is reported once for each greatest expression.

The nodes that count as operators make up expression trees. A walk meets the top of such a tree
before its other nodes, and the measurement made there puts all of them on the list of measured
nodes. So a node that counts is found on the list exactly when it is not the top of its tree.
-/
namespace ScriptLint.Complexity

variable {o : ComplexityOptions} {t : Tree}

def counts (o : ComplexityOptions) (t : Tree) (id : NodeId) : Bool :=
  (operands? o (t.kind id)).isSome

def isTop (o : ComplexityOptions) (t : Tree) (id : NodeId) : Bool :=
  counts o t id && !(t.parent? id).any (counts o t)

def excess (o : ComplexityOptions) (t : Tree) (id : NodeId) (span : Span) : List Finding :=
  (if 0 < o.maxHeight ∧ (o.maxHeight : Int) < height o t id then
    [tooTall span (height o t id).toNat o.maxHeight] else []) ++
  if 0 < o.maxTerms ∧ o.maxTerms < terms o t id then
    [tooManyTerms span (terms o t id) o.maxTerms] else []

def due (o : ComplexityOptions) (t : Tree) (id : NodeId) : List Finding :=
  if isTop o t id then (t.span? id).toList.flatMap (excess o t id) else []

def tallMessage (height limit : Nat) : Text :=
  "Expression height is ".toList ++ Text.ofNat height ++
    ("; max allowed is ".toList ++ Text.ofNat limit)

def termsMessage (terms limit : Nat) : Text :=
  "Expression has ".toList ++ Text.ofNat terms ++
    (" terms; max allowed is ".toList ++ Text.ofNat limit)

/-- What is told about a node: the id of each message, its place and its text. -/
def notices (o : ComplexityOptions) (t : Tree) (id : NodeId) : List (String × Span × Text) :=
  if isTop o t id then (t.span? id).toList.flatMap fun span =>
    (if 0 < o.maxHeight ∧ (o.maxHeight : Int) < height o t id then
      [("tooTall", span, tallMessage (height o t id).toNat o.maxHeight)] else []) ++
    if 0 < o.maxTerms ∧ o.maxTerms < terms o t id then
      [("tooManyTerms", span, termsMessage (terms o t id) o.maxTerms)] else []
  else []

section Recursion

variable {β : Type} {absent : β} {leaf : NodeId → β} {join : NodeId → List β → β}

/-- A measure of a node, given the measures of its operands. -/
def combine (o : ComplexityOptions) (t : Tree) (absent : β) (leaf : NodeId → β)
    (join : NodeId → List β → β) (below : NodeId → β) (id : NodeId) : β :=
  if t.tag id = .privateIdentifier then absent
  else match operands? o (t.kind id) with
    | some children => join id (children.map below)
    | none => leaf id

theorem operands?_children {kind : NodeKind} {children : List NodeId}
    (counted : operands? o kind = some children) : kind.children = children := by
  unfold operands? at counted
  split at counted
  · exact Option.some.inj counted
  · split at counted
    · exact Option.some.inj counted
    · cases counted
  · split at counted
    · exact Option.some.inj counted
    · cases counted
  · split at counted
    · exact Option.some.inj counted
    · cases counted
  · cases counted

theorem combine_congr {f g : NodeId → β} {id : NodeId} (same : ∀ c ∈ t.children id, f c = g c) :
    combine o t absent leaf join f id = combine o t absent leaf join g id := by
  unfold combine
  split
  · rfl
  · cases counted : operands? o (t.kind id) with
    | none => rfl
    | some children =>
      have own : t.children id = children := operands?_children counted
      rw [own] at same
      exact congrArg (join id) (List.map_congr_left same)

theorem combine_levels {F : Nat → NodeId → β} (wellFormed : t.WellFormed)
    (step : ∀ levels id, F (levels + 1) id = combine o t absent leaf join (F levels) id)
    (id : NodeId) :
    F (t.nodes.size + 1) id = combine o t absent leaf join (F (t.nodes.size + 1)) id := by
  have stable : ∀ levels levels' id : Nat, id < levels → id < levels' →
      F levels id = F levels' id := by
    intro levels
    induction levels with
    | zero =>
      intro levels' id enough
      omega
    | succ levels ih =>
      intro levels' id enough enough'
      obtain ⟨rest, rfl⟩ : ∃ rest, levels' = rest + 1 := ⟨levels' - 1, by omega⟩
      rw [step, step]
      apply combine_congr
      intro c child
      have below := wellFormed.descends id c child
      exact ih rest c (by omega) (by omega)
  rw [step]
  apply combine_congr
  intro c child
  have below := wellFormed.descends id c child
  have inside := Tree.parent_lt child
  exact stable _ _ c (by omega) (by omega)

variable (wellFormed : t.WellFormed) (id : NodeId)
include wellFormed

theorem height_eq : height o t id = combine o t (-1) (fun _ => 0)
    (fun _ heights => heights.foldl max (-1) + 1) (height o t) id :=
  combine_levels wellFormed (fun _ _ => rfl) id

theorem terms_eq : terms o t id =
    combine o t 0 (fun _ => 1) (fun _ terms => terms.sum) (terms o t) id :=
  combine_levels wellFormed (fun _ _ => rfl) id

theorem measured_eq : measured o t id =
    combine o t [] (fun id => [id]) (fun id below => id :: below.flatten) (measured o t) id :=
  combine_levels wellFormed (fun _ _ => rfl) id

end Recursion

section Measured

variable (wellFormed : t.WellFormed)
include wellFormed

theorem measured_counts {id : NodeId} (counted : counts o t id = true) :
    measured o t id = id :: (t.children id).flatMap (measured o t) := by
  obtain ⟨children, operands⟩ := Option.isSome_iff_exists.mp counted
  have own : t.children id = children := operands?_children operands
  have shown : t.tag id ≠ .privateIdentifier := by
    intro hidden
    unfold Tree.tag at hidden
    cases kind : t.kind id <;> rw [kind] at hidden operands <;> cases hidden
    cases operands
  rw [measured_eq wellFormed, combine, if_neg shown, operands, own, List.flatMap_def]

theorem measured_quiet {id x : NodeId} (quiet : ¬ counts o t id = true)
    (member : x ∈ measured o t id) : x = id := by
  rw [measured_eq wellFormed, combine] at member
  split at member
  · cases member
  · have none : operands? o (t.kind id) = none := by simpa [counts] using quiet
    rw [none] at member
    exact List.mem_singleton.mp member

theorem mem_measured {id : NodeId} (counted : counts o t id = true) : id ∈ measured o t id := by
  rw [measured_counts wellFormed counted]
  exact List.mem_cons_self

theorem measured_below {id x : Nat} (member : x ∈ measured o t id) :
    x = id ∨ ∃ p, counts o t p = true ∧ x ∈ t.children p := by
  induction id using Nat.strongRecOn with
  | ind id ih =>
    by_cases counted : counts o t id = true
    · rw [measured_counts wellFormed counted] at member
      rcases List.mem_cons.mp member with same | below
      · exact Or.inl same
      · obtain ⟨c, child, inside⟩ := List.mem_flatMap.mp below
        rcases ih c (wellFormed.descends id c child) inside with rfl | operand
        · exact Or.inr ⟨id, counted, child⟩
        · exact Or.inr operand
    · exact Or.inl (measured_quiet wellFormed counted member)

theorem measured_closed {id p c : Nat} (member : p ∈ measured o t id)
    (counted : counts o t p = true) (child : c ∈ t.children p) (operator : counts o t c = true) :
    c ∈ measured o t id := by
  induction id using Nat.strongRecOn with
  | ind id ih =>
    by_cases top : counts o t id = true
    · rw [measured_counts wellFormed top] at member ⊢
      rcases List.mem_cons.mp member with rfl | below
      · exact List.mem_cons_of_mem _
          (List.mem_flatMap.mpr ⟨c, child, mem_measured wellFormed operator⟩)
      · obtain ⟨q, inner, inside⟩ := List.mem_flatMap.mp below
        have lower := ih q (wellFormed.descends id q inner) inside
        exact List.mem_cons_of_mem _ (List.mem_flatMap.mpr ⟨q, inner, lower⟩)
    · rw [measured_quiet wellFormed top member] at counted
      exact absurd counted top

theorem isTop_iff {id : NodeId} : isTop o t id = true ↔
    counts o t id = true ∧ ∀ p, id ∈ t.children p → ¬ counts o t p = true := by
  unfold isTop
  rw [Bool.and_eq_true, Bool.not_eq_true', Option.any_eq_false]
  constructor
  · rintro ⟨counted, free⟩
    refine ⟨counted, ?_⟩
    intro p child
    exact Bool.eq_false_iff.mp (free p ((Tree.parent?_iff wellFormed).mpr child))
  · rintro ⟨counted, free⟩
    refine ⟨counted, ?_⟩
    intro p told
    exact Bool.eq_false_iff.mpr (free p ((Tree.parent?_iff wellFormed).mp told))

end Measured

structure Memo (o : ComplexityOptions) (t : Tree) (done seen : List NodeId) : Prop where
  closed : ∀ p ∈ seen, ∀ c ∈ t.children p, counts o t p = true → counts o t c = true → c ∈ seen
  covers : ∀ id ∈ done, counts o t id = true → id ∈ seen
  fresh : ∀ id ∈ seen, id ∈ done ∨ ∃ p, counts o t p = true ∧ id ∈ t.children p

namespace Memo

variable {done rest seen : List NodeId} {id : NodeId}

theorem start : Memo o t [] [] := by
  constructor <;> intro id member <;> cases member

theorem pass (memo : Memo o t done seen) (known : counts o t id = true → id ∈ seen) :
    Memo o t (done ++ [id]) seen := by
  constructor
  · exact memo.closed
  · intro x member counted
    rcases List.mem_append.mp member with before | here
    · exact memo.covers x before counted
    · rw [List.mem_singleton.mp here] at counted ⊢
      exact known counted
  · intro x member
    rcases memo.fresh x member with before | operand
    · exact Or.inl (List.mem_append_left _ before)
    · exact Or.inr operand

theorem measure (memo : Memo o t done seen) (wellFormed : t.WellFormed)
    (counted : counts o t id = true) : Memo o t (done ++ [id]) (measured o t id ++ seen) := by
  constructor
  · intro p member c child operator inner
    rcases List.mem_append.mp member with new | old
    · exact List.mem_append_left _ (measured_closed wellFormed new operator child inner)
    · exact List.mem_append_right _ (memo.closed p old c child operator inner)
  · intro x member operator
    rcases List.mem_append.mp member with before | here
    · exact List.mem_append_right _ (memo.covers x before operator)
    · rw [List.mem_singleton.mp here]
      exact List.mem_append_left _ (mem_measured wellFormed counted)
  · intro x member
    rcases List.mem_append.mp member with new | old
    · rcases measured_below wellFormed new with rfl | operand
      · exact Or.inl (List.mem_append_right _ (List.mem_singleton_self _))
      · exact Or.inr operand
    · rcases memo.fresh x old with before | operand
      · exact Or.inl (List.mem_append_left _ before)
      · exact Or.inr operand

/-- At its turn a node that counts is on the list exactly when its tree has a higher top. -/
theorem mem_iff (memo : Memo o t done seen) (wellFormed : t.WellFormed)
    (split : t.walk = done ++ id :: rest) (counted : counts o t id = true) :
    id ∈ seen ↔ ¬ isTop o t id = true := by
  rw [isTop_iff wellFormed]
  constructor
  · intro member
    rintro ⟨-, free⟩
    rcases memo.fresh id member with before | ⟨p, operator, child⟩
    · have once : t.walk.Nodup := (Tree.walk_perm wellFormed).nodup_iff.mpr List.nodup_range
      rw [split] at once
      exact (List.nodup_append.mp once).2.2 id before id List.mem_cons_self rfl
    · exact free p child operator
  · intro inner
    obtain ⟨p, child, operator⟩ : ∃ p, id ∈ t.children p ∧ counts o t p = true := by
      by_contra free
      apply inner
      refine ⟨counted, ?_⟩
      intro p child operator
      exact free ⟨p, child, operator⟩
    -- The parent had its turn before, so it was measured, and its operands with it.
    have before := Tree.parent_before wellFormed split child
    exact memo.closed p (memo.covers p before operator) id child operator counted

end Memo

def check (limit : Nat) (found : List Finding) (measured seen : List NodeId) (id : NodeId) :
    List Finding × List NodeId :=
  if limit = 0 || seen.contains id then ([], seen) else (found, measured ++ seen)

theorem checkHeight_eq (seen : List NodeId) (id : NodeId) (span : Span) :
    checkHeight o t seen id span = check o.maxHeight
      (if (o.maxHeight : Int) < height o t id then
        [tooTall span (height o t id).toNat o.maxHeight] else []) (measured o t id) seen id :=
  rfl

theorem checkTerms_eq (seen : List NodeId) (id : NodeId) (span : Span) :
    checkTerms o t seen id span = check o.maxTerms
      (if o.maxTerms < terms o t id then [tooManyTerms span (terms o t id) o.maxTerms] else [])
      (measured o t id) seen id :=
  rfl

section Check

variable {limit : Nat} {done rest seen : List NodeId} {id : NodeId}

theorem check_findings (wellFormed : t.WellFormed) (split : t.walk = done ++ id :: rest)
    (counted : counts o t id = true) (memo : 0 < limit → Memo o t done seen)
    (found : List Finding) :
    (check limit found (measured o t id) seen id).1 =
      if isTop o t id = true then if 0 < limit then found else [] else [] := by
  unfold check
  by_cases limited : 0 < limit
  · have member := (memo limited).mem_iff wellFormed split counted
    have positive : limit ≠ 0 := by omega
    by_cases known : id ∈ seen
    · rw [if_pos (by simp [known]), if_neg (member.mp known)]
    · have top : isTop o t id = true := by
        by_contra inner
        exact known (member.mpr inner)
      rw [if_neg (by simp [positive, known]), if_pos top, if_pos limited]
  · have none : limit = 0 := by omega
    rw [if_pos (by simp [none]), if_neg limited, ite_self]

theorem check_memo (wellFormed : t.WellFormed) (counted : counts o t id = true)
    (memo : 0 < limit → Memo o t done seen) (found : List Finding) (limited : 0 < limit) :
    Memo o t (done ++ [id]) (check limit found (measured o t id) seen id).2 := by
  unfold check
  have now := memo limited
  split
  · rename_i skipped
    have known : id ∈ seen := by
      have positive : limit ≠ 0 := by omega
      simpa [positive] using skipped
    exact now.pass fun _ => known
  · exact now.measure wellFormed counted

end Check

structure Kept (o : ComplexityOptions) (t : Tree) (done : List NodeId) (s : State) : Prop where
  heights : 0 < o.maxHeight → Memo o t done s.heights
  terms : 0 < o.maxTerms → Memo o t done s.terms

variable {file : SourceFile} {settings : Settings}

theorem visit_due {done rest : List NodeId} {id : NodeId} {s : State}
    (wellFormed : file.tree.WellFormed) (placed : (file.tree.span? id).isSome = true)
    (split : file.tree.walk = done ++ id :: rest) (kept : Kept o file.tree done s) :
    ∃ s', visit o file s id = ⟨due o file.tree id, .ok s'⟩ ∧ Kept o file.tree (done ++ [id]) s' := by
  obtain ⟨span, place⟩ := Option.isSome_iff_exists.mp placed
  unfold visit due
  by_cases counted : counts o file.tree id = true
  · have operands : ¬ (operands? o (file.tree.kind id)).isNone = true := by
      rw [Option.isNone_iff_eq_none]
      exact Option.isSome_iff_ne_none.mp counted
    rw [if_neg operands, place_eq_ok.mpr place, place]
    dsimp only
    rw [checkHeight_eq, checkTerms_eq]
    rw [check_findings wellFormed split counted kept.heights,
      check_findings wellFormed split counted kept.terms]
    refine ⟨_, congrArg (Step.mk · _) ?_, ?_⟩
    · by_cases top : isTop o file.tree id = true
      · rw [if_pos top, if_pos top, if_pos top, ← ite_and, ← ite_and, Option.toList_some,
          List.flatMap_singleton]
        rfl
      · rw [if_neg top, if_neg top, if_neg top]
        rfl
    · exact ⟨check_memo wellFormed counted kept.heights _, check_memo wellFormed counted kept.terms _⟩
  · have quiet : (operands? o (file.tree.kind id)).isNone = true := by simpa [counts] using counted
    have inner : ¬ isTop o file.tree id = true := by simp [isTop, counted]
    rw [if_pos quiet, if_neg inner]
    refine ⟨s, rfl, ?_, ?_⟩
    · intro limited
      exact (kept.heights limited).pass fun operator => absurd operator counted
    · intro limited
      exact (kept.terms limited).pass fun operator => absurd operator counted

theorem due_known {id : NodeId} {f : Finding} (member : f ∈ due o t id) :
    f.IsKnown ∧ f.lint = .logicalExpressionComplexity := by
  unfold due at member
  split at member
  · obtain ⟨span, -, inside⟩ := List.mem_flatMap.mp member
    unfold excess at inside
    rcases List.mem_append.mp inside with tall | long
    · split at tall
      · rw [List.mem_singleton.mp tall]
        exact ⟨rfl, rfl⟩
      · cases tall
    · split at long
      · rw [List.mem_singleton.mp long]
        exact ⟨rfl, rfl⟩
      · cases long
  · cases member

theorem call_due (settings : Settings) {done rest : List NodeId} {id : NodeId} {s : State}
    (wellFormed : file.tree.WellFormed) (placed : (file.tree.span? id).isSome = true)
    (split : file.tree.walk = done ++ id :: rest) (kept : Kept o file.tree done s) :
    ∃ s', Running.call settings file ⟨rule o, s⟩ id =
        ((diagnoseAll settings file (due o file.tree id)).1, .ok ⟨rule o, s'⟩) ∧
      Kept o file.tree (done ++ [id]) s' := by
  obtain ⟨s', step, next⟩ := visit_due wellFormed placed split kept
  exact ⟨s', Running.call_eq step fun f member => (due_known member).1, next⟩

theorem work_due {done rest : List NodeId} {s : State} (wellFormed : file.tree.WellFormed)
    (placed : ∀ id ∈ file.tree.walk, (file.tree.span? id).isSome = true)
    (split : file.tree.walk = done ++ rest) (kept : Kept o file.tree done s) :
    Running.work settings file ⟨rule o, s⟩ rest =
      (rest.flatMap fun id => (diagnoseAll settings file (due o file.tree id)).1, none) := by
  induction rest generalizing done s with
  | nil => rfl
  | cons id rest ih =>
    have inside : id ∈ file.tree.walk := by
      rw [split]
      exact List.mem_append_right _ List.mem_cons_self
    obtain ⟨s', called, next⟩ := call_due settings wellFormed (placed id inside) split kept
    rw [Running.work_cons, called, List.flatMap_cons]
    dsimp only
    rw [ih (by rw [split, List.append_assoc]; rfl) next]

theorem selected {id : NodeId} (counted : counts o t id = true) :
    (selectors o).any (·.accepts (t.tag id) (t.parentTag? id)) = true := by
  unfold counts operands? at counted
  unfold Tree.tag
  split at counted
  · rename_i kind
    rw [kind]
    rfl
  · rename_i kind
    rw [kind]
    rfl
  · rename_i kind
    rw [kind]
    rfl
  · rename_i kind
    rw [kind]
    split at counted
    · rename_i included
      unfold selectors
      rw [included]
      rfl
    · cases counted
  · cases counted

theorem visit_unselected {id : NodeId} {s : State} (unselected : ¬ (selectors o).any
      (·.accepts (file.tree.tag id) (file.tree.parentTag? id)) = true) :
    visit o file s id = ⟨[], .ok s⟩ := by
  have quiet : (operands? o (file.tree.kind id)).isNone = true := by
    by_contra counted
    apply unselected
    apply selected
    unfold counts
    rwa [Bool.not_eq_true, Option.isNone_eq_false_iff] at counted
  unfold visit
  rw [if_pos quiet]
  rfl

theorem work_nodes (wellFormed : file.tree.WellFormed)
    (placed : ∀ id ∈ file.tree.walk, (file.tree.span? id).isSome = true) :
    ((rule o).run file).work settings file ((rule o).nodes file) =
      (file.tree.walk.flatMap fun id => (diagnoseAll settings file (due o file.tree id)).1, none) := by
  unfold Rule.nodes
  rw [Running.work_filter]
  · have start : Kept o file.tree [] {} := ⟨fun _ => Memo.start, fun _ => Memo.start⟩
    exact work_due wellFormed placed rfl start
  · rintro ⟨_, s⟩ rfl id unselected
    have step : (rule o).visit file s id = ⟨[], .ok s⟩ := visit_unselected unselected
    exact Running.call_eq step (by simp)

theorem due_inside (wellFormed : t.WellFormed) {id p : NodeId} (inside : id ∈ measured o t p)
    (other : id ≠ p) : due o t id = [] := by
  rcases measured_below wellFormed inside with same | ⟨q, counted, child⟩
  · exact absurd same other
  · have inner : ¬ isTop o t id = true := by
      rw [isTop_iff wellFormed]
      rintro ⟨-, free⟩
      exact free q child counted
    unfold due
    rw [if_neg inner]

theorem render_two {data : List (Text × Text)} {front middle t t' key key' a b : Text}
    (plain : ∀ c ∈ front, c ≠ '\x7b' ∧ c ≠ '\x7d') (plain' : ∀ c ∈ middle, c ≠ '\x7b' ∧ c ≠ '\x7d')
    (found : Template.keyAfterBraces? t = some (key, middle ++ '\x7b' :: '\x7b' :: t'))
    (found' : Template.keyAfterBraces? t' = some (key', []))
    (value : Template.valueOf data key = some a) (value' : Template.valueOf data key' = some b) :
    Template.render data (front ++ '\x7b' :: '\x7b' :: t) = front ++ a ++ (middle ++ b) := by
  rw [Template.render_literal _ _ plain, Template.render_braces _ found, value,
    Template.render_literal _ _ plain', Template.render_braces _ found', value', Template.render]
  simp

def told? (f : Finding) : Option (String × Span × Text) :=
  (f.lint.render? f.messageId f.data).map fun message => (f.messageId, f.span, message)

theorem told_tooTall (span : Span) (height limit : Nat) :
    told? (tooTall span height limit) = some ("tooTall", span, tallMessage height limit) := by
  apply congrArg fun message => some ("tooTall", span, message)
  exact @render_two _ "Expression height is ".toList "; max allowed is ".toList
    "height\x7d\x7d; max allowed is \x7b\x7bmaxAllowed\x7d\x7d".toList "maxAllowed\x7d\x7d".toList
    _ _ _ _ (by simp) (by simp) (by cbv) (by cbv) rfl rfl

theorem told_tooManyTerms (span : Span) (terms limit : Nat) :
    told? (tooManyTerms span terms limit) =
      some ("tooManyTerms", span, termsMessage terms limit) := by
  apply congrArg fun message => some ("tooManyTerms", span, message)
  exact @render_two _ "Expression has ".toList " terms; max allowed is ".toList
    "numTerms\x7d\x7d terms; max allowed is \x7b\x7bmaxAllowed\x7d\x7d".toList
    "maxAllowed\x7d\x7d".toList _ _ _ _ (by simp) (by simp) (by cbv) (by cbv) rfl rfl

theorem due_told (o : ComplexityOptions) (t : Tree) (id : NodeId) :
    (due o t id).map told? = (notices o t id).map some := by
  unfold due notices
  split
  · cases t.span? id with
    | none => rfl
    | some span =>
      have tall := told_tooTall span (height o t id).toNat o.maxHeight
      have long := told_tooManyTerms span (terms o t id) o.maxTerms
      simp only [Option.toList_some, List.flatMap_singleton, excess, List.map_append]
      congr 1
      · split
        · simp only [List.map_singleton, tall]
        · rfl
      · split
        · simp only [List.map_singleton, long]
        · rfl
  · rfl

theorem told_of_diagnose {fs : List Finding} {ds : List Diagnostic}
    (made : List.Forall₂ (fun f d => f.diagnose settings file = .ok (some d)) fs ds) :
    fs.map told? = (ds.map fun d => (d.messageId, d.span, d.message)).map some := by
  induction made with
  | nil => rfl
  | cons first rest ih =>
    have becomes := diagnose_some first
    rw [List.map_cons, ih, told?, becomes.message, ← becomes.messageId, ← becomes.span]
    rfl

theorem due_shown (level : settings.levelOf Lint.logicalExpressionComplexity.name ≠ .allow) :
    List.Forall₂ (fun f d => f.diagnose settings file = .ok (some d))
      (file.tree.walk.flatMap (due o file.tree))
      (file.tree.walk.flatMap fun id => (diagnoseAll settings file (due o file.tree id)).1) := by
  have each : ∀ id, List.Forall₂ (fun f d => f.diagnose settings file = .ok (some d))
      (due o file.tree id) (diagnoseAll settings file (due o file.tree id)).1 := by
    intro id
    apply diagnoseAll_shown
    · exact fun f member => (due_known member).1
    · intro f member
      rw [(due_known member).2]
      exact level
  exact List.rel_flatMap (R := Eq) (List.forall₂_refl _) fun id _ same => same ▸ each id

/-- A walk reports exactly what is due: for each operator whose parent is no operator its height
and its number of terms, each with its limit when it has one and exceeds it, and nothing for the
nodes measured inside of another one. -/
theorem complexity_reported_at_tops {r : Rule} (made : rule? o = .ok r)
    (level : settings.levelOf Lint.logicalExpressionComplexity.name ≠ .allow)
    (wellFormed : file.tree.WellFormed)
    (placed : ∀ id ∈ file.tree.walk, (file.tree.span? id).isSome = true) :
    (∀ id, height o file.tree id = combine o file.tree (-1) (fun _ => 0)
      (fun _ heights => heights.foldl max (-1) + 1) (height o file.tree) id) ∧
    (∀ id, terms o file.tree id =
      combine o file.tree 0 (fun _ => 1) (fun _ terms => terms.sum) (terms o file.tree) id) ∧
    (∀ id p, id ∈ measured o file.tree p → id ≠ p → due o file.tree id = []) ∧
    ∃ ds, List.Forall₂ (fun f d => f.diagnose settings file = .ok (some d))
        (file.tree.walk.flatMap (due o file.tree)) ds ∧
      (ds.map fun d => (d.messageId, d.span, d.message)) =
        file.tree.walk.flatMap (notices o file.tree) ∧
      (Diagnostic.sortByStart ds).Perm ds ∧
      runRules [r] settings file = (Diagnostic.sortByStart ds, none) := by
  have shown := @due_shown o file settings level
  have told := told_of_diagnose shown
  rw [List.map_flatMap] at told
  simp only [due_told] at told
  rw [← List.map_flatMap] at told
  refine ⟨height_eq wellFormed, terms_eq wellFormed, fun _ _ => due_inside wellFormed, _, shown,
    (List.map_injective_iff.mpr (Option.some_injective _) told).symm, List.mergeSort_perm .., ?_⟩
  rw [rule?_ok made, runRules_alone, work_nodes wellFormed placed]

/-- The text `f(!(a&&b)||c)`, in which everything but the call is one expression. -/
def negatedTerms : SourceFile :=
  .ofParts "f(!(a&&b)||c)".toList
    { nodes := #[⟨.identifier ['f'], some ⟨0, 1⟩⟩, ⟨.identifier ['a'], some ⟨4, 5⟩⟩,
        ⟨.identifier ['b'], some ⟨7, 8⟩⟩, ⟨.logicalExpression .and 1 2, some ⟨4, 8⟩⟩,
        ⟨.unaryExpression "!" 3, some ⟨2, 9⟩⟩, ⟨.identifier ['c'], some ⟨11, 12⟩⟩,
        ⟨.logicalExpression .or 4 5, some ⟨2, 12⟩⟩, ⟨.other "call_expression" [0, 6], some ⟨0, 13⟩⟩,
        ⟨.program [7], some ⟨0, 13⟩⟩]
      root := 8 }
    [] [] []

theorem complexity_reported_at_tops_negatedTerms :
    negatedTerms.tree.walk.flatMap (due { maxTerms := 2 } negatedTerms.tree) =
      [tooTall ⟨2, 12⟩ 3 2, tooManyTerms ⟨2, 12⟩ 3 2] ∧
    due { maxTerms := 2 } negatedTerms.tree 3 = [] ∧
    ∃ ds, List.Forall₂ (fun f d => f.diagnose {} negatedTerms = .ok (some d))
        (negatedTerms.tree.walk.flatMap (due { maxTerms := 2 } negatedTerms.tree)) ds ∧
      (ds.map fun d => (d.messageId, d.span, d.message)) =
        [("tooTall", ⟨2, 12⟩, "Expression height is 3; max allowed is 2".toList),
          ("tooManyTerms", ⟨2, 12⟩, "Expression has 3 terms; max allowed is 2".toList)] ∧
      (Diagnostic.sortByStart ds).Perm ds ∧
      runRules [rule { maxTerms := 2 }] {} negatedTerms = (Diagnostic.sortByStart ds, none) := by
  obtain ⟨-, -, inner, ds, made, told, order, ran⟩ :=
    @complexity_reported_at_tops { maxTerms := 2 } negatedTerms {}
      (rule { maxTerms := 2 }) rfl (by decide) (by decide) (by decide)
  have notes : negatedTerms.tree.walk.flatMap (notices { maxTerms := 2 } negatedTerms.tree) =
      [("tooTall", ⟨2, 12⟩, tallMessage 3 2), ("tooManyTerms", ⟨2, 12⟩, termsMessage 3 2)] := rfl
  have tall : tallMessage 3 2 = "Expression height is 3; max allowed is 2".toList := rfl
  have long : termsMessage 3 2 = "Expression has 3 terms; max allowed is 2".toList := rfl
  rw [tall, long] at notes
  exact ⟨by decide, inner 3 6 (by decide) (by decide), ds, made, told.trans notes, order, ran⟩

end ScriptLint.Complexity
