import ScriptLint.Proofs.Lint.Independence

/-!
The share of one rule in a joint run.

A run of several rules may be ended by any of them. Up to then every rule was called on the first
of its nodes, in the order of the walk, and what the run reports under its lint is what the rule
reports alone on these nodes.
-/
namespace ScriptLint

section Diagnosing

variable {settings : Settings} {file : SourceFile} {findings : List Finding}

theorem diagnoseAll_spans (settings : Settings) (file : SourceFile) (findings : List Finding) :
    ((diagnoseAll settings file findings).1.map (·.span)).Sublist (findings.map (·.span)) := by
  induction findings with
  | nil => exact List.Sublist.refl _
  | cons f findings ih =>
    unfold diagnoseAll
    cases made : f.diagnose settings file with
    | error e => exact List.nil_sublist _
    | ok d =>
      cases d with
      | none => exact ih.cons _
      | some d =>
        rw [List.map_cons, ← (diagnose_some made).span]
        exact ih.cons_cons _

theorem diagnoseAll_pairwise {R : Diagnostic → Diagnostic → Prop}
    (pairs : findings.Pairwise fun f f' => ∀ d d', f.diagnose settings file = .ok (some d) →
      f'.diagnose settings file = .ok (some d') → R d d') :
    (diagnoseAll settings file findings).1.Pairwise R := by
  induction findings with
  | nil => exact List.Pairwise.nil
  | cons f findings ih =>
    obtain ⟨first, rest⟩ := List.pairwise_cons.mp pairs
    unfold diagnoseAll
    cases made : f.diagnose settings file with
    | error e => exact List.Pairwise.nil
    | ok d =>
      cases d with
      | none => exact ih rest
      | some d =>
        refine List.pairwise_cons.mpr ⟨fun d' member => ?_, ih rest⟩
        obtain ⟨f', found, made'⟩ := diagnoseAll_mem member
        exact first f' found d d' made made'

theorem diagnoseAll_shown (known : ∀ f ∈ findings, f.IsKnown)
    (level : ∀ f ∈ findings, settings.levelOf f.lint.name ≠ .allow) :
    List.Forall₂ (fun f d => f.diagnose settings file = .ok (some d)) findings
      (diagnoseAll settings file findings).1 := by
  induction findings with
  | nil => exact .nil
  | cons f findings ih =>
    obtain ⟨own, others⟩ := List.forall_mem_cons.mp known
    obtain ⟨shown, rest⟩ := List.forall_mem_cons.mp level
    obtain ⟨d, made, some⟩ := own.diagnose settings file
    obtain ⟨d, rfl⟩ := Option.isSome_iff_exists.mp (some shown)
    unfold diagnoseAll
    rw [made]
    exact .cons made (ih others rest)

end Diagnosing

namespace Running

variable (settings : Settings) (file : SourceFile)

def call (x : Running) (id : NodeId) : List Diagnostic × Except LintError Running :=
  let step := x.rule.visit file x.state id
  let found := diagnoseAll settings file step.findings
  (found.1, match found.2, step.outcome with
    | some e, _ | none, .error e => .error e
    | none, .ok state => .ok ⟨x.rule, state⟩)

def work : Running → List NodeId → List Diagnostic × Option LintError
  | _, [] => ([], none)
  | x, id :: ids => match x.call settings file id with
    | (ds, .error e) => (ds, some e)
    | (ds, .ok y) => (ds ++ (work y ids).1, (work y ids).2)

theorem work_cons (x : Running) (id : NodeId) (ids : List NodeId) :
    x.work settings file (id :: ids) = match x.call settings file id with
      | (ds, .error e) => (ds, some e)
      | (ds, .ok y) => (ds ++ (y.work settings file ids).1, (y.work settings file ids).2) :=
  rfl

variable {settings file}

theorem call_ok {x y : Running} {id : NodeId} (called : (x.call settings file id).2 = .ok y) :
    ∃ state, (x.rule.visit file x.state id).outcome = .ok state ∧ y = ⟨x.rule, state⟩ := by
  unfold call at called
  dsimp only at called
  split at called
  · cases called
  · cases called
  · rename_i state _ next
    cases called
    exact ⟨state, next, rfl⟩

theorem call_rule {x y : Running} {id : NodeId} (called : (x.call settings file id).2 = .ok y) :
    y.rule = x.rule := by
  obtain ⟨state, -, rfl⟩ := call_ok called
  rfl

theorem call_lint {x : Running} {id : NodeId} {d : Diagnostic} (own : x.rule.ReportsOwn)
    (member : d ∈ (x.call settings file id).1) : d.lint = x.rule.lint := by
  obtain ⟨f, found, made⟩ := diagnoseAll_mem member
  rw [(diagnose_some made).lint]
  exact own file x.state id f found

theorem call_eq {rule : Rule} {s s' : rule.State} {id : NodeId} {findings : List Finding}
    (step : rule.visit file s id = ⟨findings, .ok s'⟩) (known : ∀ f ∈ findings, f.IsKnown) :
    call settings file ⟨rule, s⟩ id =
      ((diagnoseAll settings file findings).1, .ok ⟨rule, s'⟩) := by
  unfold call
  simp only [step, (diagnoseAll_known known).1]

theorem session_visit {s : Session} {v : Visit} {x : Running}
    (turn : s.running[v.visitor]? = some x) :
    Session.visit settings file s v = match x.call settings file v.node with
      | (ds, .error e) => (⟨s.running, s.diagnostics ++ ds⟩, some e)
      | (ds, .ok y) => (⟨s.running.set v.visitor y, s.diagnostics ++ ds⟩, none) := by
  unfold Session.visit call
  simp only [turn]
  cases (diagnoseAll settings file (x.rule.visit file x.state v.node).findings).2 with
  | some e => rfl
  | none => cases (x.rule.visit file x.state v.node).outcome <;> rfl

theorem work_source {x : Running} {nodes : List NodeId} {d : Diagnostic}
    (member : d ∈ (x.work settings file nodes).1) :
    ∃ state, ∃ id ∈ nodes, ∃ f ∈ (x.rule.visit file state id).findings,
      f.diagnose settings file = .ok (some d) := by
  induction nodes generalizing x with
  | nil => cases member
  | cons id nodes ih =>
    have first : ∀ ds, (x.call settings file id).1 = ds → d ∈ ds →
        ∃ state, ∃ y ∈ id :: nodes, ∃ f ∈ (x.rule.visit file state y).findings,
          f.diagnose settings file = .ok (some d) := by
      intro ds same inside
      obtain ⟨f, found, made⟩ := diagnoseAll_mem (same ▸ inside)
      exact ⟨x.state, id, List.mem_cons_self, f, found, made⟩
    rw [work_cons] at member
    cases called : x.call settings file id with
    | mk ds outcome =>
      rw [called] at member
      cases outcome with
      | error e => exact first ds (by rw [called]) member
      | ok y =>
        rcases List.mem_append.mp member with now | later
        · exact first ds (by rw [called]) now
        · obtain ⟨state, -, rfl⟩ := call_ok (show (x.call settings file id).2 = .ok y by rw [called])
          obtain ⟨state, y, visited, rest⟩ := ih later
          exact ⟨state, y, List.mem_cons_of_mem _ visited, rest⟩

theorem work_mem {x : Running} {nodes : List NodeId} {d : Diagnostic}
    (member : d ∈ (x.work settings file nodes).1) :
    ∃ state id, ∃ f ∈ (x.rule.visit file state id).findings,
      f.diagnose settings file = .ok (some d) := by
  obtain ⟨state, id, -, found⟩ := work_source member
  exact ⟨state, id, found⟩

theorem work_pairwise {x : Running} {nodes : List NodeId} (once : nodes.Nodup)
    {R : Diagnostic → Diagnostic → Prop}
    (here : ∀ state, ∀ id ∈ nodes, (x.rule.visit file state id).findings.Pairwise fun f f' =>
      ∀ d d', f.diagnose settings file = .ok (some d) →
        f'.diagnose settings file = .ok (some d') → R d d')
    (across : ∀ state state', ∀ id ∈ nodes, ∀ id' ∈ nodes, id ≠ id' →
      ∀ f ∈ (x.rule.visit file state id).findings, ∀ f' ∈ (x.rule.visit file state' id').findings,
      ∀ d d', f.diagnose settings file = .ok (some d) →
        f'.diagnose settings file = .ok (some d') → R d d') :
    (x.work settings file nodes).1.Pairwise R := by
  induction nodes generalizing x with
  | nil => exact List.Pairwise.nil
  | cons id nodes ih =>
    obtain ⟨fresh, others⟩ := List.nodup_cons.mp once
    have first : (x.call settings file id).1.Pairwise R :=
      diagnoseAll_pairwise (here x.state id List.mem_cons_self)
    rw [work_cons]
    cases called : x.call settings file id with
    | mk ds outcome =>
      have shown : (x.call settings file id).1 = ds := by rw [called]
      rw [shown] at first
      cases outcome with
      | error e => exact first
      | ok y =>
        obtain ⟨state, -, rfl⟩ := call_ok (show (x.call settings file id).2 = .ok y by rw [called])
        apply List.pairwise_append.mpr
        constructor
        · exact first
        · constructor
          · apply ih others
            · intro state y visited
              exact here state y (List.mem_cons_of_mem _ visited)
            · intro state state' y visited y' visited'
              exact across state state' y (List.mem_cons_of_mem _ visited) y'
                (List.mem_cons_of_mem _ visited')
          · intro d now d' later
            obtain ⟨f, found, made⟩ := diagnoseAll_mem (shown ▸ now)
            obtain ⟨state', y, visited, f', found', made'⟩ := work_source later
            have apart : id ≠ y := by
              rintro rfl
              exact fresh visited
            exact across x.state state' id List.mem_cons_self y (List.mem_cons_of_mem _ visited)
              apart f found f' found' d d' made made'

theorem work_filter {x : Running} {p : NodeId → Bool} (nodes : List NodeId)
    (idle : ∀ y : Running, y.rule = x.rule → ∀ id, ¬ p id = true →
      y.call settings file id = ([], .ok y)) :
    x.work settings file (nodes.filter p) = x.work settings file nodes := by
  induction nodes generalizing x with
  | nil => rfl
  | cons id nodes ih =>
    by_cases wanted : p id = true
    · rw [List.filter_cons_of_pos wanted, work_cons, work_cons]
      cases called : x.call settings file id with
      | mk ds outcome =>
        cases outcome with
        | error e => rfl
        | ok y =>
          have same : y.rule = x.rule := call_rule (by rw [called])
          dsimp only
          rw [ih fun z other => idle z (other.trans same)]
    · rw [List.filter_cons_of_neg wanted, ih idle, work_cons, idle x rfl id wanted]
      rfl

/-- The rules at work of which number `k` reports under a lint of its own. -/
structure Among (x : Running) (k : Nat) (running : List Running) : Prop where
  turn : running[k]? = some x
  own : ∀ y ∈ running, y.rule.ReportsOwn
  apart : ∀ j y, running[j]? = some y → j ≠ k → y.rule.lint ≠ x.rule.lint

theorem among_set {x y z : Running} {k j : Nat} {running : List Running} (among : Among x k running)
    (here : running[j]? = some y) (same : z.rule = y.rule) :
    Among (if j = k then z else x) k (running.set j z) := by
  have bound : j < running.length := (List.getElem?_eq_some_iff.mp here).1
  constructor
  · by_cases mine : j = k
    · rw [if_pos mine, ← mine, List.getElem?_set_self bound]
    · rw [if_neg mine, List.getElem?_set_ne mine]
      exact among.turn
  · intro w member
    rcases List.mem_or_eq_of_mem_set member with old | rfl
    · exact among.own w old
    · rw [same]
      exact among.own y (List.mem_of_getElem? here)
  · intro i w found other
    have lint : (if j = k then z else x).rule.lint = x.rule.lint := by
      by_cases mine : j = k
      · subst mine
        rw [if_pos rfl, same, Option.some.inj (here.symm.trans among.turn)]
      · rw [if_neg mine]
    rw [lint]
    by_cases changed : j = i
    · subst changed
      rw [List.getElem?_set_self bound] at found
      cases found
      rw [same]
      exact among.apart _ y here other
    · rw [List.getElem?_set_ne changed] at found
      exact among.apart i w found other

theorem filter_own_turn {x : Running} {k : Nat} {running : List Running}
    (among : Among x k running) (reported : List Diagnostic) (id : NodeId) :
    (reported ++ (x.call settings file id).1).filter (·.lint = x.rule.lint) =
      reported.filter (·.lint = x.rule.lint) ++ (x.call settings file id).1 := by
  rw [List.filter_append, List.append_cancel_left_eq, List.filter_eq_self]
  intro d member
  exact decide_eq_true (call_lint (among.own x (List.mem_of_getElem? among.turn)) member)

theorem filter_other_turn {x y : Running} {k j : Nat} {running : List Running}
    (among : Among x k running) (turn : running[j]? = some y) (other : j ≠ k)
    (reported : List Diagnostic) (id : NodeId) :
    (reported ++ (y.call settings file id).1).filter (·.lint = x.rule.lint) =
      reported.filter (·.lint = x.rule.lint) := by
  rw [List.filter_append, List.append_right_eq_self, List.filter_eq_nil_iff]
  intro d member
  rw [decide_eq_true_eq, call_lint (among.own y (List.mem_of_getElem? turn)) member]
  exact among.apart j y turn other

/-- In a joint run, ended or not, a rule works on the first of its calls as it would alone. -/
theorem run_share {x : Running} {k : Nat} {s : Session} (among : Among x k s.running)
    (visits : List Visit) :
    ∃ nodes, nodes <+: (visits.filter (·.visitor == k)).map (·.node) ∧
      (runVisits (Session.visit settings file) s visits).1.diagnostics.filter
          (·.lint = x.rule.lint) =
        s.diagnostics.filter (·.lint = x.rule.lint) ++ (x.work settings file nodes).1 ∧
      ((runVisits (Session.visit settings file) s visits).2 = none →
        nodes = (visits.filter (·.visitor == k)).map (·.node) ∧
          (x.work settings file nodes).2 = none) := by
  induction visits generalizing s x with
  | nil => exact ⟨[], List.prefix_rfl, by simp [runVisits, work]⟩
  | cons v visits ih =>
    unfold runVisits
    cases turn : s.running[v.visitor]? with
    | none =>
      have other : v.visitor ≠ k := by
        intro same
        rw [same, among.turn] at turn
        cases turn
      have idle : Session.visit settings file s v = (s, none) := by
        unfold Session.visit
        rw [turn]
      rw [idle, List.filter_cons_of_neg (by simpa using other)]
      exact ih among
    | some y =>
      rw [session_visit turn]
      by_cases mine : v.visitor = k
      · obtain rfl : x = y := by
          rw [mine, among.turn] at turn
          exact Option.some.inj turn
        have shown := @filter_own_turn settings file x k s.running among s.diagnostics v.node
        rw [List.filter_cons_of_pos (by simpa using mine), List.map_cons]
        cases called : x.call settings file v.node with
        | mk ds outcome =>
          rw [called] at shown
          cases outcome with
          | error e =>
            refine ⟨[v.node], List.cons_prefix_cons.mpr ⟨rfl, List.nil_prefix⟩, ?_, ?_⟩
            · rw [work_cons, called]
              exact shown
            · intro done
              cases done
          | ok z =>
            have same : z.rule = x.rule := call_rule (by rw [called])
            have next := among_set among turn same
            rw [if_pos mine] at next
            obtain ⟨nodes, first, filtered, ended⟩ := ih (s := ⟨_, s.diagnostics ++ ds⟩) next
            rw [same] at filtered
            refine ⟨v.node :: nodes, List.cons_prefix_cons.mpr ⟨rfl, first⟩, ?_, ?_⟩
            · rw [work_cons, called]
              dsimp only
              rw [filtered, shown, List.append_assoc]
            · intro done
              obtain ⟨all, fine⟩ := ended done
              rw [work_cons, called]
              exact ⟨by rw [all], fine⟩
      · rw [List.filter_cons_of_neg (by simpa using mine)]
        have hidden := @filter_other_turn settings file x y k v.visitor s.running among turn mine
          s.diagnostics v.node
        cases called : y.call settings file v.node with
        | mk ds outcome =>
          rw [called] at hidden
          cases outcome with
          | error e =>
            refine ⟨[], List.nil_prefix, ?_, ?_⟩
            · unfold work
              rw [List.append_nil]
              exact hidden
            · intro done
              cases done
          | ok z =>
            have next := among_set among turn (call_rule (by rw [called]) : z.rule = y.rule)
            rw [if_neg mine] at next
            have rest := ih (s := ⟨_, s.diagnostics ++ ds⟩) next
            rw [hidden] at rest
            exact rest

end Running

def Rule.nodes (r : Rule) (file : SourceFile) : List NodeId :=
  file.tree.walk.filter fun id =>
    r.selectors.any (·.accepts (file.tree.tag id) (file.tree.parentTag? id))

theorem calls_eq {rules : List Rule} {k : Nat} {r : Rule} (here : rules[k]? = some r)
    (file : SourceFile) :
    ((file.tree.visits (rules.map (·.selectors))).filter (·.visitor == k)).map (·.node) =
      r.nodes file := by
  have row : ∀ id, ((rowOfVisits file.tree (rules.map (·.selectors)).zipIdx id).filter
      (·.visitor == k)).map (·.node) =
        if r.selectors.any (·.accepts (file.tree.tag id) (file.tree.parentTag? id)) then [id]
        else [] := by
    intro id
    have listed : (rules.map (·.selectors))[k]? = some r.selectors := by
      rw [List.getElem?_map, here]
      rfl
    have single := filter_zipIdx listed
      (fun selectors => selectors.any (·.accepts (file.tree.tag id) (file.tree.parentTag? id))) 0
    rw [Nat.zero_add] at single
    unfold rowOfVisits
    rw [List.filter_map, List.filter_filter, List.map_map]
    simp only [Function.comp_def, Bool.and_comm (_ == k), single]
    split <;> rfl
  rw [visits_eq, List.filter_flatMap, List.map_flatMap]
  unfold Rule.nodes
  induction file.tree.walk with
  | nil => rfl
  | cons id ids ih =>
    rw [List.flatMap_cons, ih, row id, List.filter_cons]
    split <;> rfl

/-- What a joint run reports under the lint of one rule, and the nodes that the rule was called on
until the run was over. -/
theorem runRules_share {rules : List Rule} {r : Rule} (member : r ∈ rules)
    (own : ∀ r ∈ rules, r.ReportsOwn) (once : (rules.map (·.lint)).Nodup) (settings : Settings)
    (file : SourceFile) :
    ∃ nodes, nodes <+: r.nodes file ∧
      (runRules rules settings file).1.filter (·.lint = r.lint) =
        Diagnostic.sortByStart ((r.run file).work settings file nodes).1 ∧
      ((runRules rules settings file).2 = none →
        nodes = r.nodes file ∧ ((r.run file).work settings file nodes).2 = none) := by
  obtain ⟨k, bound, here⟩ := List.mem_iff_getElem.mp member
  have listed : rules[k]? = some r := by rw [List.getElem?_eq_getElem bound, here]
  have among : Running.Among (r.run file) k (rules.map (·.run file)) := by
    constructor
    · rw [List.getElem?_map, listed]
      rfl
    · intro y inside
      obtain ⟨q, found, rfl⟩ := List.mem_map.mp inside
      exact own q found
    · intro j y found other same
      rw [List.getElem?_map] at found
      obtain ⟨q, there, rfl⟩ := Option.map_eq_some_iff.mp found
      have equal : (rules.map (·.lint))[j]? = (rules.map (·.lint))[k]? := by
        rw [List.getElem?_map, List.getElem?_map, there, listed]
        exact congrArg some same
      have inside : j < (rules.map (·.lint)).length := by
        rw [List.length_map]
        exact (List.getElem?_eq_some_iff.mp there).1
      exact other ((List.getElem?_inj inside once).mp equal)
  obtain ⟨nodes, first, filtered, ended⟩ := @Running.run_share settings file (r.run file) k
    ⟨rules.map (·.run file), []⟩ among (file.tree.visits (rules.map (·.selectors)))
  rw [calls_eq listed] at first ended
  refine ⟨nodes, first, ?_, ended⟩
  unfold runRules
  rw [filter_sortByStart]
  exact congrArg _ filtered

theorem runRules_share_perm {rules : List Rule} {r : Rule} (member : r ∈ rules)
    (own : ∀ r ∈ rules, r.ReportsOwn) (once : (rules.map (·.lint)).Nodup) (settings : Settings)
    (file : SourceFile) :
    ∃ nodes, nodes <+: r.nodes file ∧ ((runRules rules settings file).1.filter
      (·.lint = r.lint)).Perm ((r.run file).work settings file nodes).1 := by
  obtain ⟨nodes, first, shown, -⟩ := runRules_share member own once settings file
  rw [shown]
  exact ⟨nodes, first, List.mergeSort_perm _ _⟩

theorem runRules_alone (r : Rule) (settings : Settings) (file : SourceFile) :
    runRules [r] settings file =
      (Diagnostic.sortByStart ((r.run file).work settings file (r.nodes file)).1,
        ((r.run file).work settings file (r.nodes file)).2) := by
  have run : ∀ (x : Running) (nodes : List NodeId) (ds : List Diagnostic),
      ∃ running, runVisits (Session.visit settings file) ⟨[x], ds⟩ (nodes.map (⟨0, ·⟩)) =
        (⟨running, ds ++ (x.work settings file nodes).1⟩, (x.work settings file nodes).2) := by
    intro x nodes
    induction nodes generalizing x with
    | nil =>
      intro ds
      exact ⟨[x], by simp [runVisits, Running.work]⟩
    | cons id nodes ih =>
      intro ds
      rw [List.map_cons, runVisits, Running.session_visit (x := x) rfl, Running.work_cons]
      cases called : x.call settings file id with
      | mk found outcome =>
        cases outcome with
        | error e => exact ⟨[x], rfl⟩
        | ok y =>
          obtain ⟨running, rest⟩ := ih y (ds ++ found)
          rw [List.append_assoc] at rest
          exact ⟨running, rest⟩
  have visits : file.tree.visits ([r].map (·.selectors)) = (r.nodes file).map (⟨0, ·⟩) := by
    rw [visits_eq]
    unfold Rule.nodes
    induction file.tree.walk with
    | nil => rfl
    | cons id ids ih =>
      rw [List.flatMap_cons, ih, List.filter_cons, rowOfVisits]
      simp only [List.map_cons, List.map_nil, List.zipIdx_cons, List.zipIdx_nil, List.filter_cons,
        List.filter_nil]
      split <;> rfl
  obtain ⟨running, whole⟩ := run (r.run file) (r.nodes file) []
  unfold runRules
  rw [visits]
  simp only [List.map_cons, List.map_nil, whole, List.nil_append]

end ScriptLint
