import ScriptLint.Linter
import ScriptLint.Proofs.Lint.Dispatch
import ScriptLint.Proofs.Lint.Levels
import ScriptLint.Proofs.Lint.Runs
import ScriptLint.Proofs.Rules.Findings
import ScriptLint.Proofs.Rules.ImportPlan

/-!
Rules do not interfere with each other.

In a joint run every rule goes through the states it goes through alone. So a run in which each
single rule succeeds gathers, node by node, what each rule finds there, and leaving out a rule
leaves out its diagnostics and nothing else.
-/
namespace ScriptLint

section StableSort

variable {α : Type} {le : α → α → Bool}
  (trans : ∀ a b c, le a b = true → le b c = true → le a c = true)
  (total : ∀ a b, (le a b || le b a) = true)
include trans total

theorem mergeSort_cons_eq (a : α) (xs : List α) :
    (a :: xs).mergeSort le = (xs.mergeSort le).filter (!le a ·) ++
      a :: (xs.mergeSort le).filter (le a ·) := by
  obtain ⟨front, back, whole, rest, before⟩ := List.mergeSort_cons trans total a xs
  have after : ∀ b ∈ back, le a b = true := by
    have sorted := List.pairwise_mergeSort trans total (a :: xs)
    rw [whole] at sorted
    exact (List.pairwise_cons.mp (List.pairwise_append.mp sorted).2.1).1
  have frontKept : front.filter (!le a ·) = front := by
    refine List.filter_eq_self.mpr fun b member => ?_
    exact before b member
  have backDropped : back.filter (!le a ·) = [] := by
    refine List.filter_eq_nil_iff.mpr fun b member => ?_
    simp [after b member]
  have frontDropped : front.filter (le a ·) = [] := by
    refine List.filter_eq_nil_iff.mpr fun b member => ?_
    simpa using before b member
  have backKept : back.filter (le a ·) = back := List.filter_eq_self.mpr after
  rw [whole, rest, List.filter_append, List.filter_append, frontKept, backDropped, frontDropped,
    backKept, List.append_nil, List.nil_append]

theorem filter_mergeSort (p : α → Bool) (xs : List α) :
    (xs.mergeSort le).filter p = (xs.filter p).mergeSort le := by
  induction xs with
  | nil => simp
  | cons a xs ih =>
    cases kept : p a with
    | true =>
      have swap : ∀ q : α → Bool, ((xs.mergeSort le).filter q).filter p =
          ((xs.filter p).mergeSort le).filter q := by
        intro q
        rw [← ih, List.filter_filter, List.filter_filter]
        exact List.filter_congr fun b _ => Bool.and_comm _ _
      rw [mergeSort_cons_eq trans total, List.filter_append, List.filter_cons_of_pos kept,
        List.filter_cons_of_pos kept, mergeSort_cons_eq trans total, swap, swap]
    | false =>
      have dropped : ¬ p a = true := by simp [kept]
      obtain ⟨front, back, whole, rest, -⟩ := List.mergeSort_cons trans total a xs
      rw [whole, List.filter_append, List.filter_cons_of_neg dropped,
        List.filter_cons_of_neg dropped, ← List.filter_append, ← rest, ih]

end StableSort

theorem filter_sortByStart (p : Diagnostic → Bool) (ds : List Diagnostic) :
    (Diagnostic.sortByStart ds).filter p = Diagnostic.sortByStart (ds.filter p) := by
  refine filter_mergeSort ?_ ?_ p ds
  · intro a b c first second
    rw [decide_eq_true_eq] at *
    omega
  · intro a b
    rw [Bool.or_eq_true, decide_eq_true_eq, decide_eq_true_eq]
    omega

theorem runVisits_append {σ ε : Type _} {call : σ → Visit → σ × Option ε} {s s' : σ}
    {visits : List Visit} (done : runVisits call s visits = (s', none)) (more : List Visit) :
    runVisits call s (visits ++ more) = runVisits call s' more := by
  induction visits generalizing s with
  | nil =>
    obtain rfl : s = s' := congrArg Prod.fst done
    rfl
  | cons v visits ih =>
    rw [runVisits] at done
    rw [List.cons_append, runVisits]
    split at done
    · rename_i next called
      exact ih done
    · simp at done

namespace Running

variable (settings : Settings) (file : SourceFile)

def wants (x : Running) (id : NodeId) : Bool :=
  x.rule.selectors.any (·.accepts (file.tree.tag id) (file.tree.parentTag? id))

/-- What a rule does when the walk comes to a node: its diagnostics, then itself in the next state
or the error that it ends with. -/
def meet (x : Running) (id : NodeId) : List Diagnostic × Except LintError Running :=
  if x.wants file id then
    let step := x.rule.visit file x.state id
    let found := diagnoseAll settings file step.findings
    (found.1, match found.2, step.outcome with
      | some e, _ | none, .error e => .error e
      | none, .ok state => .ok ⟨x.rule, state⟩)
  else ([], .ok x)

def after (x : Running) (id : NodeId) : Running :=
  match (x.meet settings file id).2 with
  | .ok y => y
  | .error _ => x

def Survives (x : Running) : List NodeId → Prop
  | [] => True
  | id :: ids => (x.meet settings file id).2.isOk = true ∧ (x.after settings file id).Survives ids

def gathered : List Running → List NodeId → List Diagnostic
  | _, [] => []
  | xs, id :: ids =>
    xs.flatMap (fun x => (x.meet settings file id).1) ++
      gathered (xs.map (·.after settings file id)) ids

variable {settings file}

theorem meet_rule {x y : Running} {id : NodeId} (met : (x.meet settings file id).2 = .ok y) :
    y.rule = x.rule := by
  rw [meet] at met
  split at met
  · dsimp only at met
    split at met
    · simp at met
    · simp at met
    · cases met
      rfl
  · cases met
    rfl

theorem after_rule (x : Running) (id : NodeId) : (x.after settings file id).rule = x.rule := by
  rw [after]
  split
  · rename_i y met
    exact meet_rule met
  · rfl

theorem visit_eq (settings : Settings) (done todo : List Running) {x : Running}
    (ds : List Diagnostic) {id : NodeId} (wanted : x.wants file id = true) :
    Session.visit settings file ⟨done ++ x :: todo, ds⟩ ⟨done.length, id⟩ =
      match (x.meet settings file id).2 with
      | .ok y => (⟨done ++ y :: todo, ds ++ (x.meet settings file id).1⟩, none)
      | .error e => (⟨done ++ x :: todo, ds ++ (x.meet settings file id).1⟩, some e) := by
  have turn : (done ++ x :: todo)[done.length]? = some x := by simp
  rw [Session.visit, meet, if_pos wanted]
  simp only [turn]
  cases (diagnoseAll settings file (x.rule.visit file x.state id).findings).2 with
  | some e => rfl
  | none =>
    cases (x.rule.visit file x.state id).outcome with
    | error e => rfl
    | ok state => simp

theorem meet_unwanted {x : Running} {id : NodeId} (unwanted : ¬ x.wants file id = true) :
    x.meet settings file id = ([], .ok x) := by
  rw [meet, if_neg unwanted]

theorem meet_eq {rule : Rule} {s s' : rule.State} {id : NodeId}
    (wanted : wants file ⟨rule, s⟩ id = true)
    (known : ∀ f ∈ (rule.visit file s id).findings, f.IsKnown)
    (next : (rule.visit file s id).outcome = .ok s') :
    meet settings file ⟨rule, s⟩ id =
      ((diagnoseAll settings file (rule.visit file s id).findings).1, .ok ⟨rule, s'⟩) := by
  rw [meet, if_pos wanted]
  simp only [(diagnoseAll_known known).1, next]

theorem row_cons (x : Running) (n : Nat) (visitors : List (List Selector × Nat)) (id : NodeId) :
    rowOfVisits file.tree ((x.rule.selectors, n) :: visitors) id =
      if x.wants file id = true then ⟨n, id⟩ :: rowOfVisits file.tree visitors id
      else rowOfVisits file.tree visitors id := by
  rw [rowOfVisits, List.filter_cons, wants]
  split <;> rfl

theorem run_row (done : List Running) {todo : List Running} (ds : List Diagnostic) {id : NodeId}
    (met : ∀ x ∈ todo, (x.meet settings file id).2.isOk = true) :
    runVisits (Session.visit settings file) ⟨done ++ todo, ds⟩
        (rowOfVisits file.tree ((todo.map (·.rule.selectors)).zipIdx done.length) id) =
      (⟨done ++ todo.map (·.after settings file id),
        ds ++ todo.flatMap fun x => (x.meet settings file id).1⟩, none) := by
  induction todo generalizing done ds with
  | nil => simp [rowOfVisits, runVisits]
  | cons x todo ih =>
    obtain ⟨own, others⟩ := List.forall_mem_cons.mp met
    have rest := ih (done ++ [x.after settings file id]) (ds ++ (x.meet settings file id).1) others
    rw [List.length_append, List.length_singleton, List.append_assoc, List.append_assoc,
      List.append_assoc, List.singleton_append, List.singleton_append] at rest
    rw [List.map_cons, List.map_cons, List.flatMap_cons, List.zipIdx_cons, row_cons]
    by_cases wanted : x.wants file id = true
    · rw [if_pos wanted, runVisits, visit_eq settings done todo ds wanted]
      cases outcome : (x.meet settings file id).2 with
      | error e =>
        rw [outcome] at own
        exact Bool.noConfusion own
      | ok y =>
        have next : x.after settings file id = y := by rw [after, outcome]
        rw [next] at rest ⊢
        exact rest
    · have still : x.after settings file id = x := by rw [after, meet_unwanted wanted]
      rw [if_neg wanted]
      rw [still] at rest ⊢
      have quiet : (x.meet settings file id).1 = [] := by rw [meet_unwanted wanted]
      rw [quiet, List.nil_append, List.append_nil] at rest
      rw [quiet, List.nil_append]
      exact rest

/-- A joint run gathers what the single rules find, as long as none of them fails. -/
theorem run_gathers {xs : List Running} {nodes : List NodeId} (ds : List Diagnostic)
    (alive : ∀ x ∈ xs, x.Survives settings file nodes) :
    ∃ running, runVisits (Session.visit settings file) ⟨xs, ds⟩
        (nodes.flatMap (rowOfVisits file.tree (xs.map (·.rule.selectors)).zipIdx)) =
      (⟨running, ds ++ gathered settings file xs nodes⟩, none) := by
  induction nodes generalizing xs ds with
  | nil => exact ⟨xs, by simp [runVisits, gathered]⟩
  | cons id nodes ih =>
    have row := run_row [] ds fun x member => (alive x member).1
    rw [List.nil_append, List.nil_append, List.length_nil] at row
    have selectors : (xs.map (·.after settings file id)).map (·.rule.selectors) =
        xs.map (·.rule.selectors) := by
      rw [List.map_map]
      exact List.map_congr_left fun x _ => congrArg Rule.selectors (after_rule x id)
    have later : ∀ y ∈ xs.map (·.after settings file id), y.Survives settings file nodes := by
      intro y member
      obtain ⟨x, old, rfl⟩ := List.mem_map.mp member
      exact (alive x old).2
    obtain ⟨running, rest⟩ := ih (ds ++ xs.flatMap fun x => (x.meet settings file id).1) later
    rw [selectors] at rest
    refine ⟨running, ?_⟩
    rw [List.flatMap_cons, runVisits_append row, gathered, ← List.append_assoc]
    exact rest

theorem survives_of_run {x : Running} {nodes : List NodeId} {ds : List Diagnostic}
    (alone : (runVisits (Session.visit settings file) ⟨[x], ds⟩
      (nodes.flatMap (rowOfVisits file.tree [(x.rule.selectors, 0)]))).2 = none) :
    x.Survives settings file nodes := by
  induction nodes generalizing x ds with
  | nil => trivial
  | cons id nodes ih =>
    have met : (x.meet settings file id).2.isOk = true := by
      by_cases wanted : x.wants file id = true
      · cases outcome : (x.meet settings file id).2 with
        | ok y => rfl
        | error e =>
          -- The first call would end the run.
          have call := visit_eq settings [] [] ds wanted
          rw [outcome] at call
          rw [List.flatMap_cons, row_cons, if_pos wanted, List.cons_append, runVisits] at alone
          rw [show Session.visit settings file ⟨[x], ds⟩ ⟨0, id⟩ = _ from call] at alone
          simp at alone
      · rw [meet_unwanted wanted]
        rfl
    have row : runVisits (Session.visit settings file) ⟨[x], ds⟩
        (rowOfVisits file.tree [(x.rule.selectors, 0)] id) =
          (⟨[x.after settings file id], ds ++ ([x].flatMap fun x => (x.meet settings file id).1)⟩,
            none) :=
      run_row [] ds (by simpa using met)
    rw [List.flatMap_cons, runVisits_append row] at alone
    have same : (x.after settings file id).rule = x.rule := after_rule x id
    rw [← same] at alone
    exact ⟨met, ih alone⟩

theorem meet_lint {x : Running} {id : NodeId} {d : Diagnostic} (own : x.rule.ReportsOwn)
    (member : d ∈ (x.meet settings file id).1) : d.lint = x.rule.lint := by
  rw [meet] at member
  split at member
  · obtain ⟨f, found, made⟩ := diagnoseAll_mem member
    rw [(diagnose_some made).lint]
    exact own file x.state id f found
  · cases member

theorem met_filter {xs : List Running} (keep : Lint → Bool) (id : NodeId)
    (own : ∀ x ∈ xs, x.rule.ReportsOwn) :
    (xs.flatMap fun x => (x.meet settings file id).1).filter (keep ·.lint) =
      (xs.filter (keep ·.rule.lint)).flatMap fun x => (x.meet settings file id).1 := by
  induction xs with
  | nil => rfl
  | cons x xs ih =>
    obtain ⟨first, others⟩ := List.forall_mem_cons.mp own
    rw [List.flatMap_cons, List.filter_append, ih others, List.filter_cons]
    split
    · rename_i kept
      rw [List.flatMap_cons]
      congr 1
      refine List.filter_eq_self.mpr fun d found => ?_
      rw [meet_lint first found]
      exact kept
    · rename_i dropped
      suffices none : ((x.meet settings file id).1).filter (keep ·.lint) = [] by
        rw [none, List.nil_append]
      refine List.filter_eq_nil_iff.mpr fun d found => ?_
      rw [meet_lint first found]
      exact dropped

theorem gathered_filter {xs : List Running} (keep : Lint → Bool) (nodes : List NodeId)
    (own : ∀ x ∈ xs, x.rule.ReportsOwn) :
    (gathered settings file xs nodes).filter (keep ·.lint) =
      gathered settings file (xs.filter (keep ·.rule.lint)) nodes := by
  induction nodes generalizing xs with
  | nil => rfl
  | cons id nodes ih =>
    have later : ∀ y ∈ xs.map (·.after settings file id), y.rule.ReportsOwn := by
      intro y member
      obtain ⟨x, old, rfl⟩ := List.mem_map.mp member
      rw [after_rule]
      exact own x old
    have same : (xs.map (·.after settings file id)).filter (keep ·.rule.lint) =
        (xs.filter (keep ·.rule.lint)).map (·.after settings file id) := by
      rw [List.filter_map]
      refine congrArg _ (List.filter_congr fun x _ => ?_)
      rw [Function.comp_apply, after_rule]
    rw [gathered, List.filter_append, met_filter keep id own, ih later, same, gathered]

end Running

section Quieter

/-- The second settings differ from the first only in that they allow the lints `off`. -/
def Settings.Quieter (loud quiet : Settings) (off : Lint → Bool) : Prop :=
  ∀ lint : Lint,
    quiet.levelOf lint.name = if off lint = true then .allow else loud.levelOf lint.name

variable {loud quiet : Settings} {off : Lint → Bool} (quieter : loud.Quieter quiet off)
  {file : SourceFile}
include quieter

theorem diagnose_quieter (f : Finding) :
    f.diagnose quiet file = if off f.lint = true then .ok none else f.diagnose loud file := by
  by_cases allowed : off f.lint = true
  · rw [Finding.diagnose, quieter f.lint, if_pos allowed, if_pos allowed]
  · rw [Finding.diagnose, quieter f.lint, if_neg allowed, if_neg allowed, Finding.diagnose]

theorem diagnoseAll_quieter {findings : List Finding}
    (fine : (diagnoseAll loud file findings).2 = none) :
    diagnoseAll quiet file findings =
      ((diagnoseAll loud file findings).1.filter (!off ·.lint), none) := by
  induction findings with
  | nil => rfl
  | cons f findings ih =>
    rw [diagnoseAll] at fine ⊢
    rw [diagnose_quieter quieter, diagnoseAll]
    cases made : f.diagnose loud file with
    | error e => simp [made] at fine
    | ok d =>
      rw [made] at fine
      have shown : ∀ x ∈ d.toList, x.lint = f.lint := by
        intro x member
        rw [Option.mem_toList] at member
        exact (diagnose_some (member ▸ made)).lint
      rw [ih fine]
      by_cases allowed : off f.lint = true
      · have dropped : d.toList.filter (!off ·.lint) = [] := by
          refine List.filter_eq_nil_iff.mpr fun x member => ?_
          simp [shown x member, allowed]
        simp [allowed, dropped]
      · have kept : d.toList.filter (!off ·.lint) = d.toList := by
          refine List.filter_eq_self.mpr fun x member => ?_
          simp [shown x member, allowed]
        simp [allowed, kept]

theorem meet_quieter {x : Running} {id : NodeId} (met : (x.meet loud file id).2.isOk = true) :
    x.meet quiet file id =
      ((x.meet loud file id).1.filter (!off ·.lint), (x.meet loud file id).2) := by
  rw [Running.meet] at met
  rw [Running.meet, Running.meet]
  split
  · rename_i wanted
    rw [if_pos wanted] at met
    have fine : (diagnoseAll loud file (x.rule.visit file x.state id).findings).2 = none := by
      cases found : (diagnoseAll loud file (x.rule.visit file x.state id).findings).2 with
      | none => rfl
      | some e =>
        simp only [found] at met
        cases met
    simp only [diagnoseAll_quieter quieter fine, fine]
  · rfl

theorem after_quieter {x : Running} {id : NodeId} (met : (x.meet loud file id).2.isOk = true) :
    x.after quiet file id = x.after loud file id := by
  rw [Running.after, Running.after, meet_quieter quieter met]

theorem survives_quieter {x : Running} {nodes : List NodeId} (alive : x.Survives loud file nodes) :
    x.Survives quiet file nodes := by
  induction nodes generalizing x with
  | nil => trivial
  | cons id nodes ih =>
    obtain ⟨met, later⟩ := alive
    refine ⟨?_, ?_⟩
    · rw [meet_quieter quieter met]
      exact met
    · rw [after_quieter quieter met]
      exact ih later

theorem gathered_quieter {xs : List Running} {nodes : List NodeId}
    (alive : ∀ x ∈ xs, x.Survives loud file nodes) :
    Running.gathered quiet file xs nodes =
      (Running.gathered loud file xs nodes).filter (!off ·.lint) := by
  induction nodes generalizing xs with
  | nil => rfl
  | cons id nodes ih =>
    have next : xs.map (·.after quiet file id) = xs.map (·.after loud file id) :=
      List.map_congr_left fun x member => after_quieter quieter (alive x member).1
    have later : ∀ y ∈ xs.map (·.after loud file id), y.Survives loud file nodes := by
      intro y member
      obtain ⟨x, old, rfl⟩ := List.mem_map.mp member
      exact (alive x old).2
    rw [Running.gathered, Running.gathered, List.filter_append, next, ih later, List.filter_flatMap]
    congr 1
    refine List.flatMap_congr fun x member => ?_
    rw [meet_quieter quieter (alive x member).1]

end Quieter

theorem survives_alone {r : Rule} {settings : Settings} {file : SourceFile}
    (alone : (runRules [r] settings file).2 = none) :
    (r.run file).Survives settings file file.tree.walk := by
  rw [runRules, visits_eq] at alone
  exact Running.survives_of_run alone

theorem runRules_gathers {rules : List Rule} {settings : Settings} {file : SourceFile}
    (alive : ∀ r ∈ rules, (r.run file).Survives settings file file.tree.walk) :
    runRules rules settings file = (Diagnostic.sortByStart
      (Running.gathered settings file (rules.map (·.run file)) file.tree.walk), none) := by
  obtain ⟨running, run⟩ := Running.run_gathers [] (List.forall_mem_map.mpr alive)
  rw [List.map_map, List.nil_append] at run
  change runVisits _ _ (file.tree.walk.flatMap
    (rowOfVisits file.tree (rules.map (·.selectors)).zipIdx)) = _ at run
  rw [runRules, visits_eq]
  simp only [run]

theorem runRules_fewer {rules : List Rule} {loud quiet : Settings} {file : SourceFile}
    {off : Lint → Bool} (own : ∀ r ∈ rules, r.ReportsOwn)
    (alive : ∀ r ∈ rules, (r.run file).Survives loud file file.tree.walk) (keep : Lint → Bool)
    (quieter : loud.Quieter quiet off) :
    runRules (rules.filter (keep ·.lint)) quiet file =
      ((runRules rules loud file).1.filter (fun d => keep d.lint && !off d.lint), none) := by
  have kept : ∀ r ∈ rules.filter (keep ·.lint), (r.run file).Survives loud file file.tree.walk :=
    fun r member => alive r (List.mem_filter.mp member).1
  have runs : (rules.filter (keep ·.lint)).map (·.run file) =
      (rules.map (·.run file)).filter (keep ·.rule.lint) := by
    rw [List.filter_map]
    rfl
  rw [runRules_gathers fun r member => survives_quieter quieter (kept r member),
    runRules_gathers alive, filter_sortByStart,
    gathered_quieter quieter (List.forall_mem_map.mpr kept), runs,
    ← Running.gathered_filter keep _ (List.forall_mem_map.mpr own), List.filter_filter]
  simp only [Bool.and_comm]

theorem disable_quieter (s : Settings) (names : List String) :
    s.Quieter (s.disable names) fun lint => (names.map Lint.canonical).contains lint.name := by
  intro lint
  rw [Settings.levelOf_disable, Lint.canonical_name]
  simp only [List.contains_iff_mem]

theorem filter_lint_eq_singleton {rules : List Rule} {r : Rule}
    (once : (rules.map (·.lint)).Nodup) (member : r ∈ rules) :
    rules.filter (·.lint = r.lint) = [r] := by
  induction rules with
  | nil => cases member
  | cons x rules ih =>
    obtain ⟨fresh, later⟩ := List.nodup_cons.mp once
    rcases List.mem_cons.mp member with rfl | inside
    · rw [List.filter_cons_of_pos (by simp)]
      refine congrArg _ (List.filter_eq_nil_iff.mpr fun y other same => ?_)
      exact fresh (List.mem_map.mpr ⟨y, other, of_decide_eq_true same⟩)
    · have apart : ¬ x.lint = r.lint :=
        fun same => fresh (List.mem_map.mpr ⟨r, inside, same.symm⟩)
      rw [List.filter_cons_of_neg (by simpa using apart)]
      exact ih later inside

theorem selection_rules {s : Selection} {o : RuleOptions} {detail : Bool} {rules : List Rule}
    (made : o.rules detail = .ok rules) (known : ∀ name ∈ s.names, Lint.isKnownName name = true) :
    s.rules o detail = .ok (rules.filter fun r => s.includes r.lint) := by
  have none : s.names.find? (!Lint.isKnownName ·) = none := by
    refine List.find?_eq_none.mpr fun name member => ?_
    simp [known name member]
  rw [Selection.rules, none]
  simp only [made]

/-- Where each rule succeeds alone, all succeed together, each of them reports what it reports
alone, and a rule that is left out or allowed takes away its own diagnostics only. -/
theorem rules_do_not_interfere {rules : List Rule} {settings : Settings} {file : SourceFile}
    (builtIn : ∀ r ∈ rules, r.IsBuiltIn) (once : (rules.map (·.lint)).Nodup)
    (alone : ∀ r ∈ rules, (runRules [r] settings file).2 = none) :
    (runRules rules settings file).2 = none ∧
    (∀ r ∈ rules, (runRules rules settings file).1.filter (·.lint = r.lint) =
      (runRules [r] settings file).1) ∧
    (∀ (s : Selection) (allowed : List String),
      runRules (rules.filter fun r => s.includes r.lint) (settings.disable allowed) file =
        ((runRules rules settings file).1.filter fun d =>
          s.includes d.lint && !(allowed.map Lint.canonical).contains d.lint.name, none)) ∧
    ∀ (s : Selection) (o : RuleOptions) (detail : Bool), o.rules detail = .ok rules →
      (∀ name ∈ s.names, Lint.isKnownName name = true) →
        s.rules o detail = .ok (rules.filter fun r => s.includes r.lint) := by
  have own : ∀ r ∈ rules, r.ReportsOwn := fun r member => (builtIn r member).reportsOwn
  have alive : ∀ r ∈ rules, (r.run file).Survives settings file file.tree.walk :=
    fun r member => survives_alone (alone r member)
  refine ⟨?_, ?_, ?_, ?_⟩
  · rw [runRules_gathers alive]
  · intro r member
    have same : settings.Quieter settings fun _ => false := fun _ => rfl
    have fewer := runRules_fewer own alive (fun lint => lint = r.lint) same
    rw [filter_lint_eq_singleton once member] at fewer
    rw [fewer]
    simp
  · intro s allowed
    exact runRules_fewer own alive s.includes (disable_quieter settings allowed)
  · intro s o detail made known
    exact selection_rules made known

def importsAndTerms : SourceFile :=
  .ofParts "import'b'\nimport'a'\nc&&d".toList
    { nodes := #[⟨.importDeclaration [] ['b'] .value, some ⟨0, 9⟩⟩,
        ⟨.importDeclaration [] ['a'] .value, some ⟨10, 19⟩⟩, ⟨.identifier ['c'], some ⟨20, 21⟩⟩,
        ⟨.identifier ['d'], some ⟨23, 24⟩⟩, ⟨.logicalExpression .and 2 3, some ⟨20, 24⟩⟩,
        ⟨.other "expression_statement" [4], some ⟨20, 24⟩⟩, ⟨.program [0, 1, 5], some ⟨0, 24⟩⟩]
      root := 6 }
    [⟨.keyword, ⟨0, 6⟩⟩, ⟨.string, ⟨6, 9⟩⟩, ⟨.keyword, ⟨10, 16⟩⟩, ⟨.string, ⟨16, 19⟩⟩,
      ⟨.identifier, ⟨20, 21⟩⟩, ⟨.punctuator, ⟨21, 23⟩⟩, ⟨.identifier, ⟨23, 24⟩⟩] [] []

def termsAndPaths : List Rule :=
  [Complexity.rule { maxTerms := 1 }, ImportPaths.rule ImportPaths.plainOrder]

theorem terms_and_paths_do_not_interfere :
    (runRules termsAndPaths {} importsAndTerms).1.map (fun d => (d.lint, d.span)) =
      [(.orderedImportsByPath, ⟨10, 19⟩), (.logicalExpressionComplexity, ⟨20, 24⟩)] ∧
    (∀ r ∈ termsAndPaths, (runRules termsAndPaths {} importsAndTerms).1.filter (·.lint = r.lint) =
      (runRules [r] {} importsAndTerms).1) ∧
    runRules termsAndPaths (Settings.disable {} ["ordered-imports-by-path"]) importsAndTerms =
      ((runRules termsAndPaths {} importsAndTerms).1.filter fun d => Selection.includes {} d.lint &&
        !(["ordered-imports-by-path"].map Lint.canonical).contains d.lint.name, none) := by
  have builtIn : ∀ r ∈ termsAndPaths, r.IsBuiltIn := by
    simp only [termsAndPaths, List.forall_mem_cons, List.not_mem_nil, false_implies, implies_true,
      and_true]
    exact ⟨.complexity (o := { maxTerms := 1 }) rfl, .importPaths (o := {}) rfl⟩
  have alone : ∀ r ∈ termsAndPaths, (runRules [r] {} importsAndTerms).2 = none := by
    simp only [termsAndPaths, List.forall_mem_cons, List.not_mem_nil, false_implies, implies_true,
      and_true]
    exact ⟨by cbv, by cbv⟩
  obtain ⟨-, single, fewer, -⟩ := rules_do_not_interfere builtIn (by decide) alone
  exact ⟨by cbv, single, fewer {} ["ordered-imports-by-path"]⟩

end ScriptLint
