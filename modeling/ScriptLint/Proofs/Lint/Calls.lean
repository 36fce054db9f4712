import ScriptLint.Proofs.Lint.Shares
import ScriptLint.Proofs.Syntax.WellFormed

/-!
The calls of a walk.

A walk by the table makes the calls that asking every visitor at every node would make, one after
another, until one of them fails. What was gathered until then stays, with what the failing call
itself reported.
-/
namespace ScriptLint

section Calls

universe u v

variable {σ : Type u} {ε : Type v} (call : σ → Visit → σ × Option ε)

/-- The calls are made in turn and lead from one state to another. All but the last one succeed, and
an error of the last one is how they end. -/
inductive Makes : σ → List Visit → σ → Option ε → Prop where
  | done (s : σ) : Makes s [] s none
  | next {s s' s'' : σ} {v : Visit} {visits : List Visit} {ending : Option ε}
    (called : call s v = (s', none)) (rest : Makes s' visits s'' ending) :
    Makes s (v :: visits) s'' ending
  | fail {s s' : σ} {v : Visit} {e : ε} (called : call s v = (s', some e)) :
    Makes s [v] s' (some e)

def noted (s : σ × List Visit) (v : Visit) : (σ × List Visit) × Option ε :=
  (((call s.1 v).1, s.2 ++ [v]), (call s.1 v).2)

/-- A run makes the first of its calls up to one that fails, or else all of them, and no others. -/
theorem runVisits_makes (s : σ) (log visits : List Visit) :
    ∃ made, made <+: visits ∧
      Makes call s made (runVisits call s visits).1 (runVisits call s visits).2 ∧
      ((runVisits call s visits).2 = none → made = visits) ∧
      runVisits (noted call) (s, log) visits =
        (((runVisits call s visits).1, log ++ made), (runVisits call s visits).2) := by
  induction visits generalizing s log with
  | nil => exact ⟨[], List.prefix_rfl, .done s, fun _ => rfl, by simp [runVisits]⟩
  | cons v visits ih =>
    cases called : call s v with
    | mk s' failure =>
      have note : noted call (s, log) v = ((s', log ++ [v]), failure) := by
        unfold noted
        rw [called]
      unfold runVisits
      rw [note, called]
      cases failure with
      | none =>
        obtain ⟨made, first, makes, all, record⟩ := ih s' (log ++ [v])
        refine ⟨v :: made, List.cons_prefix_cons.mpr ⟨rfl, first⟩, .next called makes, ?_, ?_⟩
        · intro success
          rw [all success]
        · rw [List.append_assoc] at record
          exact record
      | some e =>
        refine ⟨[v], List.cons_prefix_cons.mpr ⟨rfl, List.nil_prefix⟩, .fail called, ?_, rfl⟩
        intro success
        cases success

end Calls

namespace Session

variable (settings : Settings) (file : SourceFile)

def reportsOf (s : Session) (v : Visit) : List Diagnostic :=
  match s.running[v.visitor]? with
  | none => []
  | some x => (x.call settings file v.node).1

def reports : Session → List Visit → List Diagnostic
  | _, [] => []
  | s, v :: visits => s.reportsOf settings file v ++ reports (s.visit settings file v).1 visits

theorem visit_diagnostics (s : Session) (v : Visit) :
    (s.visit settings file v).1.diagnostics = s.diagnostics ++ s.reportsOf settings file v := by
  unfold reportsOf
  cases turn : s.running[v.visitor]? with
  | none =>
    unfold visit
    rw [turn, List.append_nil]
  | some x =>
    rw [Running.session_visit turn]
    cases called : x.call settings file v.node with
    | mk reported outcome =>
      dsimp only
      rw [called]
      cases outcome <;> rfl

variable {settings file}

theorem makes_diagnostics {s s' : Session} {made : List Visit} {ending : Option LintError}
    (makes : Makes (Session.visit settings file) s made s' ending) :
    s'.diagnostics = s.diagnostics ++ s.reports settings file made := by
  induction makes with
  | done s => exact (List.append_nil _).symm
  | next called rest ih =>
    rename_i s s' s'' v visits ending
    have step := visit_diagnostics settings file s v
    unfold reports
    rw [called] at step ⊢
    rw [ih, step, List.append_assoc]
  | fail called =>
    rename_i s s' v e
    have step := visit_diagnostics settings file s v
    unfold reports
    rw [called] at step
    rw [step]
    simp [reports]

end Session

/-- Whatever the visitors do, a walk makes these calls up to the first one that fails, whose error is
the result: at each node in pre-order one call of each visitor with a selector that accepts the node,
in the order of the visitors. In a run of rules all that these calls reported is kept. -/
theorem table_calls_are_naive {σ ε : Type _} (t : Tree) (visitors : List (List Selector))
    (call : σ → Visit → σ × Option ε) (s : σ) :
    let wanted := (t.preorder t.root).flatMap fun id => (visitors.zipIdx.filter fun v =>
      v.1.any (·.accepts (t.tag id) (t.parentTag? id))).map fun v => (⟨v.2, id⟩ : Visit)
    let run := runVisits (noted call) (s, []) (t.visits visitors)
    (t.WellFormed → ∀ id, t.preorder id = id :: (t.children id).flatMap t.preorder) ∧
    runVisits call s (t.visits visitors) = (run.1.1, run.2) ∧
    run.1.2 <+: wanted ∧ (run.2 = none → run.1.2 = wanted) ∧
    Makes call s run.1.2 run.1.1 run.2 ∧
    ∀ (rules : List Rule) (settings : Settings) (file : SourceFile),
      let start : Session := ⟨rules.map (·.run file), []⟩
      let run := runVisits (noted (Session.visit settings file)) (start, [])
        (file.tree.visits (rules.map (·.selectors)))
      (runRules rules settings file).1.Perm (start.reports settings file run.1.2) ∧
      runRules rules settings file =
        (Diagnostic.sortByStart (start.reports settings file run.1.2), run.2) := by
  intro wanted run
  have same : t.visits visitors = wanted := visits_eq t visitors
  obtain ⟨made, first, makes, all, record⟩ := runVisits_makes call s [] (t.visits visitors)
  have whole : run = ((_, made), _) := record
  rw [whole, ← same]
  refine ⟨Tree.preorder_eq, rfl, first, all, makes, ?_⟩
  intro rules settings file start run
  obtain ⟨made, -, makes, -, record⟩ := runVisits_makes (Session.visit settings file) start []
    (file.tree.visits (rules.map (·.selectors)))
  have whole : run = ((_, made), _) := record
  have kept : _ = start.reports settings file made := Session.makes_diagnostics makes
  rw [whole, ← kept]
  exact ⟨List.mergeSort_perm .., rfl⟩

end ScriptLint
