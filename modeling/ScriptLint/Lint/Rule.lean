import ScriptLint.Lint.Dispatch
import ScriptLint.Lint.Settings

/-!
Rules, and a joint run of several rules over a file.

A rule is a state machine that is fed the nodes it selects. A step yields findings and then the next
state, or an error that ends the run. A joint run feeds every rule in one walk and gathers what the
settings let through.
-/
namespace ScriptLint

/-- What one visit yields. The findings were made before the error, if there is one. -/
structure Step (σ : Type) where
  findings : List Finding
  outcome : Except LintError σ

namespace Step

variable {σ : Type}

def quiet (s : σ) : Step σ := ⟨[], .ok s⟩

def fail (e : LintError) : Step σ := ⟨[], .error e⟩

end Step

structure Rule where
  lint : Lint
  State : Type
  start : SourceFile → State
  selectors : List Selector
  visit : SourceFile → State → NodeId → Step State

structure Running where
  rule : Rule
  state : rule.State

def Rule.run (r : Rule) (file : SourceFile) : Running := ⟨r, r.start file⟩

def diagnoseAll (settings : Settings) (file : SourceFile) :
    List Finding → List Diagnostic × Option LintError
  | [] => ([], none)
  | f :: fs => match f.diagnose settings file with
    | .error e => ([], some e)
    | .ok d =>
      let rest := diagnoseAll settings file fs
      (d.toList ++ rest.1, rest.2)

structure Session where
  running : List Running
  diagnostics : List Diagnostic

namespace Session

def visit (settings : Settings) (file : SourceFile) (s : Session) (v : Visit) :
    Session × Option LintError :=
  match s.running[v.visitor]? with
  | none => (s, none)
  | some r =>
    let step := r.rule.visit file r.state v.node
    let found := diagnoseAll settings file step.findings
    let diagnostics := s.diagnostics ++ found.1
    match found.2, step.outcome with
    | some e, _ | none, .error e => (⟨s.running, diagnostics⟩, some e)
    | none, .ok state => (⟨s.running.set v.visitor ⟨r.rule, state⟩, diagnostics⟩, none)

end Session

def runRules (rules : List Rule) (settings : Settings) (file : SourceFile) :
    List Diagnostic × Option LintError :=
  let visits := file.tree.visits (rules.map (·.selectors))
  let (session, failure) :=
    runVisits (Session.visit settings file) ⟨rules.map (·.run file), []⟩ visits
  (Diagnostic.sortByStart session.diagnostics, failure)

end ScriptLint
