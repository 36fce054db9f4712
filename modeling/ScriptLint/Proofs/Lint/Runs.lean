import ScriptLint.Lint.Rule

/-!
Runs of several rules.

Whatever each step of a rule preserves holds of its state during a whole run. Every diagnostic of a
run comes from a finding that a rule made in such a state.
-/
namespace ScriptLint

theorem runVisits_preserves {σ ε : Type _} {call : σ → Visit → σ × Option ε} (valid : σ → Prop)
    (step : ∀ s v, valid s → valid (call s v).1) {s : σ} (start : valid s) (visits : List Visit) :
    valid (runVisits call s visits).1 := by
  induction visits generalizing s with
  | nil => exact start
  | cons v visits ih =>
    have next := step s v start
    rw [runVisits]
    split
    · rename_i s' same
      rw [same] at next
      exact ih next
    · rename_i s' e same
      rw [same] at next
      exact next

/-- The states that a rule passes through on a file, and what it reports in them. -/
structure Rule.Keeps (r : Rule) (file : SourceFile) (valid : r.State → Prop)
    (good : Finding → Prop) : Prop where
  start : valid (r.start file)
  findings : ∀ s id, valid s → ∀ f ∈ (r.visit file s id).findings, good f
  next : ∀ s id, valid s → ∀ s', (r.visit file s id).outcome = .ok s' → valid s'

def Rule.Reports (r : Rule) (file : SourceFile) (good : Finding → Prop) : Prop :=
  ∃ valid, r.Keeps file valid good

theorem Rule.reports_of_visit {r : Rule} {file : SourceFile} {good : Finding → Prop}
    (visit : ∀ s id, ∀ f ∈ (r.visit file s id).findings, good f) : r.Reports file good :=
  ⟨fun _ => True, trivial, fun s id _ => visit s id, fun _ _ _ _ _ => trivial⟩

theorem diagnoseAll_mem {settings : Settings} {file : SourceFile} {findings : List Finding}
    {d : Diagnostic} (member : d ∈ (diagnoseAll settings file findings).1) :
    ∃ f ∈ findings, f.diagnose settings file = .ok (some d) := by
  induction findings with
  | nil => simp [diagnoseAll] at member
  | cons f findings ih =>
    rw [diagnoseAll] at member
    split at member
    · simp at member
    · rename_i first made
      rcases List.mem_append.mp member with here | later
      · have same : first = some d := by simpa using here
        exact ⟨f, by simp, by rw [made, same]⟩
      · obtain ⟨g, found, diagnosed⟩ := ih later
        exact ⟨g, List.mem_cons_of_mem _ found, diagnosed⟩

structure Finding.Becomes (f : Finding) (settings : Settings) (d : Diagnostic) : Prop where
  shown : settings.levelOf f.lint.name ≠ .allow
  lint : d.lint = f.lint
  span : d.span = f.span
  messageId : d.messageId = f.messageId
  message : f.lint.render? f.messageId f.data = some d.message
  suggestion : d.suggestion = f.suggestion

theorem diagnose_some {f : Finding} {settings : Settings} {file : SourceFile} {d : Diagnostic}
    (made : f.diagnose settings file = .ok (some d)) : f.Becomes settings d := by
  unfold Finding.diagnose at made
  split at made
  · cases made
  · rename_i shown
    split at made
    · cases made
    · rename_i message rendered
      cases made
      exact ⟨shown, rfl, rfl, rfl, rendered, rfl⟩

def Finding.IsKnown (f : Finding) : Prop := (f.lint.template? f.messageId).isSome = true

theorem Finding.IsKnown.diagnose {f : Finding} (known : f.IsKnown) (settings : Settings)
    (file : SourceFile) : ∃ d, f.diagnose settings file = .ok d ∧
      (settings.levelOf f.lint.name ≠ .allow → d.isSome = true) := by
  obtain ⟨template, found⟩ := Option.isSome_iff_exists.mp known
  simp only [Finding.diagnose, Lint.render?, found, Option.map_some]
  split
  · rename_i allowed
    exact ⟨none, rfl, fun other => absurd allowed other⟩
  · exact ⟨_, rfl, fun _ => rfl⟩

theorem diagnoseAll_known {settings : Settings} {file : SourceFile} {findings : List Finding}
    (known : ∀ f ∈ findings, f.IsKnown) :
    (diagnoseAll settings file findings).2 = none ∧
      ∀ f ∈ findings, settings.levelOf f.lint.name ≠ .allow →
        ∃ d ∈ (diagnoseAll settings file findings).1, f.diagnose settings file = .ok (some d) := by
  induction findings with
  | nil => exact ⟨rfl, by simp⟩
  | cons f findings ih =>
    obtain ⟨own, others⟩ := List.forall_mem_cons.mp known
    obtain ⟨d, made, shown⟩ := own.diagnose settings file
    obtain ⟨fine, later⟩ := ih others
    rw [diagnoseAll, made]
    refine ⟨fine, ?_⟩
    intro x member level
    rcases List.mem_cons.mp member with rfl | inside
    · obtain ⟨y, rfl⟩ := Option.isSome_iff_exists.mp (shown level)
      exact ⟨y, by simp, made⟩
    · obtain ⟨y, found, diagnosed⟩ := later x inside level
      exact ⟨y, List.mem_append_right _ found, diagnosed⟩

/-- Each rule is in a state it can pass through, and each diagnostic stands for a good finding. -/
structure Session.Valid (s : Session) (settings : Settings) (file : SourceFile)
    (good : Finding → Prop) : Prop where
  running : ∀ x ∈ s.running, ∃ valid, x.rule.Keeps file valid good ∧ valid x.state
  diagnostics : ∀ d ∈ s.diagnostics, ∃ f, good f ∧ f.diagnose settings file = .ok (some d)

theorem Session.visit_valid {s : Session} {settings : Settings} {file : SourceFile}
    {good : Finding → Prop} (v : Visit) (valid : s.Valid settings file good) :
    (s.visit settings file v).1.Valid settings file good := by
  rw [Session.visit]
  split
  · exact valid
  · rename_i x found
    obtain ⟨holds, keeps, state⟩ := valid.running x (List.mem_of_getElem? found)
    have diagnostics : ∀ d ∈ s.diagnostics ++
        (diagnoseAll settings file (x.rule.visit file x.state v.node).findings).1,
        ∃ f, good f ∧ f.diagnose settings file = .ok (some d) := by
      intro d member
      rcases List.mem_append.mp member with old | new
      · exact valid.diagnostics d old
      · obtain ⟨f, made, diagnosed⟩ := diagnoseAll_mem new
        exact ⟨f, keeps.findings x.state v.node state f made, diagnosed⟩
    dsimp only
    split
    · exact ⟨valid.running, diagnostics⟩
    · exact ⟨valid.running, diagnostics⟩
    · rename_i next _ outcome
      refine ⟨?_, diagnostics⟩
      intro y member
      rcases List.mem_or_eq_of_mem_set member with old | new
      · exact valid.running y old
      · subst new
        exact ⟨holds, keeps, keeps.next x.state v.node state next outcome⟩

theorem runRules_diagnostics {rules : List Rule} {settings : Settings} {file : SourceFile}
    {good : Finding → Prop} (reports : ∀ r ∈ rules, r.Reports file good) :
    ∀ d ∈ (runRules rules settings file).1,
      ∃ f, good f ∧ f.diagnose settings file = .ok (some d) := by
  have start : Session.Valid ⟨rules.map (·.run file), []⟩ settings file good := by
    refine ⟨?_, by simp⟩
    intro x member
    obtain ⟨r, found, rfl⟩ := List.mem_map.mp member
    obtain ⟨valid, keeps⟩ := reports r found
    exact ⟨valid, keeps, keeps.start⟩
  have step : ∀ s v, Session.Valid s settings file good →
      Session.Valid (s.visit settings file v).1 settings file good :=
    fun s v valid => Session.visit_valid v valid
  have final := runVisits_preserves (fun s => Session.Valid s settings file good) step start
    (file.tree.visits (rules.map (·.selectors)))
  intro d member
  rw [runRules] at member
  exact final.diagnostics d (List.mem_mergeSort.mp member)

end ScriptLint
