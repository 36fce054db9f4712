import ScriptLint.Proofs.Lint.Runs
import ScriptLint.Proofs.Rules.Findings
import ScriptLint.Proofs.Rules.ImportMoves

/-!
Edits that may be applied without a look.

Such an edit comes from one of the three ordering rules. Whatever the options are, it puts entries
of one list into another order: it loses nothing, doubles nothing, and adds a comma at most.
-/
namespace ScriptLint

def EntriesBelow (file : SourceFile) (tag : NodeTag) (spans : List Span) : Prop :=
  ∃ id, file.tree.tag id = tag ∧ spans.Sublist (file.tree.childSpans id)

/-- The edit puts the entries into other slots and leaves the text between the slots in place. -/
def SortsInPlace (file : SourceFile) (tag : NodeTag) (e : Edit) : Prop :=
  ∃ spans, EntriesBelow file tag spans ∧
    Rearrangement file e (spans.map Piece.bare) []
      ((Piece.gaps (spans.map Piece.bare)).map file.slice)

/-- The edit moves each entry with all the text after it, and may add a comma to the last one. -/
def SortsCarrying (file : SourceFile) (tag : NodeTag) (e : Edit) : Prop :=
  ∃ (spans : List Span) (stop : Nat) (addComma : Bool), EntriesBelow file tag spans ∧
    Rearrangement file e (Piece.carried stop spans) (if addComma then [','] else [])
      (List.replicate (spans.length - 1) [])

/-- What an edit of a lint does when it may be applied without a look. -/
def SafeEdit (file : SourceFile) (e : Edit) : Lint → Prop
  | .orderedImportsByPath => ImportPaths.MovesImports file e
  | .orderedImportMembers =>
    SortsInPlace file .importDeclaration e ∨ SortsCarrying file .importDeclaration e
  | .orderedDestructuring => SortsCarrying file .objectPattern e
  | _ => False

def Finding.Safe (file : SourceFile) (f : Finding) : Prop :=
  ∀ s, f.suggestion = some s → s.applicability = .machineApplicable → SafeEdit file s.edit f.lint

section Entries

variable {file : SourceFile} {tag : NodeTag} {c : Collation} {keys : List SortKey} {e : Edit}

theorem entries_fit (tidy : file.Tidy) (holds : tag.HoldsEntries)
    {spans : List Span} (below : EntriesBelow file tag spans) : EntriesFit file spans := by
  obtain ⟨id, rfl, sub⟩ := below
  exact entriesFit_sublist (SourceFile.tidy_entries tidy holds) sub

theorem inPlaceEdit?_sorts (tidy : file.Tidy) (holds : tag.HoldsEntries)
    (below : EntriesBelow file tag (keys.map (·.span)))
    (made : file.inPlaceEdit? c keys = some e) : SortsInPlace file tag e :=
  ⟨_, below, SourceFile.inPlaceEdit?_rearranges (entries_fit tidy holds below) made⟩

theorem carryingEdit_sorts (tidy : file.Tidy) (holds : tag.HoldsEntries)
    (below : EntriesBelow file tag (keys.map (·.span)))
    (made : file.carryingEdit c keys = .ok (some e)) : SortsCarrying file tag e := by
  obtain ⟨stop, addComma, moved⟩ :=
    SourceFile.carryingEdit_rearranges tidy.tokens (entries_fit tidy holds below) made
  exact ⟨keys.map (·.span), stop, addComma, below, by simpa using moved⟩

end Entries

namespace ImportMembers

variable {o : ImportMembersOptions} {file : SourceFile}

theorem members_nodes (t : Tree) (specifiers : List NodeId) :
    ((members t specifiers).map (·.node)).Sublist specifiers := by
  induction specifiers with
  | nil => exact List.Sublist.refl _
  | cons specifier specifiers ih =>
    rw [members, List.filterMap_cons]
    split
    · exact ih.cons specifier
    · rename_i m found
      have node : m.node = specifier := by
        split at found
        · obtain ⟨name, -, rfl⟩ := Option.map_eq_some_iff.mp found
          rfl
        · simp at found
      rw [List.map_cons, node]
      exact ih.cons_cons specifier

theorem sortKey_span {t : Tree} {m : Member} {key : SortKey} (made : sortKey t m = .ok key) :
    t.span? m.node = some key.span := by
  simp only [sortKey] at made
  split at made
  · rename_i span placed
    cases made
    exact place_eq_ok.mp placed
  · simp at made

theorem keys_below {id : NodeId} {specifiers : List NodeId} {source : Text} {kind : ImportKind}
    {keys : List SortKey} (shape : file.tree.kind id = .importDeclaration specifiers source kind)
    (placed : (members file.tree specifiers).mapM (sortKey file.tree) = .ok keys) :
    EntriesBelow file .importDeclaration (keys.map (·.span)) := by
  refine ⟨id, by simp [Tree.tag, shape, NodeKind.tag], ?_⟩
  rw [← spans_of_mapM (·.node) placed fun _ _ => sortKey_span, Tree.childSpans, Tree.children, shape]
  exact (members_nodes file.tree specifiers).filterMap _

theorem edit_sorts {keys : List SortKey} {e : Edit} (tidy : file.Tidy)
    (below : EntriesBelow file .importDeclaration (keys.map (·.span)))
    (made : edit o file keys = .ok (some e)) :
    SortsInPlace file .importDeclaration e ∨ SortsCarrying file .importDeclaration e := by
  simp only [edit] at made
  split at made
  · exact Or.inl (inPlaceEdit?_sorts tidy (Or.inr (Or.inl rfl)) below (by simpa using made))
  · split at made
    · exact Or.inr (carryingEdit_sorts tidy (Or.inr (Or.inl rfl)) below made)
    · simp at made

theorem visit_safe (tidy : file.Tidy) (id : NodeId) :
    ∀ f ∈ (visit o file id).findings, f.Safe file := by
  intro f member
  obtain ⟨lint, specifiers, source, kind, keys, shape, placed, sorted⟩ := visit_finding member
  intro s suggested _
  rw [lint]
  exact edit_sorts tidy (keys_below shape placed) (sorted s suggested)

theorem rule_safe (tidy : file.Tidy) : (rule o).Reports file (·.Safe file) :=
  Rule.reports_of_visit fun _ id => visit_safe tidy id

end ImportMembers

namespace Destructuring

variable {c : Collation} {file : SourceFile}

theorem movingEntries_sublist (t : Tree) (entries : List NodeId) :
    (movingEntries t entries).Sublist entries := by
  have kept : (entries.reverse.dropWhile fun entry => decide (t.tag entry = .restElement)).Sublist
      entries.reverse := List.dropWhile_sublist _
  have moving := kept.reverse
  rwa [List.reverse_reverse] at moving

theorem sortKey_span {entry : NodeId} {key : SortKey} (made : sortKey file entry = .ok key) :
    file.tree.span? entry = some key.span := by
  simp only [sortKey] at made
  split at made
  · simp at made
  · rename_i span placed
    rw [place_eq_ok] at placed
    split at made
    · split at made
      · cases made
        exact placed
      · split at made
        · cases made
          exact placed
        · simp at made
    · cases made
      exact placed

theorem edit_carries {id : NodeId} {entries : List NodeId} {e : Edit}
    (kind : file.tree.kind id = .objectPattern entries)
    (made : edit c file entries = .ok (some e)) :
    ∃ keys, EntriesBelow file .objectPattern (keys.map (·.span)) ∧
      file.carryingEdit c keys = .ok (some e) := by
  simp only [edit] at made
  split at made
  · simp at made
  · rename_i keys placed
    refine ⟨keys, ⟨id, by simp [Tree.tag, kind, NodeKind.tag], ?_⟩, made⟩
    have spans := spans_of_mapM (fun entry => entry) placed fun _ _ => sortKey_span
    rw [← spans, List.map_id', Tree.childSpans, Tree.children, kind]
    exact (movingEntries_sublist file.tree entries).filterMap _

theorem visit_safe (tidy : file.Tidy) (id : NodeId) :
    ∀ f ∈ (visit c file id).findings, f.Safe file := by
  intro f member
  obtain ⟨lint, entries, shape, sorted⟩ := visit_finding member
  intro s suggested _
  obtain ⟨keys, below, made⟩ := edit_carries shape (sorted s suggested)
  rw [lint]
  exact carryingEdit_sorts tidy (Or.inr (Or.inr rfl)) below made

theorem rule_safe (tidy : file.Tidy) : (rule c).Reports file (·.Safe file) :=
  Rule.reports_of_visit fun _ id => visit_safe tidy id

end Destructuring

namespace ImportPaths

variable {r : ImportOrder} {file : SourceFile} {p : Plan}

theorem members_consecutive {members : List Nat} (made : planOf r file = .ok p)
    (listed : members ∈ p.runs ∨ members = [] ∨ members = List.range p.imports.length) :
    members <:+: List.range p.imports.length := by
  obtain ⟨-, -, -, -, -, runs, -⟩ := planOf_ok made
  rcases listed with run | rfl | rfl
  · exact Plan.runs_consecutive runs run
  · exact List.nil_infix
  · exact List.infix_rfl

theorem rule_safe (tidy : file.Tidy) : (rule r).Reports file (·.Safe file) := by
  refine ⟨fun s => s.plan = planOf r file, rfl, ?_, ?_⟩
  · intro s id planned f member
    obtain ⟨lint, p, made, edits⟩ := visit_finding member
    rw [planned] at made
    intro s suggested _
    rw [lint]
    rcases edits s suggested with regroup | ⟨members, listed, order⟩
    · exact regroupEdit?_moves tidy made regroup
    · exact orderEdit?_moves tidy made (members_consecutive made listed) order
  · intro s id planned s' outcome
    exact (visit_plan outcome).trans planned

theorem rule?_safe {o : ImportPathsOptions} {built : Rule} (tidy : file.Tidy)
    (made : rule? o = .ok built) : built.Reports file (·.Safe file) := by
  obtain ⟨r, -, rfl⟩ := rule?_ok made
  exact rule_safe tidy

end ImportPaths

namespace Complexity

theorem rule?_safe {o : ComplexityOptions} {r : Rule} {file : SourceFile} (made : rule? o = .ok r) :
    r.Reports file (·.Safe file) := by
  obtain rfl := rule?_ok made
  refine Rule.reports_of_visit fun s id f member t suggested => ?_
  rw [(visit_finding member).2] at suggested
  simp at suggested

end Complexity

namespace CamelCase

theorem finding_suggestion {detail : Bool} {t : Tree} {span : Span} {occ : Occurrence}
    {s : Suggestion} (suggested : (finding detail t span occ).suggestion = some s) :
    s.applicability = .maybeIncorrect := by
  simp only [finding] at suggested
  obtain ⟨name, -, rfl⟩ := Option.map_eq_some_iff.mp suggested
  rfl

theorem rule?_safe {detail : Bool} {o : CamelCaseOptions} {r : Rule} {file : SourceFile}
    (made : rule? detail o = .ok r) : r.Reports file (·.Safe file) := by
  obtain rfl := rule?_ok made
  refine Rule.reports_of_visit fun _ id f member s suggested applicable => ?_
  obtain ⟨occ, -, span, -, rfl⟩ := reportNew_finding member
  rw [finding_suggestion suggested] at applicable
  cases applicable

end CamelCase

theorem options_rules_safe {o : RuleOptions} {detail : Bool} {rules : List Rule}
    {file : SourceFile} (tidy : file.Tidy) (made : o.rules detail = .ok rules) :
    ∀ r ∈ rules, r.Reports file (·.Safe file) := by
  simp only [RuleOptions.rules] at made
  cases complexity : Complexity.rule? o.complexity with
  | error cause =>
    rw [complexity] at made
    cases made
  | ok first =>
    cases importPaths : ImportPaths.rule? o.importPaths with
    | error cause =>
      rw [complexity, importPaths] at made
      cases made
    | ok fourth =>
      cases camelCase : CamelCase.rule? detail o.camelCase with
      | error cause =>
        rw [complexity, importPaths, camelCase] at made
        cases made
      | ok fifth =>
        rw [complexity, importPaths, camelCase] at made
        cases made
        simp only [List.forall_mem_cons, List.not_mem_nil, false_implies, implies_true, and_true]
        exact ⟨Complexity.rule?_safe complexity, Destructuring.rule_safe tidy,
          ImportMembers.rule_safe tidy, ImportPaths.rule?_safe tidy importPaths,
          CamelCase.rule?_safe camelCase⟩

/-- Whatever is selected and however it is configured, each edit of a run that may be applied
without a look only rearranges the text it replaces. -/
theorem machine_applicable_edits_rearrange {selection : Selection} {o : RuleOptions} {detail : Bool}
    {rules : List Rule} {settings : Settings} {file : SourceFile}
    (made : selection.rules o detail = .ok rules) (tidy : file.Tidy) :
    ∀ d ∈ (runRules rules settings file).1, ∀ s, d.suggestion = some s →
      s.applicability = .machineApplicable → SafeEdit file s.edit d.lint := by
  intro d member s suggested applicable
  have selected : ∀ r ∈ rules, r.Reports file (·.Safe file) := by
    simp only [Selection.rules] at made
    split at made
    · simp at made
    · split at made
      · simp at made
      · rename_i all built
        cases made
        intro r kept
        exact options_rules_safe tidy built r (List.mem_filter.mp kept).1
  obtain ⟨f, safe, diagnosed⟩ := runRules_diagnostics selected d member
  obtain ⟨-, lint, -, -, -, suggestion⟩ := diagnose_some diagnosed
  rw [lint]
  exact safe s (suggestion ▸ suggested) applicable

def importPathsOnly : Selection := { only := ["ordered_imports_by_path"] }

theorem importPathsOnly_rules :
    importPathsOnly.rules {} false = .ok [ImportPaths.rule ImportPaths.plainOrder] := rfl

def twoImports : SourceFile :=
  .ofParts "import 'b'; // x\nimport 'a';".toList
    { nodes := #[⟨.importDeclaration [] ['b'] .value, some ⟨0, 11⟩⟩,
        ⟨.importDeclaration [] ['a'] .value, some ⟨17, 28⟩⟩, ⟨.program [0, 1], some ⟨0, 28⟩⟩]
      root := 2 }
    [⟨.keyword, ⟨0, 6⟩⟩, ⟨.string, ⟨7, 10⟩⟩, ⟨.punctuator, ⟨10, 11⟩⟩,
      ⟨.keyword, ⟨17, 23⟩⟩, ⟨.string, ⟨24, 27⟩⟩, ⟨.punctuator, ⟨27, 28⟩⟩]
    [⟨.line, ⟨12, 16⟩⟩] []

theorem machine_applicable_edits_rearrange_two_imports :
    twoImports.Tidy ∧ ∃ d ∈ (runRules [ImportPaths.rule ImportPaths.plainOrder] {} twoImports).1,
      ∃ s, d.suggestion = some s ∧
        s.edit = ⟨⟨0, 28⟩, "import 'a';\nimport 'b'; // x".toList⟩ ∧
        SafeEdit twoImports s.edit d.lint := by
  have tidy : twoImports.Tidy := by
    apply of_decide_eq_true
    cbv
  have run : (runRules [ImportPaths.rule ImportPaths.plainOrder] {} twoImports).1.map (·.suggestion) =
      [some ⟨"Sort imports by path".toList,
        ⟨⟨0, 28⟩, "import 'a';\nimport 'b'; // x".toList⟩, .machineApplicable⟩] := by
    cbv
  obtain ⟨d, only, suggested⟩ := List.map_eq_singleton_iff.mp run
  have member : d ∈ (runRules [ImportPaths.rule ImportPaths.plainOrder] {} twoImports).1 := by
    rw [only]
    exact List.mem_singleton_self d
  refine ⟨tidy, d, member, _, suggested, rfl, ?_⟩
  exact machine_applicable_edits_rearrange importPathsOnly_rules tidy d member _ suggested rfl

def tokenless : SourceFile :=
  .ofParts "import 'b'; import 'a'; // end\n".toList
    { nodes := #[⟨.importDeclaration [] ['b'] .value, some ⟨0, 11⟩⟩,
        ⟨.importDeclaration [] ['a'] .value, some ⟨12, 23⟩⟩, ⟨.program [0, 1], some ⟨0, 31⟩⟩]
      root := 2 }
    [] [⟨.line, ⟨24, 30⟩⟩] []

/-- Order alone is not enough. Where an import starts with no token, the one before it takes along
the comments behind it, and so the import itself. -/
theorem tokenless_edit_doubles_import :
    tokenless.TokensOrdered ∧ tokenless.CommentsOrdered ∧
      (∀ t ∈ tokenless.tokens.toList,
        ∃ s ∈ tokenless.tree.childSpans tokenless.tree.root, s.contains t.span = true) ∧
      (∀ id < tokenless.tree.nodes.size, Ordered (tokenless.tree.childSpans id)) ∧
      ∃ d ∈ (runRules [ImportPaths.rule ImportPaths.plainOrder] {} tokenless).1,
        ∃ s, d.suggestion = some s ∧ s.applicability = .machineApplicable ∧
          s.edit = ⟨⟨0, 23⟩, "import 'a';import 'b'; import 'a'; // end".toList⟩ ∧
          ¬ SafeEdit tokenless s.edit d.lint := by
  have none : tokenless.tokens.toList = [] := by cbv
  refine ⟨of_decide_eq_true (by cbv), of_decide_eq_true (by cbv), by simp [none],
    of_decide_eq_true (by cbv), ?_⟩
  have run : (runRules [ImportPaths.rule ImportPaths.plainOrder] {} tokenless).1.map
      (fun d => (d.lint, d.suggestion)) =
      [(.orderedImportsByPath, some ⟨"Sort imports by path".toList,
        ⟨⟨0, 23⟩, "import 'a';import 'b'; import 'a'; // end".toList⟩, .machineApplicable⟩)] := by
    cbv
  obtain ⟨d, only, found⟩ := List.map_eq_singleton_iff.mp run
  obtain ⟨lint, suggested⟩ := Prod.mk.inj found
  refine ⟨d, by rw [only]; exact List.mem_singleton_self d, _, suggested, rfl, rfl, ?_⟩
  rw [lint]
  intro moves
  have more : (tokenless.slice ⟨0, 23⟩).countP (· != '\n') <
      "import 'a';import 'b'; import 'a'; // end".toList.countP (· != '\n') :=
    of_decide_eq_true (by cbv)
  exact Nat.not_le.mpr more (ImportPaths.moves_adds_only_breaks moves)

end ScriptLint
