import ScriptLint.Proofs.Fix
import ScriptLint.Proofs.Rules.SafeEdits
import ScriptLint.Proofs.Source.Fitting
import ScriptLint.Proofs.Syntax.NameRoles

/-!
Every edit that is offered can be applied.

An edit of the ordering rules reaches from the first of some entries to the last one or to a token
behind it, and a new name takes the place of an identifier. On a file whose concrete tree fits the
text all these are ranges of the text.
-/
namespace ScriptLint

def Finding.Fits (file : SourceFile) (f : Finding) : Prop :=
  ∀ s, f.suggestion = some s → s.edit.span.Fits file.text

section Entries

variable {file : SourceFile} {tag : NodeTag} {c : Collation} {keys : List SortKey} {e : Edit}

theorem inPlaceEdit?_fits (fit : SpansFit file.text (keys.map (·.span)))
    (made : file.inPlaceEdit? c keys = some e) : e.span.Fits file.text := by
  simp only [SourceFile.inPlaceEdit?] at made
  split at made
  · rename_i first last head final
    cases made
    exact fit.hull (by simp [head]) (by simp [final])
  · simp at made

variable (fitting : file.Fitting)
include fitting

theorem entriesBelow_fit (holds : tag.HoldsEntries) {spans : List Span}
    (below : EntriesBelow file tag spans) : SpansFit file.text spans := by
  obtain ⟨id, rfl, sub⟩ := below
  exact (fitting.entries id holds).sublist sub

theorem carryingEdit_fits (fit : SpansFit file.text (keys.map (·.span)))
    (made : file.carryingEdit c keys = .ok (some e)) : e.span.Fits file.text := by
  obtain ⟨first, last, t, addComma, head, final, member, after, rfl⟩ :=
    SourceFile.carryingEdit_cases fitting.tokens made
  have hull : Span.Fits ⟨first.span.start, last.span.stop⟩ file.text :=
    fit.hull (by simp [head]) (by simp [final])
  exact ⟨Nat.le_trans hull.forward after, hull.first, fitting.tokenStarts t member⟩

end Entries

section Rules

variable {file : SourceFile} (fitting : file.Fitting)
include fitting

theorem ImportMembers.rule_fits (o : ImportMembersOptions) :
    (rule o).Reports file (·.Fits file) := by
  refine Rule.reports_of_visit fun _ id f member s suggested => ?_
  obtain ⟨-, specifiers, source, kind, keys, shape, placed, sorted⟩ := visit_finding member
  have fit := entriesBelow_fit fitting (Or.inr (Or.inl rfl)) (keys_below shape placed)
  have made := sorted s suggested
  simp only [edit] at made
  split at made
  · exact inPlaceEdit?_fits fit (by simpa using made)
  · split at made
    · exact carryingEdit_fits fitting fit made
    · simp at made

theorem Destructuring.rule_fits (c : Collation) : (rule c).Reports file (·.Fits file) := by
  refine Rule.reports_of_visit fun _ id f member s suggested => ?_
  obtain ⟨-, entries, shape, sorted⟩ := visit_finding member
  obtain ⟨keys, below, made⟩ := edit_carries shape (sorted s suggested)
  exact carryingEdit_fits fitting (entriesBelow_fit fitting (Or.inr (Or.inr rfl)) below) made

namespace ImportPaths

variable {r : ImportOrder} {p : Plan}

theorem editSpan?_fits (made : planOf r file = .ok p) {es : List (ImportEntry × Nat)} {span : Span}
    (consecutive : es <:+: p.imports.zipIdx) (edit : p.editSpan? es = some span) :
    span.Fits file.text := by
  obtain ⟨-, root, -⟩ := planOf_ok made
  obtain ⟨first, last, head, final, rfl, -⟩ := editSpan?_some edit
  have statements := fitting.entries file.tree.root (Or.inl root)
  have sub := (Plan.consecutive_spans consecutive).sublist.trans (planOf_covers made).imports
  exact (statements.sublist sub).hull (by simp [head]) (by simp [final])

theorem orderEdit?_fits (made : planOf r file = .ok p) {members : List Nat} {e : Edit}
    (consecutive : members <:+: List.range p.imports.length)
    (edit : p.orderEdit? r file members = some e) : e.span.Fits file.text := by
  obtain ⟨span, last, covers, -, rfl⟩ := Plan.orderEdit?_some edit
  exact editSpan?_fits fitting made (Plan.entries_consecutive consecutive) covers

theorem regroupEdit?_fits (made : planOf r file = .ok p) {e : Edit}
    (edit : p.regroupEdit? r file = some e) : e.span.Fits file.text := by
  obtain ⟨g, span, -, covers, rfl⟩ := Plan.regroupEdit?_some edit
  exact editSpan?_fits fitting made List.infix_rfl covers

theorem rule_fits (r : ImportOrder) : (rule r).Reports file (·.Fits file) := by
  refine ⟨fun s => s.plan = planOf r file, rfl, ?_, ?_⟩
  · intro s id planned f member s suggested
    obtain ⟨-, p, made, edits⟩ := visit_finding member
    rw [planned] at made
    rcases edits s suggested with regroup | ⟨members, listed, order⟩
    · exact regroupEdit?_fits fitting made regroup
    · exact orderEdit?_fits fitting made (members_consecutive made listed) order
  · intro s id planned s' outcome
    exact (visit_plan outcome).trans planned

end ImportPaths

end Rules

namespace ScopeTable

theorem declared_identifiers {t : Tree} {globals : List Text} {node : NodeId} {v : Variable}
    (member : v ∈ (ofTree t globals).declared node) {x : NodeId}
    (listed : x ∈ v.identifiers ∨ x ∈ v.references.map (·.identifier)) :
    ∃ name, t.kind x = .identifier name := by
  obtain ⟨b, bound, -, rfl⟩ := mem_declared.mp member
  rcases listed with declares | refers
  · obtain ⟨other, made, -, rfl⟩ := mem_identifiers_iff.mp declares
    exact ⟨_, Tree.binding_name made⟩
  · obtain ⟨reference, found, rfl⟩ := List.mem_map.mp refers
    rcases List.mem_append.mp found with first | use
    · obtain ⟨other, own, rfl⟩ := List.mem_map.mp first
      exact ⟨_, Tree.binding_name (List.mem_filter.mp (List.mem_filter.mp own).1).1⟩
    · obtain ⟨entry, kept, rfl⟩ := List.mem_map.mp use
      obtain ⟨origin, made, rfl⟩ := List.mem_map.mp (List.mem_filter.mp kept).1
      exact ⟨origin.name, (mem_usesOf.mp made).2.1⟩

end ScopeTable

namespace CamelCase

variable {o : CamelCaseOptions} {file : SourceFile}

theorem variableOccurrences_identifier {suggestion : Option Text} {context useContext : String}
    {identifiers uses : List NodeId} {occ : Occurrence}
    (member : occ ∈ variableOccurrences suggestion context useContext identifiers uses) :
    occ.identifier ∈ identifiers ∨ occ.identifier ∈ uses := by
  cases identifiers with
  | nil => cases member
  | cons first others =>
    rcases List.mem_cons.mp member with rfl | use
    · exact Or.inl List.mem_cons_self
    · obtain ⟨id, listed, rfl⟩ := List.mem_map.mp use
      exact Or.inr listed

theorem siteOccurrences_identifier {id : NodeId} {occ : Occurrence}
    (member : occ ∈ siteOccurrences o file.tree id) : (file.tree.name? occ.identifier).isSome := by
  rw [siteOccurrences] at member
  split at member
  · rename_i named
    split at member
    · cases member
    · split at member
      · rw [List.mem_singleton.mp member]
        simp [named]
      · cases member
  · rename_i named
    split at member
    · rw [List.mem_singleton.mp member]
      simp [named]
    · cases member
  · cases member

theorem occurrences_named (scopes : ∃ globals, file.scopes = .ofTree file.tree globals)
    {id : NodeId} {occ : Occurrence} (member : occ ∈ occurrences o file id) :
    (file.tree.name? occ.identifier).isSome := by
  obtain ⟨globals, scopes⟩ := scopes
  have named : ∀ node v, v ∈ file.scopes.declared node → ∀ x,
      (x ∈ v.identifiers ∨ x ∈ v.references.map (·.identifier)) → (file.tree.name? x).isSome := by
    intro node v declared x listed
    rw [scopes] at declared
    obtain ⟨name, shape⟩ := ScopeTable.declared_identifiers declared listed
    simp [Tree.name?, shape, NodeKind.name?]
  have declaration : ∀ exempt, occ ∈ declarationOccurrences o file exempt id →
      (file.tree.name? occ.identifier).isSome := by
    intro exempt member
    obtain ⟨v, declared, found⟩ := List.mem_flatMap.mp member
    split at found
    · cases found
    · refine named id v declared _ ((variableOccurrences_identifier found).imp_right fun use => ?_)
      exact (List.filter_sublist.map _).subset use
  rw [occurrences] at member
  split at member
  · obtain ⟨x, -, found⟩ := List.mem_filterMap.mp member
    obtain ⟨name, shape, made⟩ := Option.bind_eq_some_iff.mp found
    obtain ⟨suggestion, -, rfl⟩ := Option.map_eq_some_iff.mp made
    simp [shape]
  · exact declaration _ member
  iterate 6
    · exact declaration _ member
  · split at member
    · cases member
    · obtain ⟨specifier, -, inner⟩ := List.mem_flatMap.mp member
      obtain ⟨v, declared, found⟩ := List.mem_flatMap.mp inner
      split at found
      · cases found
      · split at found
        · cases found
        · exact named specifier v declared _ (variableOccurrences_identifier found)
  · exact siteOccurrences_identifier member
  · exact siteOccurrences_identifier member
  · cases member

theorem rule_fits (fitting : file.Fitting) (detail : Bool) (o : CamelCaseOptions) :
    (rule detail o).Reports file (·.Fits file) := by
  refine Rule.reports_of_visit fun _ id f member s suggested => ?_
  obtain ⟨occ, listed, span, placed, rfl⟩ := reportNew_finding member
  obtain ⟨fixed, -, rfl⟩ := Option.map_eq_some_iff.mp suggested
  have named := occurrences_named fitting.scopes listed
  refine fitting.nodes occ.identifier span (place_eq_ok.mp placed) fun tag => ?_
  rw [Tree.tag] at tag
  rw [Tree.name?] at named
  cases shape : file.tree.kind occ.identifier <;> simp_all [NodeKind.tag, NodeKind.name?]

end CamelCase

theorem Rule.IsBuiltIn.fits {r : Rule} (builtIn : r.IsBuiltIn) {file : SourceFile}
    (fitting : file.Fitting) : r.Reports file (·.Fits file) := by
  cases builtIn with
  | complexity made =>
    obtain rfl := Complexity.rule?_ok made
    refine Rule.reports_of_visit fun s id f member t suggested => ?_
    rw [(Complexity.visit_finding member).2] at suggested
    cases suggested
  | destructuring c => exact Destructuring.rule_fits fitting c
  | importMembers o => exact ImportMembers.rule_fits fitting o
  | importPaths made =>
    obtain ⟨r, -, rfl⟩ := ImportPaths.rule?_ok made
    exact ImportPaths.rule_fits fitting r
  | camelCase made =>
    obtain rfl := CamelCase.rule?_ok made
    exact CamelCase.rule_fits fitting _ _

theorem Linter.lint_eq_ok_iff {l : Linter} {grammar : Grammar} {dialect : Dialect} {text : Text}
    {root : Concrete} {ds : List Diagnostic} (read : grammar dialect text = some root) :
    l.lint grammar dialect text = .ok ds ↔ root.info.hasError = false ∧
      runRules l.rules l.settings (.ofConcrete text root l.globals) = (ds, none) := by
  rw [lint, SourceFile.parse, read]
  cases broken : root.info.hasError with
  | true => simp [broken]
  | false =>
    cases run : runRules l.rules l.settings (.ofConcrete text root l.globals) with
    | mk found failure => cases failure <;> simp [broken, lintFile, run]

/-- If linting succeeds on a text whose concrete tree fits it, each suggested edit passes its check,
and so the edits can be applied, with the risky ones or without them. -/
theorem offered_edits_apply {l : Linter} {grammar : Grammar} {dialect : Dialect} {text : Text}
    {root : Concrete} {ds : List Diagnostic} (builtIn : ∀ r ∈ l.rules, r.IsBuiltIn)
    (read : grammar dialect text = some root) (fit : root.Fits text)
    (linted : l.lint grammar dialect text = .ok ds) :
    (∀ d ∈ ds, ∀ s, d.suggestion = some s → s.edit.check text = .ok ()) ∧
      ∀ risky, ∃ result, Fix.apply text risky (ds.filterMap (·.suggestion)) = .ok result := by
  obtain ⟨-, run⟩ := (Linter.lint_eq_ok_iff read).mp linted
  have fitting := SourceFile.ofConcrete_fitting fit l.globals
  have offered : ∀ d ∈ ds, ∀ s, d.suggestion = some s → s.edit.span.Fits text := by
    intro d member s suggested
    rw [show ds = _ from (congrArg Prod.fst run).symm] at member
    obtain ⟨f, fits, made⟩ :=
      runRules_diagnostics (fun r listed => (builtIn r listed).fits fitting) d member
    exact fits s ((diagnose_some made).suggestion ▸ suggested)
  refine ⟨fun d member s suggested => Edit.check_eq_ok_iff.mpr (offered d member s suggested), ?_⟩
  refine Fix.apply_ok fun s member => ?_
  obtain ⟨d, listed, suggested⟩ := List.mem_filterMap.mp member
  exact offered d listed s suggested

def symbol (kind : String) (span : Span) (isNamed : Bool) (fields : List String) : Concrete :=
  .node ⟨kind, span, isNamed, false, false, false, fields⟩ []

@[simp]
theorem symbol_span (kind : String) (span : Span) (isNamed : Bool) (fields : List String) :
    (symbol kind span isNamed fields).span = span := rfl

def importOf (keyword path : Span) : Concrete :=
  .node ⟨"import_statement", ⟨keyword.start, path.stop⟩, true, false, false, false, []⟩
    [symbol "import" keyword false [], symbol "string" path true ["source"]]

def twoPaths : Concrete :=
  .node ⟨"program", ⟨0, 20⟩, true, false, false, false, []⟩
    [importOf ⟨0, 6⟩ ⟨6, 10⟩, importOf ⟨11, 17⟩ ⟨17, 20⟩]

theorem symbol_fits {text : Text} {kind : String} {span : Span} {isNamed : Bool}
    {fields : List String} (fit : span.Fits text) : (symbol kind span isNamed fields).Fits text :=
  .node fit (by simp) .nil (by simp)

theorem importOf_fits {text : Text} {keyword path : Span} (first : keyword.Fits text)
    (second : path.Fits text) (next : keyword.stop = path.start) :
    (importOf keyword path).Fits text := by
  have forward := first.forward
  have forward' := second.forward
  refine .node ⟨?_, first.first, second.last⟩ ?_ ?_ ?_
  · exact Nat.le_trans forward (next ▸ forward')
  · simp only [List.forall_mem_cons, List.not_mem_nil, false_implies, implies_true, and_true,
      symbol_span, Span.contains, Bool.and_eq_true, decide_eq_true_eq]
    omega
  · simp [next]
  · simpa using ⟨symbol_fits first, symbol_fits second⟩

theorem twoPaths_fits : twoPaths.Fits "import'é'\nimport'a'".toList := by
  refine .node (by decide) (by decide) (by decide) ?_
  simpa [twoPaths] using ⟨importOf_fits (by decide) (by decide) rfl,
    importOf_fits (by decide) (by decide) rfl⟩

theorem twoPaths_file : SourceFile.ofConcrete "import'é'\nimport'a'".toList twoPaths [] =
    .ofParts "import'é'\nimport'a'".toList
      { nodes := #[⟨.importDeclaration [] ['é'] .value, some ⟨0, 10⟩⟩,
          ⟨.importDeclaration [] ['a'] .value, some ⟨11, 20⟩⟩, ⟨.program [0, 1], some ⟨0, 20⟩⟩]
        root := 2 }
      [⟨.keyword, ⟨0, 6⟩⟩, ⟨.string, ⟨6, 10⟩⟩, ⟨.keyword, ⟨11, 17⟩⟩, ⟨.string, ⟨17, 20⟩⟩] [] [] := rfl

theorem offered_edits_apply_two_paths :
    ∃ ds, Linter.lint ⟨[ImportPaths.rule ImportPaths.plainOrder], {}, []⟩
        (fun _ _ => some twoPaths) .typeScript "import'é'\nimport'a'".toList = .ok ds ∧
      ds.map (·.suggestion) = [some ⟨"Sort imports by path".toList,
        ⟨⟨0, 20⟩, "import'a'\nimport'é'".toList⟩, .machineApplicable⟩] ∧
      ∃ result, Fix.apply "import'é'\nimport'a'".toList false (ds.filterMap (·.suggestion)) =
        .ok result := by
  have suggestions : (runRules [ImportPaths.rule ImportPaths.plainOrder] {}
      (.ofConcrete "import'é'\nimport'a'".toList twoPaths [])).1.map (·.suggestion) =
      [some ⟨"Sort imports by path".toList,
        ⟨⟨0, 20⟩, "import'a'\nimport'é'".toList⟩, .machineApplicable⟩] := by
    rw [twoPaths_file]
    cbv
  have succeeds : (runRules [ImportPaths.rule ImportPaths.plainOrder] {}
      (.ofConcrete "import'é'\nimport'a'".toList twoPaths [])).2 = none := by
    rw [twoPaths_file]
    cbv
  have linted : Linter.lint ⟨[ImportPaths.rule ImportPaths.plainOrder], {}, []⟩
      (fun _ _ => some twoPaths) .typeScript "import'é'\nimport'a'".toList = .ok _ :=
    (Linter.lint_eq_ok_iff rfl).mpr ⟨rfl, Prod.ext rfl succeeds⟩
  have builtIn : ∀ r ∈ [ImportPaths.rule ImportPaths.plainOrder], r.IsBuiltIn :=
    List.forall_mem_singleton.mpr (.importPaths (o := {}) rfl)
  exact ⟨_, linted, suggestions, (offered_edits_apply builtIn rfl twoPaths_fits linted).2 false⟩

end ScriptLint
