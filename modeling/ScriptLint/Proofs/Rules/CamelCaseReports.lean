import ScriptLint.Proofs.Lint.Shares
import ScriptLint.Proofs.Naming.Casing
import ScriptLint.Proofs.Reordering.Tidy
import ScriptLint.Proofs.Syntax.NameRoles

/-!
Names that are not in camel case are reported once for each place.

Five kinds of sites lead to a report: uses of unknown names, declarations with their uses, imports,
members, and exports or labels. A report stands at an identifier whose name no exemption could save,
and a declaration that is rejected is reported with all its uses, by this or an earlier site.
-/
namespace ScriptLint

namespace ScopeTable

theorem declared_names {t : Tree} {globals : List Text} {node : NodeId} {v : Variable}
    (member : v ∈ (ofTree t globals).declared node) {x : NodeId}
    (listed : x ∈ v.identifiers ∨ x ∈ v.references.map (·.identifier)) :
    t.kind x = .identifier v.name := by
  obtain ⟨b, -, -, rfl⟩ := mem_declared.mp member
  rcases listed with declares | refers
  · obtain ⟨other, made, same, rfl⟩ := mem_identifiers_iff.mp declares
    rw [← same]
    exact Tree.binding_name made
  · obtain ⟨reference, found, rfl⟩ := List.mem_map.mp refers
    rcases List.mem_append.mp found with first | use
    · obtain ⟨other, own, rfl⟩ := List.mem_map.mp first
      obtain ⟨made, same⟩ := List.mem_filter.mp (List.mem_filter.mp own).1
      rw [← eq_of_beq same]
      exact Tree.binding_name made
    · obtain ⟨entry, kept, rfl⟩ := List.mem_map.mp use
      obtain ⟨resolved, same⟩ := List.mem_filter.mp kept
      obtain ⟨origin, made, rfl⟩ := List.mem_map.mp resolved
      have name := (lookup?_some (eq_of_beq same)).1
      rw [(mem_usesOf.mp made).2.1, ← name]
      rfl

theorem declared_first {t : Tree} {globals : List Text} {node : NodeId} {v : Variable}
    (member : v ∈ (ofTree t globals).declared node) :
    node ∈ t.walk ∧ ∃ first, v.identifiers.head? = some first := by
  obtain ⟨b, bound, own, rfl⟩ := mem_declared.mp member
  constructor
  · obtain ⟨id, outer, entry, made⟩ := Tree.mem_bindings.mp bound
    rw [← own, (Tree.mem_bindingsAt made).1, ← Tree.scopedNodes_nodes]
    exact List.mem_map_of_mem entry
  · have listed := mem_identifiers bound
    cases identifiers : (variableOf t.bindings (resolvedOf t) (keyOf b)).identifiers with
    | nil =>
      rw [identifiers] at listed
      cases listed
    | cons first others => exact ⟨first, rfl⟩

end ScopeTable

namespace CamelCase

variable {o : CamelCaseOptions} {file : SourceFile} {detail : Bool} {t : Tree}

def declarationExemption? (o : CamelCaseOptions) : NodeKind → Option Bool
  | .variableDeclaration kind _ => some (kind == .constant && isExempt o .firstClassConstant)
  | .function .. | .catchClause .. | .classDefinition .. | .interfaceDeclaration ..
  | .enumDeclaration .. | .typeAliasDeclaration .. => some false
  | _ => none

/-- Identifiers that are judged, each with the exemption for a single word in capitals. -/
inductive Site (o : CamelCaseOptions) (file : SourceFile) : NodeId → Bool → Prop where
  | unknown {id : NodeId} (use : id ∈ file.scopes.unresolved) : Site o file id false
  | declaration {node id : NodeId} {exempt : Bool} {v : Variable}
    (declares : declarationExemption? o (file.tree.kind node) = some exempt)
    (declared : v ∈ file.scopes.declared node)
    (listed : v.identifiers.head? = some id ∨ ⟨id, false⟩ ∈ v.references) : Site o file id exempt
  | imported {node specifier id : NodeId} {v : Variable}
    (statement : file.tree.tag node = .importDeclaration)
    (inside : specifier ∈ file.tree.children node) (declared : v ∈ file.scopes.declared specifier)
    (listed : v.identifiers.head? = some id ∨ id ∈ v.references.map (·.identifier)) :
    Site o file id false
  | member {id : NodeId} {exempt : Bool}
    (site : nameSite? o file.tree id = some (.member exempt)) : Site o file id exempt
  | exportOrLabel {id : NodeId} (site : nameSite? o file.tree id = some .exportOrLabel) :
    Site o file id false

theorem rejected?_iff {exempt : Bool} {name : Text} {suggestion : Option Text} :
    rejected? o exempt name = some suggestion ↔
      (casing o).check exempt name = .invalid suggestion := by
  unfold rejected?
  cases (casing o).check exempt name <;> simp

theorem mem_variableOccurrences {suggestion : Option Text} {context useContext : String}
    {identifiers uses : List NodeId} {occ : Occurrence}
    (member : occ ∈ variableOccurrences suggestion context useContext identifiers uses) :
    occ.suggestion = suggestion ∧
      (identifiers.head? = some occ.identifier ∨ occ.identifier ∈ uses) := by
  cases identifiers with
  | nil => cases member
  | cons first others =>
    rcases List.mem_cons.mp member with rfl | use
    · exact ⟨rfl, Or.inl rfl⟩
    · obtain ⟨id, listed, rfl⟩ := List.mem_map.mp use
      exact ⟨rfl, Or.inr listed⟩

/-- An occurrence is a site whose name is rejected under the exemption of the site. -/
structure Judged (o : CamelCaseOptions) (file : SourceFile) (occ : Occurrence) (exempt : Bool)
    (name : Text) : Prop where
  site : Site o file occ.identifier exempt
  named : file.tree.name? occ.identifier = some name
  rejected : (casing o).check exempt name = .invalid occ.suggestion

section Judging

variable {globals : List Text} (scopes : file.scopes = .ofTree file.tree globals)
  {id : NodeId} {occ : Occurrence}

theorem globalOccurrences_judged (member : occ ∈ globalOccurrences o file) :
    ∃ exempt name, Judged o file occ exempt name := by
  obtain ⟨x, use, found⟩ := List.mem_filterMap.mp member
  obtain ⟨name, named, made⟩ := Option.bind_eq_some_iff.mp found
  obtain ⟨suggestion, rejected, rfl⟩ := Option.map_eq_some_iff.mp made
  exact ⟨false, name, .unknown use, named, rejected?_iff.mp rejected⟩

theorem siteOccurrences_judged (member : occ ∈ siteOccurrences o file.tree id) :
    ∃ exempt name, Judged o file occ exempt name := by
  unfold siteOccurrences at member
  split at member
  · rename_i exempt name site named
    split at member
    · cases member
    · split at member
      · rename_i suggestion rejected
        rw [List.mem_singleton.mp member]
        exact ⟨exempt, name, .member site, named, rejected?_iff.mp rejected⟩
      · cases member
  · rename_i name site named
    split at member
    · rename_i suggestion rejected
      rw [List.mem_singleton.mp member]
      exact ⟨false, name, .exportOrLabel site, named, rejected?_iff.mp rejected⟩
    · cases member
  · cases member

include scopes

theorem variable_named {node x : NodeId} {v : Variable} (declared : v ∈ file.scopes.declared node)
    (listed : v.identifiers.head? = some x ∨ x ∈ v.references.map (·.identifier)) :
    file.tree.name? x = some v.name := by
  rw [scopes] at declared
  have shape := ScopeTable.declared_names declared (listed.imp_left List.mem_of_head?)
  unfold Tree.name?
  rw [shape]
  rfl

theorem declarationOccurrences_judged {exempt : Bool}
    (declares : declarationExemption? o (file.tree.kind id) = some exempt)
    (member : occ ∈ declarationOccurrences o file exempt id) :
    ∃ exempt name, Judged o file occ exempt name := by
  obtain ⟨v, declared, found⟩ := List.mem_flatMap.mp member
  split at found
  · cases found
  · rename_i suggestion rejected
    obtain ⟨same, listed⟩ := mem_variableOccurrences found
    have use : v.identifiers.head? = some occ.identifier ∨
        ⟨occ.identifier, false⟩ ∈ v.references := by
      rcases listed with first | use
      · exact Or.inl first
      · obtain ⟨⟨x, init⟩, kept, same⟩ := List.mem_map.mp use
        obtain ⟨inside, later⟩ := List.mem_filter.mp kept
        cases init with
        | false => exact Or.inr (same ▸ inside)
        | true => cases later
    refine ⟨exempt, v.name, .declaration declares declared use, ?_, ?_⟩
    · exact variable_named scopes declared (use.imp_right fun inside =>
        List.mem_map.mpr ⟨_, inside, rfl⟩)
    · rw [same]
      exact rejected?_iff.mp rejected

theorem importOccurrences_judged {specifier : NodeId}
    (statement : file.tree.tag id = .importDeclaration) (inside : specifier ∈ file.tree.children id)
    (member : occ ∈ importOccurrences o file specifier) :
    ∃ exempt name, Judged o file occ exempt name := by
  obtain ⟨v, declared, found⟩ := List.mem_flatMap.mp member
  split at found
  · cases found
  · rename_i suggestion rejected
    split at found
    · cases found
    · obtain ⟨same, listed⟩ := mem_variableOccurrences found
      refine ⟨false, v.name, .imported statement inside declared listed, ?_, ?_⟩
      · exact variable_named scopes declared listed
      · rw [same]
        exact rejected?_iff.mp rejected

theorem occurrences_judged (member : occ ∈ occurrences o file id) :
    ∃ exempt name, Judged o file occ exempt name := by
  unfold occurrences at member
  split at member
  · exact globalOccurrences_judged member
  iterate 7
    · rename_i kind
      exact declarationOccurrences_judged scopes (by rw [kind]; rfl) member
  · rename_i kind
    split at member
    · cases member
    · obtain ⟨specifier, inside, found⟩ := List.mem_flatMap.mp member
      have statement : file.tree.tag id = .importDeclaration := by
        unfold Tree.tag
        rw [kind]
        rfl
      have child : specifier ∈ file.tree.children id := by
        unfold Tree.children
        rw [kind]
        exact inside
      exact importOccurrences_judged scopes statement child found
  · exact siteOccurrences_judged member
  · exact siteOccurrences_judged member
  · cases member

end Judging

section Reporting

variable {reported next : List Nat} {occs : List Occurrence}

def starts (findings : List Finding) : List Nat := findings.map (·.span.start)

theorem reportNew_fresh (detail : Bool) (t : Tree) (occs : List Occurrence)
    (once : reported.Nodup) :
    (starts (reportNew detail t reported occs).findings ++ reported).Nodup := by
  fun_induction reportNew detail t reported occs with
  | case1 reported => exact once
  | case2 reported occ occs e missing => exact once
  | case3 reported occ occs span placed known ih => exact ih once
  | case4 reported occ occs span placed new rest ih =>
    have unknown : span.start ∉ reported := by simpa using new
    exact List.nodup_middle.mp (ih (List.nodup_cons.mpr ⟨unknown, once⟩))

theorem reportNew_next (done : (reportNew detail t reported occs).outcome = .ok next) :
    next.Perm (starts (reportNew detail t reported occs).findings ++ reported) := by
  fun_induction reportNew detail t reported occs with
  | case1 reported =>
    cases done
    exact List.Perm.refl _
  | case2 reported occ occs e missing => cases done
  | case3 reported occ occs span placed known ih => exact ih done
  | case4 reported occ occs span placed new rest ih => exact (ih done).trans List.perm_middle

theorem reportNew_covers (done : (reportNew detail t reported occs).outcome = .ok next)
    {occ : Occurrence} (member : occ ∈ occs) :
    ∃ span, t.span? occ.identifier = some span ∧
      span.start ∈ starts (reportNew detail t reported occs).findings ++ reported := by
  fun_induction reportNew detail t reported occs with
  | case1 reported => cases member
  | case2 reported first occs e missing => cases done
  | case3 reported first occs span placed known ih =>
    rcases List.mem_cons.mp member with rfl | later
    · exact ⟨span, place_eq_ok.mp placed, List.mem_append_right _ (by simpa using known)⟩
    · exact ih done later
  | case4 reported first occs span placed new rest ih =>
    rcases List.mem_cons.mp member with rfl | later
    · exact ⟨span, place_eq_ok.mp placed, List.mem_append_left _ List.mem_cons_self⟩
    · obtain ⟨other, found, inside⟩ := ih done later
      exact ⟨other, found, List.perm_middle.mem_iff.mp inside⟩

theorem finding_known (span : Span) (occ : Occurrence) : (finding detail t span occ).IsKnown := by
  unfold finding Finding.IsKnown messageId
  dsimp only
  cases t.tag occ.identifier == .privateIdentifier <;> cases occ.suggestion.isSome <;> rfl

end Reporting

section Working

variable {settings : Settings} {reported : List Nat} {id : NodeId} {nodes : List NodeId}
  {ds : List Diagnostic} {y : Running}

theorem call_starts (called : (Running.call settings file ⟨rule detail o, reported⟩ id).1 = ds) :
    (ds.map (·.span.start)).Sublist
      (starts (reportNew detail file.tree reported (occurrences o file id)).findings) := by
  have spans := diagnoseAll_spans settings file
    (reportNew detail file.tree reported (occurrences o file id)).findings
  have shown := spans.map Span.start
  rw [List.map_map, List.map_map] at shown
  rw [← called]
  exact shown

theorem call_shown (level : settings.levelOf Lint.strictCamelCase.name ≠ .allow)
    (called : (Running.call settings file ⟨rule detail o, reported⟩ id).1 = ds) :
    ds.map (·.span.start) =
      starts (reportNew detail file.tree reported (occurrences o file id)).findings := by
  have known : ∀ f ∈ (reportNew detail file.tree reported (occurrences o file id)).findings,
      f.IsKnown ∧ settings.levelOf f.lint.name ≠ .allow := by
    intro f member
    obtain ⟨occ, -, span, -, rfl⟩ := reportNew_finding member
    exact ⟨finding_known span occ, level⟩
  have shown := (@diagnoseAll_shown settings file _ (fun f member => (known f member).1)
    (fun f member => (known f member).2)).length_eq
  apply (call_starts called).eq_of_length
  rw [← called, List.length_map, starts, List.length_map]
  exact shown.symm

theorem call_next (called : (Running.call settings file ⟨rule detail o, reported⟩ id).2 = .ok y) :
    ∃ next, (reportNew detail file.tree reported (occurrences o file id)).outcome = .ok next ∧
      y = ⟨rule detail o, next⟩ :=
  Running.call_ok called

theorem work_unique (settings : Settings) (file : SourceFile) (detail : Bool)
    (o : CamelCaseOptions) (nodes : List NodeId) (once : reported.Nodup) :
    ((Running.work settings file ⟨rule detail o, reported⟩ nodes).1.map (·.span.start) ++
      reported).Nodup := by
  induction nodes generalizing reported with
  | nil => exact once
  | cons id nodes ih =>
    have fresh := reportNew_fresh detail file.tree (occurrences o file id) once
    rw [Running.work_cons]
    cases called : Running.call settings file ⟨rule detail o, reported⟩ id with
    | mk ds outcome =>
      have shown := call_starts (congrArg Prod.fst called)
      cases outcome with
      | error e => exact fresh.sublist (shown.append_right reported)
      | ok y =>
        obtain ⟨next, done, rfl⟩ := call_next (congrArg Prod.snd called)
        have turned := reportNew_next done
        have rest := ih (turned.nodup_iff.mpr fresh)
        rw [(turned.append_left _).nodup_iff] at rest
        have kept := rest.sublist ((shown.append_right reported).append_left _)
        rw [List.map_append, List.append_assoc]
        exact List.perm_append_comm_assoc _ _ _ |>.nodup_iff.mp kept

theorem work_covers (level : settings.levelOf Lint.strictCamelCase.name ≠ .allow)
    (complete : (Running.work settings file ⟨rule detail o, reported⟩ nodes).2 = none)
    (visited : id ∈ nodes) {occ : Occurrence} (member : occ ∈ occurrences o file id) :
    ∃ span, file.tree.span? occ.identifier = some span ∧ span.start ∈
      (Running.work settings file ⟨rule detail o, reported⟩ nodes).1.map (·.span.start) ++
        reported := by
  induction nodes generalizing reported with
  | nil => cases visited
  | cons first nodes ih =>
    rw [Running.work_cons] at complete ⊢
    cases called : Running.call settings file ⟨rule detail o, reported⟩ first with
    | mk ds outcome =>
      rw [called] at complete
      cases outcome with
      | error e => cases complete
      | ok y =>
        obtain ⟨next, done, rfl⟩ := call_next (congrArg Prod.snd called)
        have turned := reportNew_next done
        have shown := call_shown level (congrArg Prod.fst called)
        dsimp only
        rw [List.map_append, List.append_assoc, shown]
        rcases List.mem_cons.mp visited with rfl | later
        · obtain ⟨span, placed, start⟩ := reportNew_covers done member
          refine ⟨span, placed, ?_⟩
          rcases List.mem_append.mp start with now | before
          · exact List.mem_append_left _ now
          · exact List.mem_append_right _ (List.mem_append_right _ before)
        · obtain ⟨span, placed, start⟩ := ih complete later
          refine ⟨span, placed, ?_⟩
          rcases List.mem_append.mp start with after | before
          · exact List.mem_append_right _ (List.mem_append_left _ after)
          · rcases List.mem_append.mp (turned.mem_iff.mp before) with now | old
            · exact List.mem_append_left _ now
            · exact List.mem_append_right _ (List.mem_append_right _ old)

end Working

theorem kind_of_name {id : NodeId} {name : Text} (named : t.name? id = some name) :
    t.kind id = .identifier name ∨ t.kind id = .privateIdentifier name := by
  unfold Tree.name? NodeKind.name? at named
  split at named
  · rename_i kind
    cases named
    exact Or.inl kind
  · rename_i kind
    cases named
    exact Or.inr kind
  · cases named

section Declarations

variable {node : NodeId} {exempt : Bool}
  (declares : declarationExemption? o (file.tree.kind node) = some exempt)
include declares

theorem occurrences_declaration :
    occurrences o file node = declarationOccurrences o file exempt node := by
  unfold declarationExemption? at declares
  unfold occurrences
  split at declares
  iterate 7
    · rename_i kind
      cases declares
      rw [kind]
  · cases declares

theorem declaration_selected : selectors.any
    (·.accepts (file.tree.tag node) (file.tree.parentTag? node)) = true := by
  unfold declarationExemption? at declares
  unfold Tree.tag
  split at declares
  iterate 7
    · rename_i kind
      rw [kind]
      rfl
  · cases declares

theorem declaration_occurs {v : Variable} {first id : NodeId}
    (declared : v ∈ file.scopes.declared node)
    (rejected : (casing o).check exempt v.name ≠ .valid)
    (head : v.identifiers.head? = some first) (use : id = first ∨ ⟨id, false⟩ ∈ v.references) :
    ∃ occ ∈ occurrences o file node, occ.identifier = id := by
  obtain ⟨suggestion, verdict⟩ :
      ∃ suggestion, (casing o).check exempt v.name = .invalid suggestion := by
    cases verdict : (casing o).check exempt v.name with
    | valid => exact absurd verdict rejected
    | invalid suggestion => exact ⟨suggestion, rfl⟩
  obtain ⟨others, identifiers⟩ := List.head?_eq_some_iff.mp head
  have listed : ∀ occ, occ ∈ variableOccurrences suggestion "declaration" "declaration reference"
      v.identifiers ((v.references.filter (!·.init)).map (·.identifier)) →
      occ ∈ occurrences o file node := by
    intro occ inside
    rw [occurrences_declaration declares]
    refine List.mem_flatMap.mpr ⟨v, declared, ?_⟩
    rw [rejected?_iff.mpr verdict]
    exact inside
  rw [identifiers] at listed
  rcases use with rfl | later
  · exact ⟨_, listed _ List.mem_cons_self, rfl⟩
  · have kept : id ∈ (v.references.filter (!·.init)).map (·.identifier) :=
      List.mem_map.mpr ⟨_, List.mem_filter.mpr ⟨later, rfl⟩, rfl⟩
    exact ⟨_, listed _ (List.mem_cons_of_mem _ (List.mem_map_of_mem kept)), rfl⟩

end Declarations

/-- A report at an identifier with a rejected name, which renames nothing else. -/
structure Anchored (o : CamelCaseOptions) (file : SourceFile) (d : Diagnostic) (id : NodeId)
    (exempt : Bool) (name : Text) : Prop where
  site : Site o file id exempt
  placed : file.tree.span? id = some d.span
  named : file.tree.kind id = .identifier name ∨ file.tree.kind id = .privateIdentifier name
  rejected : (casing o).check false name ≠ .valid
  edit : ∀ s, d.suggestion = some s → ∃ fixed, s.edit =
      ⟨d.span, (if file.tree.tag id = .privateIdentifier then ['#'] else []) ++ fixed⟩ ∧
    fixed ≠ name ∧ (casing o).check exempt fixed = .valid

theorem Judged.anchored {settings : Settings} {occ : Occurrence} {exempt : Bool} {name : Text}
    {span : Span} {d : Diagnostic} (judged : Judged o file occ exempt name)
    (placed : file.tree.span? occ.identifier = some span)
    (diagnosed : (finding detail file.tree span occ).diagnose settings file = .ok (some d)) :
    Anchored o file d occ.identifier exempt name := by
  have here : d.span = span := (diagnose_some diagnosed).span
  constructor
  · exact judged.site
  · rw [here]
    exact placed
  · exact kind_of_name judged.named
  · intro valid
    have rejected := judged.rejected
    rw [Casing.check_exempt valid] at rejected
    cases rejected
  · intro s suggested
    rw [(diagnose_some diagnosed).suggestion] at suggested
    obtain ⟨fixed, offered, rfl⟩ := Option.map_eq_some_iff.mp suggested
    refine ⟨fixed, ?_, Casing.check_offers (offered ▸ judged.rejected)⟩
    unfold suggest
    simp only [beq_iff_eq, here]

section Runs

variable {rules : List Rule} {r : Rule} (builtIn : ∀ r ∈ rules, r.IsBuiltIn)
  (once : (rules.map (·.lint)).Nodup) (made : rule? detail o = .ok r) (member : r ∈ rules)
include builtIn once made member

theorem reports_perm (settings : Settings) (file : SourceFile) :
    ∃ nodes, ((runRules rules settings file).1.filter (·.lint = .strictCamelCase)).Perm
        (Running.work settings file ⟨rule detail o, []⟩ nodes).1 ∧
      ((runRules rules settings file).2 = none → nodes = (rule detail o).nodes file ∧
        (Running.work settings file ⟨rule detail o, []⟩ nodes).2 = none) := by
  obtain rfl := rule?_ok made
  have own : ∀ r ∈ rules, r.ReportsOwn := fun r listed => (builtIn r listed).reportsOwn
  obtain ⟨nodes, -, filtered, ended⟩ := runRules_share member own once settings file
  refine ⟨nodes, ?_, ended⟩
  have same : (runRules rules settings file).1.filter (·.lint = .strictCamelCase) = _ := filtered
  rw [same]
  exact List.mergeSort_perm _ _

theorem reports_unique (settings : Settings) (file : SourceFile) :
    (((runRules rules settings file).1.filter (·.lint = .strictCamelCase)).map
      (·.span.start)).Nodup := by
  obtain ⟨nodes, turned, -⟩ := reports_perm builtIn once made member settings file
  have fresh := work_unique settings file detail o nodes List.nodup_nil
  rw [List.append_nil] at fresh
  exact (turned.map _).nodup_iff.mpr fresh

/-- No two reports start at one place. Each stands at an identifier whose name is rejected without
an exemption, and the edit that it offers writes another name there, which is accepted under the
exemption of the site. -/
theorem camel_case_reports_sound (settings : Settings) (text : Text) (tree : Tree)
    (tokens : List Token) (comments : List Comment) (globals : List Text) :
    let file := SourceFile.ofParts text tree tokens comments globals
    let reports := (runRules rules settings file).1.filter (·.lint = .strictCamelCase)
    (reports.map (·.span.start)).Nodup ∧
      ∀ d ∈ reports, ∃ id exempt name, Anchored o file d id exempt name := by
  intro file reports
  refine ⟨reports_unique builtIn once made member settings file, ?_⟩
  intro d listed
  obtain ⟨nodes, turned, -⟩ := reports_perm builtIn once made member settings file
  obtain ⟨reported, id, f, found, diagnosed⟩ := Running.work_mem (turned.mem_iff.mp listed)
  obtain ⟨occ, occurs, span, placed, rfl⟩ := reportNew_finding found
  obtain ⟨exempt, name, judged⟩ := occurrences_judged rfl occurs
  exact ⟨occ.identifier, exempt, name, judged.anchored (place_eq_ok.mp placed) diagnosed⟩

end Runs

/-- A class with the private field `#aURL`, of which the rule makes `#aUrl`. -/
def privateAcronym : Tree :=
  { nodes := #[⟨.identifier "Car".toList, some ⟨6, 9⟩⟩,
      ⟨.privateIdentifier "aURL".toList, some ⟨10, 15⟩⟩,
      ⟨.propertyDefinition 1 none false false, some ⟨10, 15⟩⟩,
      ⟨.classDefinition .declaration (some 0) [] [2], some ⟨0, 16⟩⟩, ⟨.program [3], some ⟨0, 16⟩⟩]
    root := 4 }

theorem alone_builtIn : ∀ r ∈ [rule false {}], r.IsBuiltIn :=
  Rule.IsBuiltIn.alone (.camelCase (show rule? false {} = .ok _ from rfl))

theorem camel_case_reports_sound_privateAcronym :
    let file := SourceFile.ofParts "class Car\x7b#aURL\x7d".toList privateAcronym [] [] []
    let reports := (runRules [rule false {}] {} file).1.filter (·.lint = .strictCamelCase)
    reports.map (fun d => (d.span, d.suggestion.map (·.edit))) =
        [(⟨10, 15⟩, some ⟨⟨10, 15⟩, "#aUrl".toList⟩)] ∧
      (reports.map (·.span.start)).Nodup ∧
        ∀ d ∈ reports, ∃ id exempt name, Anchored {} file d id exempt name := by
  constructor
  · decide +kernel
  · exact camel_case_reports_sound alone_builtIn (by decide) rfl List.mem_cons_self {} _ _ _ _ _

section CompleteRuns

variable {rules : List Rule} {r : Rule} (builtIn : ∀ r ∈ rules, r.IsBuiltIn)
  (once : (rules.map (·.lint)).Nodup) (made : rule? detail o = .ok r) (member : r ∈ rules)
include builtIn once made member

/-- When a walk ends without an error, a declared variable whose name is rejected is reported once
where it is first declared and once at each later use, by whichever site came first. -/
theorem rejected_declaration_reports_uses {settings : Settings}
    (level : settings.levelOf Lint.strictCamelCase.name ≠ .allow) (text : Text) (tree : Tree)
    (tokens : List Token) (comments : List Comment) (globals : List Text) :
    let file := SourceFile.ofParts text tree tokens comments globals
    let reports := (runRules rules settings file).1.filter (·.lint = .strictCamelCase)
    (runRules rules settings file).2 = none →
      ∀ node exempt v, declarationExemption? o (tree.kind node) = some exempt →
        v ∈ file.scopes.declared node → (casing o).check exempt v.name ≠ .valid →
        ∃ first, v.identifiers.head? = some first ∧
          ∀ id, id = first ∨ ⟨id, false⟩ ∈ v.references →
            ∃ span d, tree.span? id = some span ∧
              reports.filter (·.span.start = span.start) = [d] := by
  intro file reports complete node exempt v declares declared rejected
  obtain ⟨visited, first, head⟩ := ScopeTable.declared_first declared
  refine ⟨first, head, ?_⟩
  intro id use
  obtain ⟨occ, occurs, rfl⟩ := declaration_occurs declares declared rejected head use
  obtain ⟨nodes, turned, ended⟩ := reports_perm builtIn once made member settings file
  obtain ⟨rfl, fine⟩ := ended complete
  have called : node ∈ (rule detail o).nodes file :=
    List.mem_filter.mpr ⟨visited, declaration_selected declares⟩
  obtain ⟨span, placed, start⟩ := work_covers level fine called occurs
  rw [List.append_nil, ← (turned.map _).mem_iff] at start
  obtain ⟨d, single⟩ :=
    filter_of_nodup_map (reports_unique builtIn once made member settings file) start
  exact ⟨span, d, placed, single⟩

end CompleteRuns

def selfAssigned : Tree :=
  { nodes := #[⟨.identifier "aURL".toList, some ⟨4, 8⟩⟩, ⟨.identifier "aURL".toList, some ⟨9, 13⟩⟩,
      ⟨.variableDeclarator 0 (some 1), some ⟨4, 13⟩⟩, ⟨.variableDeclaration .var [2], some ⟨0, 13⟩⟩,
      ⟨.program [3], some ⟨0, 13⟩⟩]
    root := 4 }

theorem rejected_declaration_reports_uses_selfAssigned :
    let file := SourceFile.ofParts "var aURL=aURL".toList selfAssigned [] [] []
    let reports := (runRules [rule false {}] {} file).1.filter (·.lint = .strictCamelCase)
    (runRules [rule false {}] {} file).2 = none ∧
      ∃ v ∈ file.scopes.declared 3, v.identifiers = [0] ∧ v.references = [⟨0, true⟩, ⟨1, false⟩] ∧
        ∃ first, v.identifiers.head? = some first ∧
          ∀ id, id = first ∨ ⟨id, false⟩ ∈ v.references →
            ∃ span d, selfAssigned.span? id = some span ∧
              reports.filter (·.span.start = span.start) = [d] := by
  have complete : (runRules [rule false {}] {}
      (SourceFile.ofParts "var aURL=aURL".toList selfAssigned [] [] [])).2 = none := by
    decide +kernel
  have declared : ⟨"aURL".toList, [⟨.program, 4⟩], [0], [⟨0, true⟩, ⟨1, false⟩]⟩ ∈
      (ScopeTable.ofTree selfAssigned []).declared 3 := by
    decide +kernel
  refine ⟨complete, _, declared, rfl, rfl, ?_⟩
  have made : rule? false {} = .ok (rule false {}) := rfl
  exact rejected_declaration_reports_uses alone_builtIn (by decide) made List.mem_cons_self
    (by decide) _ _ _ _ _ complete 3 false _ rfl declared (by decide +kernel)

end CamelCase

end ScriptLint
