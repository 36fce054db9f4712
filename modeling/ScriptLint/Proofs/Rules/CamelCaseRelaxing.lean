import ScriptLint.Proofs.Rules.CamelCaseReports

/-!
Relaxed options report no more.

Options that allow more names, exempt more places or look at fewer sites lead from each node to no
other identifiers than before. So the places that a walk reports are among those of a walk under the
stricter options, although suggestions and the order of the reports may differ.
-/
namespace ScriptLint

/-- The second options allow whatever the first ones allow. -/
structure CamelCaseOptions.Relaxes (o o' : CamelCaseOptions) : Prop where
  ignoreProperties : o.ignoreProperties = true → o'.ignoreProperties = true
  ignoreImports : o.ignoreImports = true → o'.ignoreImports = true
  ignoredIdentifiers : o.ignoredIdentifiers ⊆ o'.ignoredIdentifiers
  oneCharWords : o.oneCharWords.rank ≤ o'.oneCharWords.rank
  ignoreSingleWords : o.ignoreSingleWords = true → o'.ignoreSingleWords = true
  ignoreSingleWordsIn : o.ignoreSingleWordsIn ⊆ o'.ignoreSingleWordsIn

namespace CamelCase

/-- A site of the same kind, which is exempt if the first one is. -/
inductive NameSite.Looser : NameSite → NameSite → Prop where
  | member {exempt exempt' : Bool} (weaker : exempt = true → exempt' = true) :
    Looser (.member exempt) (.member exempt')
  | exportOrLabel : Looser .exportOrLabel .exportOrLabel

theorem variableOccurrences_suggestion {suggestion' : Option Text} {context useContext : String}
    {identifiers uses : List NodeId} {occ' : Occurrence}
    (member : occ' ∈ variableOccurrences suggestion' context useContext identifiers uses)
    (suggestion : Option Text) :
    ∃ occ ∈ variableOccurrences suggestion context useContext identifiers uses,
      occ.identifier = occ'.identifier := by
  cases identifiers with
  | nil => cases member
  | cons first others =>
    rcases List.mem_cons.mp member with rfl | use
    · exact ⟨_, List.mem_cons_self, rfl⟩
    · obtain ⟨x, listed, rfl⟩ := List.mem_map.mp use
      exact ⟨_, List.mem_cons_of_mem _ (List.mem_map_of_mem listed), rfl⟩

section Sites

variable {o o' : CamelCaseOptions} (relaxes : o.Relaxes o') {file : SourceFile} {t : Tree}
  {id : NodeId} {occ' : Occurrence}
include relaxes

theorem isExempt_relaxed {position : SingleWordPosition} (exempt : isExempt o position = true) :
    isExempt o' position = true := by
  unfold isExempt at exempt ⊢
  rw [List.contains_iff_mem] at exempt ⊢
  exact relaxes.ignoreSingleWordsIn exempt

theorem rejected?_relaxed {exempt exempt' : Bool} (weaker : exempt = true → exempt' = true)
    {name : Text} {suggestion' : Option Text}
    (rejected : rejected? o' exempt' name = some suggestion') :
    ∃ suggestion, rejected? o exempt name = some suggestion := by
  have casings : (casing o).Relaxes (casing o') :=
    ⟨relaxes.ignoredIdentifiers, relaxes.oneCharWords, relaxes.ignoreSingleWords⟩
  rw [rejected?_iff] at rejected
  cases verdict : (casing o).check exempt name with
  | valid =>
    rw [Casing.check_relaxed casings weaker verdict] at rejected
    cases rejected
  | invalid suggestion => exact ⟨suggestion, rejected?_iff.mpr verdict⟩

theorem nameSite?_relaxed {site' : NameSite} (found : nameSite? o' t id = some site') :
    ∃ site, nameSite? o t id = some site ∧ site.Looser site' := by
  have exempt := fun position => @isExempt_relaxed o o' relaxes position
  unfold nameSite? at found ⊢
  dsimp only at found ⊢
  split at found
  · cases found
  · split at found <;> grind [NameSite.Looser]

theorem globalOccurrences_relaxed (member : occ' ∈ globalOccurrences o' file) :
    ∃ occ ∈ globalOccurrences o file, occ.identifier = occ'.identifier := by
  obtain ⟨x, use, found⟩ := List.mem_filterMap.mp member
  obtain ⟨name, named, made⟩ := Option.bind_eq_some_iff.mp found
  obtain ⟨suggestion', rejected, rfl⟩ := Option.map_eq_some_iff.mp made
  obtain ⟨suggestion, rejected⟩ := rejected?_relaxed relaxes (fun same => same) rejected
  refine ⟨⟨x, suggestion, "global reference"⟩, List.mem_filterMap.mpr ⟨x, use, ?_⟩, rfl⟩
  rw [named, Option.bind_some, rejected]
  rfl

theorem declarationOccurrences_relaxed {exempt exempt' : Bool}
    (weaker : exempt = true → exempt' = true)
    (member : occ' ∈ declarationOccurrences o' file exempt' id) :
    ∃ occ ∈ declarationOccurrences o file exempt id, occ.identifier = occ'.identifier := by
  obtain ⟨v, declared, found⟩ := List.mem_flatMap.mp member
  split at found
  · cases found
  · rename_i suggestion' rejected
    obtain ⟨suggestion, rejected⟩ := rejected?_relaxed relaxes weaker rejected
    obtain ⟨occ, listed, same⟩ := variableOccurrences_suggestion found suggestion
    refine ⟨occ, List.mem_flatMap.mpr ⟨v, declared, ?_⟩, same⟩
    rw [rejected]
    exact listed

theorem importOccurrences_relaxed {specifier : NodeId}
    (member : occ' ∈ importOccurrences o' file specifier) :
    ∃ occ ∈ importOccurrences o file specifier, occ.identifier = occ'.identifier := by
  obtain ⟨v, declared, found⟩ := List.mem_flatMap.mp member
  split at found
  · cases found
  · rename_i suggestion' rejected
    obtain ⟨suggestion, rejected⟩ := rejected?_relaxed relaxes (fun same => same) rejected
    split at found
    · cases found
    · rename_i renamed
      obtain ⟨occ, listed, same⟩ := variableOccurrences_suggestion found suggestion
      refine ⟨occ, List.mem_flatMap.mpr ⟨v, declared, ?_⟩, same⟩
      rw [rejected]
      dsimp only
      rw [if_neg renamed]
      exact listed

theorem siteOccurrences_relaxed (member : occ' ∈ siteOccurrences o' t id) :
    ∃ occ ∈ siteOccurrences o t id, occ.identifier = occ'.identifier := by
  unfold siteOccurrences at member ⊢
  split at member
  · rename_i exempt' name found named
    obtain ⟨site, old, looser⟩ := nameSite?_relaxed relaxes found
    cases looser with
    | member weaker =>
      split at member
      · cases member
      · rename_i checked'
        have checked : ¬ o.ignoreProperties = true :=
          fun ignored => checked' (relaxes.ignoreProperties ignored)
        split at member
        · rename_i suggestion' rejected
          obtain ⟨suggestion, rejected⟩ := rejected?_relaxed relaxes weaker rejected
          rw [List.mem_singleton.mp member, old, named]
          dsimp only
          rw [if_neg checked, rejected]
          exact ⟨_, List.mem_singleton.mpr rfl, rfl⟩
        · cases member
  · rename_i name found named
    obtain ⟨site, old, looser⟩ := nameSite?_relaxed relaxes found
    cases looser with
    | exportOrLabel =>
      split at member
      · rename_i suggestion' rejected
        obtain ⟨suggestion, rejected⟩ := rejected?_relaxed relaxes (fun same => same) rejected
        rw [List.mem_singleton.mp member, old, named]
        dsimp only
        rw [rejected]
        exact ⟨_, List.mem_singleton.mpr rfl, rfl⟩
      · cases member
  · cases member

theorem occurrences_relaxed (member : occ' ∈ occurrences o' file id) :
    ∃ occ ∈ occurrences o file id, occ.identifier = occ'.identifier := by
  unfold occurrences at member ⊢
  split at member
  · exact globalOccurrences_relaxed relaxes member
  · refine declarationOccurrences_relaxed relaxes ?_ member
    intro exempt
    rw [Bool.and_eq_true] at exempt ⊢
    exact exempt.imp_right (isExempt_relaxed relaxes)
  iterate 6
    · exact declarationOccurrences_relaxed relaxes (fun same => same) member
  · split at member
    · cases member
    · rename_i checked'
      rw [if_neg fun ignored => checked' (relaxes.ignoreImports ignored)]
      obtain ⟨specifier, inside, found⟩ := List.mem_flatMap.mp member
      obtain ⟨occ, listed, same⟩ := importOccurrences_relaxed relaxes found
      exact ⟨occ, List.mem_flatMap.mpr ⟨specifier, inside, listed⟩, same⟩
  · exact siteOccurrences_relaxed relaxes member
  · exact siteOccurrences_relaxed relaxes member
  · cases member

end Sites

/-- Under relaxed options a walk, even one that an error ends, reports only places that a complete
walk under the stricter options reports. The other rules of the two runs may be any. -/
theorem relaxed_options_report_subset {rules rules' : List Rule} {r r' : Rule}
    {detail detail' : Bool} {o o' : CamelCaseOptions} (relaxes : o.Relaxes o')
    (builtIn : ∀ r ∈ rules, r.IsBuiltIn) (once : (rules.map (·.lint)).Nodup)
    (made : rule? detail o = .ok r) (member : r ∈ rules)
    (builtIn' : ∀ r ∈ rules', r.IsBuiltIn) (once' : (rules'.map (·.lint)).Nodup)
    (made' : rule? detail' o' = .ok r') (member' : r' ∈ rules') (settings : Settings)
    (file : SourceFile) (complete : (runRules rules settings file).2 = none) :
    ((runRules rules' settings file).1.filter (·.lint = .strictCamelCase)).map (·.span.start) ⊆
      ((runRules rules settings file).1.filter (·.lint = .strictCamelCase)).map (·.span.start) := by
  intro start listed
  obtain ⟨d, reported, rfl⟩ := List.mem_map.mp listed
  obtain rfl := rule?_ok made'
  have own : ∀ r ∈ rules', r.ReportsOwn := fun r inside => (builtIn' r inside).reportsOwn
  obtain ⟨nodes, first, filtered, -⟩ := runRules_share member' own once' settings file
  have worked : d ∈ (Running.work settings file ⟨rule detail' o', []⟩ nodes).1 := by
    have sorted := filtered ▸ reported
    exact List.mem_mergeSort.mp sorted
  obtain ⟨known, id, visited, f, found, diagnosed⟩ := Running.work_source worked
  obtain ⟨occ', occurs', span', placed', rfl⟩ := reportNew_finding found
  obtain ⟨occ, occurs, same⟩ := occurrences_relaxed relaxes occurs'
  -- The node is met under the stricter options too, since the selectors are the same.
  obtain ⟨nodes, turned, ended⟩ := reports_perm builtIn once made member settings file
  obtain ⟨rfl, fine⟩ := ended complete
  have called : id ∈ (rule detail o).nodes file := first.subset visited
  obtain ⟨span, placed, covered⟩ := work_covers (diagnose_some diagnosed).shown fine called occurs
  rw [List.append_nil, ← (turned.map _).mem_iff] at covered
  have here : d.span = span := by
    rw [same, place_eq_ok.mp placed'] at placed
    rw [(diagnose_some diagnosed).span]
    exact Option.some.inj placed
  rw [here]
  exact covered

/-- The declaration `const HTML=aURL`, whose value nothing declares. -/
def capitalConstant : SourceFile :=
  .ofParts "const HTML=aURL".toList
    { nodes := #[⟨.identifier "HTML".toList, some ⟨6, 10⟩⟩,
        ⟨.identifier "aURL".toList, some ⟨11, 15⟩⟩, ⟨.variableDeclarator 0 (some 1), some ⟨6, 15⟩⟩,
        ⟨.variableDeclaration .constant [2], some ⟨0, 15⟩⟩, ⟨.program [3], some ⟨0, 15⟩⟩]
      root := 4 }
    [] [] []

def capitalConstants : CamelCaseOptions := { ignoreSingleWordsIn := [.firstClassConstant] }

theorem relaxed_options_report_subset_capitalConstant :
    let starts (o : CamelCaseOptions) := ((runRules [rule false o] {} capitalConstant).1.filter
      (·.lint = .strictCamelCase)).map (·.span.start)
    (starts {}).Perm [11, 6] ∧ starts capitalConstants = [11] ∧
      starts capitalConstants ⊆ starts {} := by
  have relaxes : CamelCaseOptions.Relaxes {} capitalConstants :=
    ⟨by decide, by decide, by decide, by decide, by decide, by decide⟩
  have made : rule? false capitalConstants = .ok (rule false capitalConstants) := rfl
  have worked : ((((rule false {}).run capitalConstant).work {} capitalConstant
      ((rule false {}).nodes capitalConstant)).1.filter (·.lint = .strictCamelCase)).map
        (·.span.start) = [11, 6] := by
    decide +kernel
  refine ⟨?_, by decide +kernel, ?_⟩
  · dsimp only
    rw [runRules_alone, ← worked]
    exact ((List.mergeSort_perm _ _).filter _).map _
  · exact relaxed_options_report_subset relaxes alone_builtIn (by decide) rfl List.mem_cons_self
      (Rule.IsBuiltIn.alone (.camelCase made)) (by decide) made List.mem_cons_self {}
      capitalConstant (by decide +kernel)

end CamelCase

end ScriptLint
