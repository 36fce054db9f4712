import Mathlib
import ScriptLint.Proofs.Rules.ImportPlan

/-!
The groups of imports.

A configuration with groups in use has no group twice and both reserved ones, so every import has a
group, whatever the patterns accept. A group that is needed for the path of an import may still stay
empty: the imports that its pattern accepts can belong to the side effects or to a group before it.
-/
namespace ScriptLint

namespace ImportGroup

theorem ofLabel_label {label : Text} {group : ImportGroup} (made : ofLabel label = .ok group) :
    group.label = label := by
  simp only [ofLabel] at made
  split at made
  · rename_i same
    cases made
    exact same.symm
  · split at made
    · rename_i same
      cases made
      exact same.symm
    · split at made
      · cases made
        rfl
      · simp at made

/-- The group when each pattern accepts what `accepts` says. -/
def matchBy (accepts : Text → Text → Bool) : ImportGroup → ImportGroup
  | pattern source _ => pattern source (accepts source)
  | group => group

theorem matchBy_label (accepts : Text → Text → Bool) (group : ImportGroup) :
    (group.matchBy accepts).label = group.label := by
  cases group <;> rfl

def labelAccepts (label path : Text) : Bool := (Pattern.parse? label).any (·.accepts path)

theorem ofLabel_matchBy {label : Text} {group : ImportGroup} (made : ofLabel label = .ok group) :
    group.matchBy labelAccepts = group := by
  simp only [ofLabel] at made
  split at made
  · cases made
    rfl
  · split at made
    · cases made
      rfl
    · split at made
      · rename_i p parsed
        cases made
        have meaning : labelAccepts label = p.accepts := by
          funext path
          rw [labelAccepts, parsed]
          rfl
        rw [matchBy, meaning]
      · cases made

theorem isSideEffects_iff (group : ImportGroup) :
    group.isSideEffects = true ↔ group = .sideEffects := by
  cases group <;> simp [isSideEffects]

theorem isTheRest_iff (group : ImportGroup) : group.isTheRest = true ↔ group = .theRest := by
  cases group <;> simp [isTheRest]

end ImportGroup

namespace ImportOrder

def matchBy (accepts : Text → Text → Bool) (r : ImportOrder) : ImportOrder :=
  { r with groups := r.groups.map (·.matchBy accepts) }

theorem ofOptions_matchBy {o : ImportPathsOptions} {r : ImportOrder}
    (accepted : ofOptions o = .ok r) : r.matchBy ImportGroup.labelAccepts = r := by
  simp only [ofOptions] at accepted
  split at accepted
  · cases accepted
  · rename_i groups made
    cases accepted
    have same : groups.map (·.matchBy ImportGroup.labelAccepts) = groups := by
      conv_rhs => rw [← List.map_id groups]
      apply List.map_congr_left
      intro group member
      obtain ⟨label, -, read⟩ := mem_of_mapM made member
      exact ImportGroup.ofLabel_matchBy read
    rw [matchBy, same]

theorem ofOptions_labels {o : ImportPathsOptions} {r : ImportOrder}
    (accepted : ofOptions o = .ok r) :
    r.groups.map (·.label) = (ImportGroup.sideEffectsLabel :: o.groups).eraseDups := by
  simp only [ofOptions] at accepted
  split at accepted
  · cases accepted
  · rename_i groups made
    cases accepted
    exact map_of_mapM made fun _ _ => ImportGroup.ofLabel_label

structure Groups (r : ImportOrder) : Prop where
  nodup : r.groups.Nodup
  sideEffects : .sideEffects ∈ r.groups
  theRest : .theRest ∈ r.groups

theorem ofOptions_groups {o : ImportPathsOptions} {r : ImportOrder}
    (accepted : ofOptions o = .ok r) (grouped : r.usesGroups = true) : r.Groups := by
  have labels := ofOptions_labels accepted
  simp only [ofOptions] at accepted
  split at accepted
  · simp at accepted
  · rename_i groups made
    cases accepted
    simp only [Bool.and_eq_true, List.contains_iff_mem] at grouped
    have results := map_eq_of_mapM made
    have present : ∀ label group, label ∈ ImportGroup.sideEffectsLabel :: o.groups →
        ImportGroup.ofLabel label = .ok group → group ∈ groups := by
      intro label group listed named
      have result : ImportGroup.ofLabel label ∈ groups.map Except.ok := by
        rw [← results]
        exact List.mem_map_of_mem (List.mem_eraseDups.mpr listed)
      rw [named] at result
      simpa using result
    refine ⟨?_, ?_, ?_⟩
    · have distinct := nodup_eraseDups (ImportGroup.sideEffectsLabel :: o.groups)
      rw [← labels] at distinct
      exact distinct.of_map
    · exact present ImportGroup.sideEffectsLabel _ List.mem_cons_self rfl
    · exact present ImportGroup.theRestLabel _ (List.mem_cons_of_mem _ grouped.1.2) rfl

theorem matchBy_groups {o : ImportPathsOptions} {r : ImportOrder}
    (accepted : ofOptions o = .ok r) (grouped : r.usesGroups = true)
    (accepts : Text → Text → Bool) : (r.matchBy accepts).Groups := by
  have groups := ofOptions_groups accepted grouped
  refine ⟨?_, ?_, ?_⟩
  · have labels : (r.matchBy accepts).groups.map (·.label) = r.groups.map (·.label) := by
      rw [matchBy, List.map_map]
      exact List.map_congr_left fun group _ => group.matchBy_label accepts
    have distinct := nodup_eraseDups (ImportGroup.sideEffectsLabel :: o.groups)
    rw [← ofOptions_labels accepted, ← labels] at distinct
    exact distinct.of_map
  · exact List.mem_map.mpr ⟨.sideEffects, groups.sideEffects, rfl⟩
  · exact List.mem_map.mpr ⟨.theRest, groups.theRest, rfl⟩

section Needed

variable {r : ImportOrder} {imports : List ImportEntry}

theorem mem_neededGroups {group : ImportGroup} :
    group ∈ r.neededGroups imports ↔ group ∈ r.groups ∧ r.isNeeded imports group = true :=
  List.mem_filter

theorem neededGroups_nodup (groups : r.Groups) : (r.neededGroups imports).Nodup :=
  groups.nodup.filter _

theorem takes_needed {group : ImportGroup} {entry : ImportEntry} (listed : group ∈ r.groups)
    (member : entry ∈ imports) (takes : group.takes entry.path = true) :
    group ∈ r.neededGroups imports := by
  refine mem_neededGroups.mpr ⟨listed, ?_⟩
  cases group with
  | sideEffects => simp [ImportGroup.takes] at takes
  | theRest => simp [ImportGroup.takes] at takes
  | pattern source accepts => exact List.any_eq_true.mpr ⟨entry, member, takes⟩

theorem findIdx?_takes_none {entry : ImportEntry} (member : entry ∈ imports) :
    (r.neededGroups imports).findIdx? (·.takes entry.path) = none ↔
      r.anyPatternTakes entry.path = false := by
  rw [List.findIdx?_eq_none_iff, anyPatternTakes, List.any_eq_false]
  refine ⟨?_, ?_⟩
  · intro untaken group listed takes
    have refused := untaken group (takes_needed listed member takes)
    exact Bool.noConfusion (refused.symm.trans takes)
  · intro untaken group needed
    simpa using untaken group (mem_neededGroups.mp needed).1

theorem groupOf?_isSome (groups : r.Groups) {entry : ImportEntry} (member : entry ∈ imports) :
    (r.groupOf? (r.neededGroups imports) entry).isSome = true := by
  rw [groupOf?]
  split
  · rename_i first
    rw [List.findIdx?_isSome, List.any_eq_true]
    refine ⟨.sideEffects, mem_neededGroups.mpr ⟨groups.sideEffects, ?_⟩, rfl⟩
    exact List.any_eq_true.mpr ⟨entry, member, first⟩
  · rename_i later
    split
    · rfl
    · rename_i untaken
      rw [List.findIdx?_isSome, List.any_eq_true]
      refine ⟨.theRest, mem_neededGroups.mpr ⟨groups.theRest, ?_⟩, rfl⟩
      refine List.any_eq_true.mpr ⟨entry, member, ?_⟩
      simp [(findIdx?_takes_none member).mp untaken, later]

/-- An import goes into the group of a pattern when no earlier group gets hold of it. -/
structure GoesTo (r : ImportOrder) (earlier : List ImportGroup) (group : ImportGroup)
    (entry : ImportEntry) : Prop where
  later : r.goesFirst entry = false
  taken : group.takes entry.path = true
  untaken : ∀ other ∈ earlier, other.takes entry.path = false

theorem groupOf?_of_goesTo {needed : List ImportGroup} {n : Nat} {group : ImportGroup}
    {entry : ImportEntry} (here : needed[n]? = some group)
    (goes : r.GoesTo (needed.take n) group entry) : r.groupOf? needed entry = some n := by
  obtain ⟨bound, rfl⟩ := List.getElem?_eq_some_iff.mp here
  have found : needed.findIdx? (·.takes entry.path) = some n := by
    refine List.findIdx?_eq_some_iff_getElem.mpr ⟨bound, goes.taken, ?_⟩
    intro j before
    have earlier : needed[j] ∈ needed.take n :=
      List.mem_take_iff_getElem.mpr ⟨j, by omega, rfl⟩
    simp [goes.untaken _ earlier]
  rw [groupOf?, goes.later, found]
  rfl

theorem groupOf?_cases {needed : List ImportGroup} {n : Nat} {group : ImportGroup}
    {entry : ImportEntry} (here : needed[n]? = some group)
    (found : r.groupOf? needed entry = some n) :
    group = .sideEffects ∨ group = .theRest ∨ r.GoesTo (needed.take n) group entry := by
  obtain ⟨bound, rfl⟩ := List.getElem?_eq_some_iff.mp here
  rw [groupOf?] at found
  split at found
  · obtain ⟨_, reserved, _⟩ := List.findIdx?_eq_some_iff_getElem.mp found
    exact Or.inl ((ImportGroup.isSideEffects_iff _).mp reserved)
  · rename_i later
    split at found
    · rename_i m taken
      cases found
      obtain ⟨_, takes, before⟩ := List.findIdx?_eq_some_iff_getElem.mp taken
      refine Or.inr (Or.inr ⟨by simpa using later, takes, ?_⟩)
      intro other earlier
      obtain ⟨j, lt, rfl⟩ := List.mem_take_iff_getElem.mp earlier
      simpa using before j (by omega)
    · obtain ⟨_, reserved, _⟩ := List.findIdx?_eq_some_iff_getElem.mp found
      exact Or.inr (Or.inl ((ImportGroup.isTheRest_iff _).mp reserved))

/-- A needed group has an import if and only if it is reserved or an import goes to it past the
groups before it. -/
theorem exists_groupOf?_iff (groups : r.Groups) {n : Nat} {group : ImportGroup}
    (here : (r.neededGroups imports)[n]? = some group) :
    (∃ entry ∈ imports, r.groupOf? (r.neededGroups imports) entry = some n) ↔
      group = .sideEffects ∨ group = .theRest ∨
        ∃ entry ∈ imports, r.GoesTo ((r.neededGroups imports).take n) group entry := by
  have needed := (mem_neededGroups.mp (List.mem_of_getElem? here)).2
  refine ⟨?_, ?_⟩
  · rintro ⟨entry, member, found⟩
    rcases groupOf?_cases here found with first | rest | goes
    · exact Or.inl first
    · exact Or.inr (Or.inl rest)
    · exact Or.inr (Or.inr ⟨entry, member, goes⟩)
  · rintro (rfl | rfl | ⟨entry, member, goes⟩)
    · obtain ⟨entry, member, first⟩ := List.any_eq_true.mp needed
      refine ⟨entry, member, ?_⟩
      rw [groupOf?, if_pos first]
      exact findIdx?_of_nodup (neededGroups_nodup groups) here ImportGroup.isSideEffects_iff
    · obtain ⟨entry, member, rest⟩ := List.any_eq_true.mp needed
      simp only [Bool.and_eq_true, Bool.not_eq_true'] at rest
      refine ⟨entry, member, ?_⟩
      rw [groupOf?, rest.2, (findIdx?_takes_none member).mpr rest.1]
      exact findIdx?_of_nodup (neededGroups_nodup groups) here ImportGroup.isTheRest_iff
    · exact ⟨entry, member, groupOf?_of_goesTo here goes⟩

end Needed

end ImportOrder

namespace ImportPaths

theorem exists_groupingOf {r : ImportOrder} (groups : r.Groups) (grouped : r.usesGroups = true)
    (imports : List ImportEntry) : ∃ g, groupingOf r imports = .ok (some g) := by
  rw [groupingOf, if_pos grouped]
  dsimp only
  split
  · rename_i e failed
    rw [mapM_eq_ok (g := fun entry => (r.groupOf? (r.neededGroups imports) entry).getD 0)] at failed
    · cases failed
    · intro entry member
      obtain ⟨n, found⟩ := Option.isSome_iff_exists.mp (ImportOrder.groupOf?_isSome groups member)
      rw [found]
      rfl
  · exact ⟨_, rfl⟩

theorem groupingOf_correct {r : ImportOrder} {imports : List ImportEntry} {g : Grouping}
    (made : groupingOf r imports = .ok (some g)) :
    imports.map (r.groupOf? (r.neededGroups imports)) = g.correct.map some := by
  simp only [groupingOf] at made
  split at made
  · split at made
    · simp at made
    · rename_i correct mapped
      cases made
      have values := congrArg (List.map Except.toOption) (map_eq_of_mapM mapped)
      rw [List.map_map, List.map_map] at values
      refine Eq.trans (List.map_congr_left fun entry _ => ?_) values
      rw [Function.comp_apply]
      cases r.groupOf? (r.neededGroups imports) entry <;> rfl
  · simp at made

theorem groupingOf_labels {r : ImportOrder} {imports : List ImportEntry} {g : Grouping}
    (made : groupingOf r imports = .ok (some g)) :
    g.labels = (r.neededGroups imports).map (·.label) := by
  simp only [groupingOf] at made
  split at made
  · split at made
    · cases made
    · cases made
      rfl
  · cases made

theorem mem_correct {r : ImportOrder} {imports : List ImportEntry} {g : Grouping}
    (made : groupingOf r imports = .ok (some g)) {n : Nat} :
    n ∈ g.correct ↔ ∃ entry ∈ imports, r.groupOf? (r.neededGroups imports) entry = some n := by
  have listed : n ∈ g.correct ↔ some n ∈ g.correct.map some := by simp
  rw [listed, ← groupingOf_correct made, List.mem_map]

theorem planOf_error {r : ImportOrder} {file : SourceFile} {e : LintError}
    (grouping : ∀ imports, ∃ g, groupingOf r imports = .ok g) (failed : planOf r file = .error e) :
    e = .rootNotProgram ∨ ∃ tag, e = .missingPlace tag := by
  simp only [planOf] at failed
  split at failed
  · split at failed
    · rename_i unplaced
      cases failed
      obtain ⟨id, -, missing⟩ := error_of_mapM unplaced
      unfold statement Tree.place at missing
      cases place : file.tree.span? id with
      | none =>
        rw [place] at missing
        exact Or.inr ⟨_, (Except.error.inj missing).symm⟩
      | some span =>
        rw [place] at missing
        dsimp only at missing
        split at missing <;> cases missing
    · rename_i statements _
      obtain ⟨g, found⟩ := grouping (statements.filterMap Sum.getLeft?)
      rw [found] at failed
      cases failed
  · cases failed
    exact Or.inl rfl

theorem Plan.mem_bucket {p : Plan} {r : ImportOrder} {g : Grouping} {i n : Nat}
    {entry : ImportEntry} (here : p.imports[i]? = some entry) (group : g.correct[i]? = some n)
    (bound : n < g.labels.length) :
    ∃ bucket, (p.buckets r g)[n]? = some bucket ∧ (entry, i) ∈ bucket := by
  unfold buckets
  rw [List.getElem?_map, List.getElem?_range bound]
  refine ⟨_, rfl, ?_⟩
  unfold sortEntries
  rw [List.mem_mergeSort]
  refine List.mem_map.mpr ⟨((entry, i), n), List.mem_filter.mpr ⟨?_, beq_self_eq_true n⟩, rfl⟩
  have paired : (p.imports.zipIdx.zip g.correct)[i]? = some ((entry, i), n) := by
    rw [List.getElem?_zip_eq_some]
    exact ⟨by simp [here], group⟩
  exact List.mem_of_getElem? paired

/-- With groups in use every import has one, whatever the patterns accept: no plan fails for want
of a group, and the bucket of each import is there. -/
theorem every_import_has_group {o : ImportPathsOptions} {r : ImportOrder}
    (accepted : ImportOrder.ofOptions o = .ok r) (grouped : r.usesGroups = true) :
    r.matchBy ImportGroup.labelAccepts = r ∧
    ∀ accepts : Text → Text → Bool,
      (∀ imports, ∀ entry ∈ imports,
        ∃ n < ((r.matchBy accepts).neededGroups imports).length,
          (r.matchBy accepts).groupOf? ((r.matchBy accepts).neededGroups imports) entry = some n) ∧
      (∀ file path, planOf (r.matchBy accepts) file ≠ .error (.ungroupedImport path)) ∧
      ∀ file p, planOf (r.matchBy accepts) file = .ok p →
        ∃ g, p.grouping = some g ∧
          g.labels = ((r.matchBy accepts).neededGroups p.imports).map (·.label) ∧
          (p.buckets (r.matchBy accepts) g).length = g.labels.length ∧
          ∀ i entry, p.imports[i]? = some entry → ∃ n bucket, g.correct[i]? = some n ∧
            (r.matchBy accepts).groupOf? ((r.matchBy accepts).neededGroups p.imports) entry =
              some n ∧
            (p.buckets (r.matchBy accepts) g)[n]? = some bucket ∧ (entry, i) ∈ bucket := by
  refine ⟨ImportOrder.ofOptions_matchBy accepted, ?_⟩
  intro accepts
  have groups := ImportOrder.matchBy_groups accepted grouped accepts
  have used : (r.matchBy accepts).usesGroups = true := grouped
  refine ⟨?_, ?_, ?_⟩
  · intro imports entry member
    obtain ⟨n, found⟩ := Option.isSome_iff_exists.mp (ImportOrder.groupOf?_isSome groups member)
    exact ⟨n, groupOf?_lt found, found⟩
  · intro file path failed
    have grouping : ∀ imports, ∃ g, groupingOf (r.matchBy accepts) imports = .ok g := by
      intro imports
      obtain ⟨g, made⟩ := exists_groupingOf groups used imports
      exact ⟨some g, made⟩
    rcases planOf_error grouping failed with root | ⟨tag, place⟩
    · cases root
    · cases place
  · intro file p planned
    obtain ⟨-, -, -, -, -, -, made⟩ := planOf_ok planned
    obtain ⟨g, grouping⟩ := exists_groupingOf groups used p.imports
    have same : p.grouping = some g := Except.ok.inj (made.symm.trans grouping)
    refine ⟨g, same, groupingOf_labels grouping, by simp [Plan.buckets], ?_⟩
    intro i entry here
    have correct := congrArg (·[i]?) (groupingOf_correct grouping)
    simp only [List.getElem?_map, here, Option.map_some] at correct
    obtain ⟨n, group, own⟩ := Option.map_eq_some_iff.mp correct.symm
    have bound := (groupingOf_ok grouping).2 n (List.mem_of_getElem? group)
    obtain ⟨bucket, found, inside⟩ :=
      @Plan.mem_bucket p (r.matchBy accepts) g i n entry here group bound
    exact ⟨n, bucket, group, own.symm, found, inside⟩

def repeatedGroups : ImportPathsOptions :=
  { sideEffectsFirst := true
    groups := [['^', 'a'], ImportGroup.theRestLabel, ['^', 'a'], ImportGroup.sideEffectsLabel] }

def threeGroups : List ImportEntry :=
  [⟨0, ⟨0, 18⟩, ['c'], .value, false⟩, ⟨1, ⟨19, 31⟩, ['a', 'z'], .value, true⟩,
    ⟨2, ⟨32, 51⟩, ['a', 'b'], .value, false⟩]

theorem every_import_has_group_repeated :
    ∃ r, ImportOrder.ofOptions repeatedGroups = .ok r ∧ r.usesGroups = true ∧
      (∀ entry ∈ threeGroups, ∃ n < (r.neededGroups threeGroups).length,
        r.groupOf? (r.neededGroups threeGroups) entry = some n) ∧
      threeGroups.map (r.groupOf? (r.neededGroups threeGroups)) = [some 2, some 0, some 1] ∧
      ∀ file path, planOf r file ≠ .error (.ungroupedImport path) := by
  obtain ⟨same, every⟩ := every_import_has_group (o := repeatedGroups) rfl rfl
  obtain ⟨groups, plans, -⟩ := every ImportGroup.labelAccepts
  rw [same] at groups plans
  exact ⟨_, rfl, rfl, groups threeGroups, by cbv, plans⟩

end ImportPaths

end ScriptLint
