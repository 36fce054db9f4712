import Mathlib
import ScriptLint.Lint.Settings

/-!
Levels of lints and the order in which they are set.

The levels of a configuration come as a map, whose entries have no order of their own. A lint has
two names, so two entries can set the level of one lint, and then the later one counts. That is the
only way in which the order shows.
-/
namespace ScriptLint

namespace Lint

theorem dashedName_ne_name (lint other : Lint) : lint.dashedName ≠ other.name := by
  cases lint <;> cases other <;> decide

theorem name_injective : Function.Injective name := by
  intro lint other same
  cases lint <;> cases other <;> first | rfl | exact absurd same (by decide)

theorem canonical_dashedName (lint : Lint) : canonical lint.dashedName = lint.name := by
  cases lint <;> decide

theorem canonical_of_ne {text : String} (other : ∀ lint : Lint, text ≠ lint.dashedName) :
    canonical text = text := by
  have none : all.find? (·.dashedName == text) = none := by
    rw [List.find?_eq_none]
    intro lint _
    simpa using (other lint).symm
  rw [canonical, none]

theorem canonical_name (lint : Lint) : canonical lint.name = lint.name :=
  canonical_of_ne fun other => (dashedName_ne_name other lint).symm

theorem canonical_eq_iff {a b : String} :
    canonical a = canonical b ↔ a = b ∨ ∃ lint : Lint,
      (a = lint.name ∧ b = lint.dashedName) ∨ (a = lint.dashedName ∧ b = lint.name) := by
  constructor
  · intro same
    by_cases dashed : ∃ lint : Lint, a = lint.dashedName
    · obtain ⟨lint, rfl⟩ := dashed
      rw [canonical_dashedName] at same
      by_cases both : ∃ other : Lint, b = other.dashedName
      · obtain ⟨other, rfl⟩ := both
        rw [canonical_dashedName] at same
        rw [name_injective same]
        exact .inl rfl
      · rw [canonical_of_ne (not_exists.mp both)] at same
        exact .inr ⟨lint, .inr ⟨rfl, same.symm⟩⟩
    · rw [canonical_of_ne (not_exists.mp dashed)] at same
      by_cases both : ∃ other : Lint, b = other.dashedName
      · obtain ⟨other, rfl⟩ := both
        rw [canonical_dashedName] at same
        exact .inr ⟨other, .inl ⟨same, rfl⟩⟩
      · rw [canonical_of_ne (not_exists.mp both)] at same
        exact .inl same
  · rintro (rfl | ⟨lint, ⟨rfl, rfl⟩ | ⟨rfl, rfl⟩⟩)
    · rfl
    · rw [canonical_name, canonical_dashedName]
    · rw [canonical_name, canonical_dashedName]

theorem name_mem_canonical {lint : Lint} {names : List String} :
    lint.name ∈ names.map canonical ↔ lint.name ∈ names ∨ lint.dashedName ∈ names := by
  constructor
  · intro member
    obtain ⟨text, member, same⟩ := List.mem_map.mp member
    rw [← canonical_name] at same
    obtain rfl | ⟨other, ⟨-, dashed⟩ | ⟨rfl, plain⟩⟩ := canonical_eq_iff.mp same
    · exact .inl member
    · exact absurd dashed.symm (dashedName_ne_name other lint)
    · rw [name_injective plain]
      exact .inr member
  · rintro (member | member)
    · exact List.mem_map.mpr ⟨lint.name, member, canonical_name lint⟩
    · exact List.mem_map.mpr ⟨lint.dashedName, member, canonical_dashedName lint⟩

end Lint

namespace Settings

theorem levelOf_put (s : Settings) (name : String) (level : Level) (other : String) :
    (s.put name level).levelOf other =
      if Lint.canonical name = Lint.canonical other then level else s.levelOf other := by
  rw [levelOf, put, List.find?_cons]
  split
  · rename_i same
    rw [if_pos (by simpa using same)]
    rfl
  · rename_i differ
    have apart : Lint.canonical name ≠ Lint.canonical other := by simpa using differ
    rw [if_neg apart, levelOf, List.find?_filter]
    congr 3
    funext entry
    by_cases found : entry.1 = Lint.canonical other
    · simp [found, apart.symm]
    · simp [found]

theorem levelOf_disable (s : Settings) (names : List String) (name : String) :
    (s.disable names).levelOf name =
      if Lint.canonical name ∈ names.map Lint.canonical then .allow else s.levelOf name := by
  induction names generalizing s with
  | nil => simp [disable]
  | cons other names ih =>
    rw [disable, List.foldl_cons, ← disable, ih, levelOf_put]
    by_cases here : Lint.canonical other = Lint.canonical name
    · simp [here]
    · simp [here, Ne.symm here]

theorem withLevels_concat (s : Settings) (entries : List (String × Level)) (e : String × Level) :
    s.withLevels (entries ++ [e]) = (s.withLevels entries).put e.1 e.2 := by
  rw [withLevels, List.foldl_append]
  rfl

section Entries

variable (s : Settings) {entries : List (String × Level)} {name : String}

theorem levelOf_withLevels_of_none
    (none : ∀ e ∈ entries, Lint.canonical e.1 ≠ Lint.canonical name) :
    (s.withLevels entries).levelOf name = s.levelOf name := by
  induction entries using List.reverseRecOn with
  | nil => rfl
  | append_singleton entries e ih =>
    obtain ⟨others, last⟩ := List.forall_mem_append.mp none
    rw [withLevels_concat, levelOf_put, if_neg (last e List.mem_cons_self), ih others]

theorem levelOf_withLevels_of_agree {level : Level}
    (agree : ∀ e ∈ entries, Lint.canonical e.1 = Lint.canonical name → e.2 = level)
    (some : ∃ e ∈ entries, Lint.canonical e.1 = Lint.canonical name) :
    (s.withLevels entries).levelOf name = level := by
  induction entries using List.reverseRecOn with
  | nil =>
    obtain ⟨e, member, -⟩ := some
    cases member
  | append_singleton entries e ih =>
    obtain ⟨others, last⟩ := List.forall_mem_append.mp agree
    rw [withLevels_concat, levelOf_put]
    split
    · rename_i own
      exact last e List.mem_cons_self own
    · rename_i other
      obtain ⟨g, member, own⟩ := some
      refine ih others ⟨g, (List.mem_append.mp member).resolve_right fun same => ?_, own⟩
      rw [List.mem_singleton.mp same] at own
      exact other own

theorem levelOf_withLevels_perm {order : List (String × Level)} (perm : order.Perm entries)
    (agree : ∀ e ∈ entries, ∀ g ∈ entries, Lint.canonical e.1 = Lint.canonical name →
      Lint.canonical g.1 = Lint.canonical name → e.2 = g.2) :
    (s.withLevels order).levelOf name = (s.withLevels entries).levelOf name := by
  by_cases some : ∃ g ∈ entries, Lint.canonical g.1 = Lint.canonical name
  · obtain ⟨g, member, own⟩ := some
    have level : ∀ e ∈ entries, Lint.canonical e.1 = Lint.canonical name → e.2 = g.2 :=
      fun e entry same => agree e entry g member same own
    rw [levelOf_withLevels_of_agree s level ⟨g, member, own⟩]
    exact levelOf_withLevels_of_agree s (fun e entry => level e (perm.mem_iff.mp entry))
      ⟨g, perm.mem_iff.mpr member, own⟩
  · have none : ∀ e ∈ entries, Lint.canonical e.1 ≠ Lint.canonical name :=
      fun e entry same => some ⟨e, entry, same⟩
    rw [levelOf_withLevels_of_none s none]
    exact levelOf_withLevels_of_none s fun e entry => none e (perm.mem_iff.mp entry)

theorem exists_order_of_mem {e : String × Level} (member : e ∈ entries)
    (own : Lint.canonical e.1 = Lint.canonical name) :
    ∃ order : List (String × Level),
      order.Perm entries ∧ (s.withLevels order).levelOf name = e.2 := by
  refine ⟨entries.erase e ++ [e], ?_, ?_⟩
  · exact List.perm_append_singleton e _ |>.trans (List.perm_cons_erase member).symm
  · rw [withLevels_concat, levelOf_put, if_pos own]

end Entries

/-- No lint has one level under its plain name and another one under its dashed name, unless it is
disabled under one of them. -/
def NamesAgree (levels : List (String × Level)) (disabled : List String) : Prop :=
  ∀ (lint : Lint) (level level' : Level), (lint.name, level) ∈ levels →
    (lint.dashedName, level') ∈ levels → lint.name ∉ disabled → lint.dashedName ∉ disabled →
    level = level'

theorem NamesAgree.level_eq {levels : List (String × Level)} {disabled : List String}
    (agree : NamesAgree levels disabled) (once : (levels.map Prod.fst).Nodup)
    {e g : String × Level} (entry : e ∈ levels) (entry' : g ∈ levels)
    (same : Lint.canonical e.1 = Lint.canonical g.1)
    (enabled : Lint.canonical e.1 ∉ disabled.map Lint.canonical) : e.2 = g.2 := by
  obtain ⟨text, level⟩ := e
  obtain ⟨text', level'⟩ := g
  obtain equal | ⟨lint, ⟨rfl, rfl⟩ | ⟨rfl, rfl⟩⟩ := Lint.canonical_eq_iff.mp same
  · rw [List.inj_on_of_nodup_map once entry entry' equal]
  · rw [Lint.canonical_name, Lint.name_mem_canonical, not_or] at enabled
    exact agree lint level level' entry entry' enabled.1 enabled.2
  · rw [Lint.canonical_dashedName, Lint.name_mem_canonical, not_or] at enabled
    exact (agree lint level' level entry' entry enabled.1 enabled.2).symm

/-- The levels are the same for every order of the entries if and only if the two names of each
lint agree. -/
theorem levels_free_of_order_iff (s : Settings) (levels : List (String × Level))
    (once : (levels.map Prod.fst).Nodup) (disabled : List String) :
    (∀ order order' : List (String × Level), order.Perm levels → order'.Perm levels → ∀ name,
        ((s.withLevels order).disable disabled).levelOf name =
          ((s.withLevels order').disable disabled).levelOf name) ↔
      NamesAgree levels disabled := by
  constructor
  · intro free lint level level' plain dashed on on'
    have enabled : Lint.canonical lint.name ∉ disabled.map Lint.canonical := by
      rw [Lint.canonical_name, Lint.name_mem_canonical]
      exact not_or.mpr ⟨on, on'⟩
    have own : Lint.canonical lint.dashedName = Lint.canonical lint.name := by
      rw [Lint.canonical_dashedName, Lint.canonical_name]
    -- one order ends with the entry of the plain name, the other one with that of the dashed name
    obtain ⟨order, perm, last⟩ := s.exists_order_of_mem plain rfl
    obtain ⟨order', perm', last'⟩ := s.exists_order_of_mem dashed own
    have same := free order order' perm perm' lint.name
    rwa [levelOf_disable, levelOf_disable, if_neg enabled, if_neg enabled, last, last'] at same
  · intro agree order order' perm perm' name
    rw [levelOf_disable, levelOf_disable]
    split
    · rfl
    · rename_i enabled
      have one : ∀ e ∈ levels, ∀ g ∈ levels, Lint.canonical e.1 = Lint.canonical name →
          Lint.canonical g.1 = Lint.canonical name → e.2 = g.2 := by
        intro e entry g entry' own own'
        exact agree.level_eq once entry entry' (own.trans own'.symm) (own ▸ enabled)
      rw [s.levelOf_withLevels_perm perm one, s.levelOf_withLevels_perm perm' one]

theorem levels_free_of_order_disabled :
    let levels := [("strict-camel-case", Level.allow), ("strict_camel_case", Level.error)]
    (levels.map Prod.fst).Nodup ∧
      ∀ order order' : List (String × Level), order.Perm levels → order'.Perm levels → ∀ name,
        ((({} : Settings).withLevels order).disable ["strict-camel-case"]).levelOf name =
          ((({} : Settings).withLevels order').disable ["strict-camel-case"]).levelOf name := by
  intro levels
  have once : (levels.map Prod.fst).Nodup := by decide
  refine ⟨once, (levels_free_of_order_iff {} levels once ["strict-camel-case"]).mpr ?_⟩
  intro lint level level' plain dashed on on'
  cases lint <;> simp_all [levels, Lint.name, Lint.dashedName]

/-- Both spellings of one lint with two levels: the one that comes last counts. -/
theorem later_spelling_counts :
    let levels := [("strict-camel-case", Level.allow), ("strict_camel_case", Level.error)]
    (levels.map Prod.fst).Nodup ∧ levels.reverse.Perm levels ∧
      (({} : Settings).withLevels levels).levelOf "strict_camel_case" = .error ∧
      (({} : Settings).withLevels levels.reverse).levelOf "strict_camel_case" = .allow := by
  decide

end Settings

end ScriptLint
