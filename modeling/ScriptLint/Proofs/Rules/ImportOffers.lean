import Mathlib
import ScriptLint.Proofs.Fix
import ScriptLint.Proofs.Lint.Shares
import ScriptLint.Proofs.Reordering.Runs
import ScriptLint.Proofs.Rules.GroupLayout
import ScriptLint.Proofs.Rules.OrderLayout

/-!
The edits that one walk offers for the imports.

A walk offers to regroup the imports once and to sort each run once, and it does not offer both.
What keeps the second offer back is the state: an offer that was made is spent, and no step takes
that back. Runs are stretches of imports, so edits of different runs do not overlap.
-/
namespace ScriptLint

def Tree.importSpans (t : Tree) : List Span :=
  ((t.children t.root).filter (t.tag · = .importDeclaration)).filterMap t.span?

namespace ImportPaths

theorem statement_other {t : Tree} {id : NodeId} {span : Span}
    (made : statement t id = .ok (.inr span)) : t.tag id ≠ .importDeclaration := by
  simp only [statement] at made
  split at made
  · cases made
  · split at made
    · cases made
    · rename_i other
      intro same
      unfold Tree.tag at same
      cases kind : t.kind id with
      | importDeclaration specifiers source form => exact other _ _ _ kind
      | _ =>
        rw [kind] at same
        cases same

theorem lefts_spans {t : Tree} {ids : List NodeId} {xs : List (ImportEntry ⊕ Span)}
    (made : ids.map (statement t) = xs.map .ok) :
    (xs.filterMap Sum.getLeft?).map (·.span) =
      (ids.filter (t.tag · = .importDeclaration)).filterMap t.span? := by
  induction xs generalizing ids with
  | nil =>
    obtain rfl := List.map_eq_nil_iff.mp made
    rfl
  | cons x xs ih =>
    cases ids with
    | nil => cases made
    | cons id ids =>
      rw [List.map_cons, List.map_cons, List.cons.injEq] at made
      cases x with
      | inl entry =>
        have tag := (statement_import made.1).2
        rw [List.filter_cons_of_pos (by simpa using tag),
          List.filterMap_cons_some (statement_span made.1), ← ih made.2]
        rfl
      | inr span =>
        have tag := statement_other made.1
        rw [List.filter_cons_of_neg (by simpa using tag), ← ih made.2]
        rfl

theorem planOf_spans {r : ImportOrder} {file : SourceFile} {p : Plan}
    (planned : planOf r file = .ok p) : p.imports.map (·.span) = file.tree.importSpans := by
  obtain ⟨statements, -, placed, imports, -⟩ := planOf_ok planned
  rw [imports]
  exact lefts_spans (map_eq_of_mapM placed)

/-- What an edit of the imports does: it regroups them all, or it sorts a run; `none` stands for the
single run of all imports. -/
inductive Offer where
  | regroup
  | sort (run : Option Nat)
  deriving DecidableEq, Repr

namespace Plan

def sortedTogether (p : Plan) (r : ImportOrder) : List (List Nat) :=
  if r.allowSeparateGroups then p.runs else [List.range p.imports.length]

def spansOf (p : Plan) (members : List Nat) : List Span := (p.entries members).map (·.1.span)

def runKey (p : Plan) (r : ImportOrder) (i : Nat) : Option Nat :=
  if r.allowSeparateGroups then some (p.runOf i) else none

def membersOf (p : Plan) : Option Nat → List Nat
  | some n => (p.runs[n]?).getD []
  | none => List.range p.imports.length

theorem misplaced_of_wrong {p : Plan} {g : Grouping} {i : Nat} (grouped : p.grouping = some g)
    (bound : i < g.correct.length) (wrong : (g.correct[i]?).getD 0 ≠ p.runOf i) :
    p.misplaced = true := by
  rw [List.getElem?_eq_getElem bound] at wrong
  unfold misplaced
  rw [grouped]
  refine List.any_eq_true.mpr ⟨(g.correct[i], i), ?_, ?_⟩
  · exact List.mem_zipIdx_iff_getElem?.mpr (List.getElem?_eq_getElem bound)
  · simpa using wrong

end Plan

def Offers (r : ImportOrder) (file : SourceFile) (p : Plan) :
    Offer → Span → String → Edit → Prop
  | .regroup, _, message, e =>
    message = "wrongGroup" ∧ p.misplaced = true ∧ p.regroupEdit? r file = some e
  | .sort run, span, message, e =>
    message ≠ "wrongGroup" ∧ p.misplaced = false ∧
      (∃ (i : Nat) (entry : ImportEntry), p.imports[i]? = some entry ∧ span = entry.span ∧
        run = p.runKey r i) ∧
      p.orderEdit? r file (p.membersOf run) = some e

section Kinds

variable {r : ImportOrder} {file : SourceFile} {p : Plan} {k : Offer} {span : Span}
  {message : String} {e : Edit}

theorem Offers.regroups (offer : Offers r file p k span message e)
    (group : message = "wrongGroup") :
    k = .regroup ∧ p.misplaced = true ∧ p.regroupEdit? r file = some e := by
  cases k with
  | regroup => exact ⟨rfl, offer.2⟩
  | sort run => exact absurd group offer.1

theorem Offers.sorts (offer : Offers r file p k span message e) (order : message ≠ "wrongGroup") :
    p.misplaced = false ∧ ∃ (i : Nat) (entry : ImportEntry), p.imports[i]? = some entry ∧
      span = entry.span ∧ k = .sort (p.runKey r i) ∧
      p.orderEdit? r file (p.membersOf (p.runKey r i)) = some e := by
  cases k with
  | regroup => exact absurd offer.1 order
  | sort run =>
    obtain ⟨-, placed, ⟨i, entry, here, same, rfl⟩, edit⟩ := offer
    exact ⟨placed, i, entry, here, same, rfl, edit⟩

end Kinds

def State.Spent (s : State) : Offer → Prop
  | .regroup => s.regroupOffered = true
  | .sort run => run ∈ s.sortedRuns

section Steps

variable (r : ImportOrder) (file : SourceFile) (p : Plan) (s : State) (i : Nat)
  (entry : ImportEntry)

theorem checkGroup_cases (offered : Bool) :
    checkGroup r file p offered i entry = ([], offered) ∨
      ∃ g data help, p.grouping = some g ∧ (g.correct[i]?).getD 0 ≠ p.runOf i ∧
        checkGroup r file p offered i entry =
          ([report entry.span "wrongGroup" data help
            (if offered then none else p.regroupEdit? r file)], true) := by
  unfold checkGroup
  cases grouped : p.grouping with
  | none => exact Or.inl rfl
  | some g =>
    dsimp only
    by_cases right : (g.correct[i]?).getD 0 = p.runOf i
    · rw [if_pos right]
      exact Or.inl rfl
    · rw [if_neg right]
      exact Or.inr ⟨g, _, _, rfl, right, rfl⟩

theorem checkOrder_cases :
    checkOrder r file p s i entry = ([], s.sortedRuns) ∨
      ∃ message data help, message ≠ "wrongGroup" ∧ checkOrder r file p s i entry =
        ([report entry.span message data help
          (if p.misplaced || s.sortedRuns.contains (p.runKey r i) then none
            else p.orderEdit? r file (p.membersOf (p.runKey r i)))],
          if p.misplaced || s.sortedRuns.contains (p.runKey r i) then s.sortedRuns
            else p.runKey r i :: s.sortedRuns) := by
  have message : ∀ f ∈ (checkOrder r file p s i entry).1, f.messageId ≠ "wrongGroup" :=
    fun f member => (checkOrder_message member).2
  unfold checkOrder at message ⊢
  cases compared : (neighbour? r p s.previous i).bind fun j => p.imports[j]? with
  | none => exact Or.inl rfl
  | some previous =>
    rw [compared] at message
    dsimp only at message ⊢
    by_cases sorted : (!r.isAfter previous entry) = true
    · rw [if_pos sorted]
      exact Or.inl rfl
    · rw [if_neg sorted] at message ⊢
      have other : (orderMessage r file previous entry).1 ≠ "wrongGroup" :=
        message _ List.mem_cons_self
      exact Or.inr ⟨_, _, _, other, rfl⟩

variable {r file p s i entry} {f : Finding} {x : Suggestion}

theorem checkGroup_offers {offered : Bool}
    (aligned : ∀ g, p.grouping = some g → i < g.correct.length)
    (member : f ∈ (checkGroup r file p offered i entry).1) (suggested : f.suggestion = some x) :
    Offers r file p .regroup f.span f.messageId x.edit ∧ offered = false ∧
      (checkGroup r file p offered i entry).2 = true := by
  rcases checkGroup_cases r file p i entry offered with
    quiet | ⟨g, data, help, grouped, wrong, made⟩
  · rw [quiet] at member
    cases member
  · rw [made] at member ⊢
    obtain rfl := List.mem_singleton.mp member
    obtain ⟨e, found, rfl⟩ := Option.map_eq_some_iff.mp suggested
    obtain ⟨first, edit⟩ := Option.ite_none_left_eq_some.mp found
    have misplaced := Plan.misplaced_of_wrong grouped (aligned g grouped) wrong
    exact ⟨⟨rfl, misplaced, edit⟩, by simpa using first, rfl⟩

theorem checkOrder_offers (here : p.imports[i]? = some entry)
    (member : f ∈ (checkOrder r file p s i entry).1) (suggested : f.suggestion = some x) :
    Offers r file p (.sort (p.runKey r i)) f.span f.messageId x.edit ∧
      p.runKey r i ∉ s.sortedRuns ∧ p.runKey r i ∈ (checkOrder r file p s i entry).2 := by
  rcases checkOrder_cases r file p s i entry with quiet | ⟨message, data, help, other, made⟩
  · rw [quiet] at member
    cases member
  · rw [made] at member ⊢
    obtain rfl := List.mem_singleton.mp member
    obtain ⟨e, found, rfl⟩ := Option.map_eq_some_iff.mp suggested
    obtain ⟨free, edit⟩ := Option.ite_none_left_eq_some.mp found
    simp only [if_neg free]
    obtain ⟨placed, fresh⟩ : p.misplaced = false ∧ p.runKey r i ∉ s.sortedRuns := by
      simpa using free
    exact ⟨⟨other, placed, ⟨i, entry, here, rfl, rfl⟩, edit⟩, fresh, List.mem_cons_self⟩

theorem checkGroup_keeps {offered : Bool} (spent : offered = true) :
    (checkGroup r file p offered i entry).2 = true := by
  rcases checkGroup_cases r file p i entry offered with quiet | ⟨g, data, help, -, -, made⟩
  · rw [quiet]
    exact spent
  · rw [made]

theorem checkOrder_keeps : s.sortedRuns ⊆ (checkOrder r file p s i entry).2 := by
  rcases checkOrder_cases r file p s i entry with quiet | ⟨message, data, help, -, made⟩
  · rw [quiet]
    exact List.Subset.refl _
  · rw [made]
    dsimp only
    split
    · exact List.Subset.refl _
    · exact List.subset_cons_self _ _

theorem checks_offer_once {offered : Bool}
    (aligned : ∀ g, p.grouping = some g → i < g.correct.length)
    (here : p.imports[i]? = some entry) :
    ((checkGroup r file p offered i entry).1 ++ (checkOrder r file p s i entry).1).Pairwise
      fun f f' => f.suggestion = none ∨ f'.suggestion = none := by
  have single : ∀ fs : List Finding, fs.length ≤ 1 →
      fs.Pairwise fun f f' => f.suggestion = none ∨ f'.suggestion = none := by
    intro fs short
    match fs, short with
    | [], _ => exact List.Pairwise.nil
    | [f], _ => exact List.pairwise_singleton _ _
  have group : (checkGroup r file p offered i entry).1.length ≤ 1 := by
    rcases checkGroup_cases r file p i entry offered with quiet | ⟨g, data, help, -, -, made⟩
    · rw [quiet]
      exact Nat.zero_le 1
    · rw [made]
      exact le_rfl
  have order : (checkOrder r file p s i entry).1.length ≤ 1 := by
    rcases checkOrder_cases r file p s i entry with quiet | ⟨message, data, help, -, made⟩
    · rw [quiet]
      exact Nat.zero_le 1
    · rw [made]
      exact le_rfl
  refine List.pairwise_append.mpr ⟨single _ group, single _ order, fun f first f' second => ?_⟩
  cases regroups : f.suggestion with
  | none => exact Or.inl rfl
  | some x =>
    cases sorts : f'.suggestion with
    | none => exact Or.inr rfl
    | some y =>
      -- One edit needs a misplaced import and the other one none.
      obtain ⟨⟨-, misplaced, -⟩, -⟩ := checkGroup_offers aligned first regroups
      obtain ⟨⟨-, placed, -⟩, -⟩ := checkOrder_offers here second sorts
      rw [misplaced] at placed
      cases placed

end Steps

section Visits

variable {r : ImportOrder} {file : SourceFile} {p : Plan} {s : State} {id : NodeId}

/-- A step with a plan. Of its findings at most one has an edit; the edit makes an offer that was
not spent before and is spent now, and no other offer comes back. -/
theorem visit_offers (r : ImportOrder) (file : SourceFile) (id : NodeId)
    (aligned : ∀ g, p.grouping = some g → g.correct.length = p.imports.length)
    (planned : s.plan = .ok p) :
    ∃ s', (visit r file s id).outcome = .ok s' ∧ s'.plan = .ok p ∧
      (∀ k, s.Spent k → s'.Spent k) ∧
      (visit r file s id).findings.Pairwise
        (fun f f' => f.suggestion = none ∨ f'.suggestion = none) ∧
      ∀ f ∈ (visit r file s id).findings, ∀ x, f.suggestion = some x →
        ∃ k, Offers r file p k f.span f.messageId x.edit ∧ ¬ s.Spent k ∧ s'.Spent k := by
  unfold visit
  simp only [planned]
  cases found : p.imports.zipIdx.find? (·.1.node == id) with
  | none => exact ⟨s, rfl, planned, fun _ spent => spent, List.Pairwise.nil, by simp [Step.quiet]⟩
  | some x =>
    obtain ⟨entry, i⟩ := x
    have here : p.imports[i]? = some entry :=
      List.mem_zipIdx_iff_getElem?.mp (List.mem_of_find?_eq_some found)
    have inside : ∀ g, p.grouping = some g → i < g.correct.length := by
      intro g grouped
      rw [aligned g grouped]
      exact (List.getElem?_eq_some_iff.mp here).1
    refine ⟨_, rfl, rfl, ?_, checks_offer_once inside here, ?_⟩
    · intro k spent
      cases k with
      | regroup => exact checkGroup_keeps spent
      | sort run => exact checkOrder_keeps spent
    · intro f member x suggested
      rcases List.mem_append.mp member with group | order
      · obtain ⟨offer, before, after⟩ := checkGroup_offers inside group suggested
        exact ⟨.regroup, offer, by simp [State.Spent, before], after⟩
      · obtain ⟨offer, before, after⟩ := checkOrder_offers here order suggested
        exact ⟨.sort (p.runKey r i), offer, before, after⟩

end Visits

def Apart (r : ImportOrder) (file : SourceFile) (p : Plan) (d d' : Diagnostic) : Prop :=
  ∀ x x', d.suggestion = some x → d'.suggestion = some x' →
    ∃ k k', k ≠ k' ∧ Offers r file p k d.span d.messageId x.edit ∧
      Offers r file p k' d'.span d'.messageId x'.edit

section Walks

variable {r : ImportOrder} {file : SourceFile} {p : Plan} {s : State} {settings : Settings}

theorem apart_symm {d d' : Diagnostic} (apart : Apart r file p d d') : Apart r file p d' d := by
  intro x' x suggested' suggested
  obtain ⟨k, k', other, first, second⟩ := apart x x' suggested suggested'
  exact ⟨k', k, other.symm, second, first⟩

theorem work_offers (aligned : ∀ g, p.grouping = some g → g.correct.length = p.imports.length)
    (planned : s.plan = .ok p) (nodes : List NodeId) :
    (Running.work settings file ⟨rule r, s⟩ nodes).1.Pairwise (Apart r file p) ∧
      ∀ d ∈ (Running.work settings file ⟨rule r, s⟩ nodes).1, ∀ x, d.suggestion = some x →
        ∃ k, Offers r file p k d.span d.messageId x.edit ∧ ¬ s.Spent k := by
  induction nodes generalizing s with
  | nil => exact ⟨List.Pairwise.nil, by simp [Running.work]⟩
  | cons id nodes ih =>
    obtain ⟨s', next, keeps, spends, once, offers⟩ := visit_offers r file id aligned planned
    have step : visit r file s id = ⟨(visit r file s id).findings, .ok s'⟩ := by rw [← next]
    have called := @Running.call_eq settings file (rule r) s s' id _ step
      fun f member => (visit_message planned member).1
    obtain ⟨apart, fresh⟩ := ih keeps
    have now : ∀ d ∈ (diagnoseAll settings file (visit r file s id).findings).1,
        ∀ x, d.suggestion = some x →
          ∃ k, Offers r file p k d.span d.messageId x.edit ∧ ¬ s.Spent k ∧ s'.Spent k := by
      intro d member x suggested
      obtain ⟨f, found, made⟩ := diagnoseAll_mem member
      rw [(diagnose_some made).span, (diagnose_some made).messageId]
      exact offers f found x ((diagnose_some made).suggestion.symm.trans suggested)
    rw [Running.work_cons, called]
    refine ⟨List.pairwise_append.mpr ⟨?_, apart, ?_⟩, ?_⟩
    · apply diagnoseAll_pairwise
      apply once.imp
      intro f f' none d d' made made' x x' suggested suggested'
      rw [(diagnose_some made).suggestion] at suggested
      rw [(diagnose_some made').suggestion] at suggested'
      rw [suggested, suggested'] at none
      simp at none
    · -- What a step offers is spent afterwards, so what is offered later is something else.
      intro d first d' later x x' suggested suggested'
      obtain ⟨k, offer, -, spent⟩ := now d first x suggested
      obtain ⟨k', offer', unspent⟩ := fresh d' later x' suggested'
      exact ⟨k, k', fun same => unspent (same ▸ spent), offer, offer'⟩
    · intro d member x suggested
      rcases List.mem_append.mp member with first | later
      · obtain ⟨k, offer, unspent, -⟩ := now d first x suggested
        exact ⟨k, offer, unspent⟩
      · obtain ⟨k, offer, unspent⟩ := fresh d later x suggested
        exact ⟨k, offer, fun spent => unspent (spends k spent)⟩

theorem call_unplanned {e : LintError} (failed : s.plan = .error e) (id : NodeId) :
    Running.call settings file ⟨rule r, s⟩ id = ([], .error e) := by
  have step : (rule r).visit file s id = .fail e := by
    show visit r file s id = .fail e
    unfold visit
    rw [failed]
  rw [Running.call, step]
  rfl

theorem work_unplanned {e : LintError} (failed : s.plan = .error e) (nodes : List NodeId) :
    (Running.work settings file ⟨rule r, s⟩ nodes).1 = [] := by
  cases nodes with
  | nil => rfl
  | cons id nodes => rw [Running.work_cons, call_unplanned failed]

end Walks

section Edits

variable {r : ImportOrder} {file : SourceFile} {p : Plan} {i j : Nat} {run members : List Nat}
  {entry : ImportEntry} {e e' : Edit}

namespace Plan

theorem of_mem_entries {x : ImportEntry × Nat} (member : x ∈ p.entries members) :
    x.2 ∈ members ∧ p.imports[x.2]? = some x.1 := by
  obtain ⟨i, listed, found⟩ := List.mem_filterMap.mp member
  obtain ⟨entry, here, rfl⟩ := Option.map_eq_some_iff.mp found
  exact ⟨listed, here⟩

theorem mem_spansOf (here : p.imports[i]? = some entry) (member : i ∈ members) :
    entry.span ∈ p.spansOf members := by
  refine List.mem_map.mpr ⟨(entry, i), List.mem_filterMap.mpr ⟨i, member, ?_⟩, rfl⟩
  rw [here]
  rfl

theorem of_mem_spansOf (separate : Separate (p.imports.map (·.span)))
    (here : p.imports[i]? = some entry) (member : entry.span ∈ p.spansOf members) :
    i ∈ members := by
  obtain ⟨x, listed, same⟩ := List.mem_map.mp member
  obtain ⟨inside, there⟩ := of_mem_entries listed
  have bound : x.2 < (p.imports.map (·.span)).length := by
    rw [List.length_map]
    exact (List.getElem?_eq_some_iff.mp there).1
  have equal : (p.imports.map (·.span))[x.2]? = (p.imports.map (·.span))[i]? := by
    rw [List.getElem?_map, List.getElem?_map, here, there]
    exact congrArg some same
  rwa [(List.getElem?_inj bound separate.nodup).mp equal] at inside

theorem orderEdit?_bounds (separate : Separate (p.imports.map (·.span)))
    (stretch : members <:+: List.range p.imports.length)
    (edit : p.orderEdit? r file members = some e) :
    ∃ i ∈ members, ∃ j ∈ members, ∃ a b, p.imports[i]? = some a ∧ p.imports[j]? = some b ∧
      e.span = ⟨a.span.start, b.span.stop⟩ ∧ a.span.start < b.span.stop := by
  obtain ⟨first, last, head, final, covers, -⟩ := editSpan?_some (orderEdit?_span edit)
  obtain ⟨opens, here⟩ := of_mem_entries (List.mem_of_head? head)
  obtain ⟨closes, there⟩ := of_mem_entries (List.mem_of_getLast? final)
  have inner := separate.sublist (consecutive_spans (entries_consecutive stretch)).sublist
  refine ⟨_, opens, _, closes, _, _, here, there, covers, ?_⟩
  exact inner.first_lt_last (by simp [head]) (by simp [final])

section Runs

variable (runs : p.runs = file.adjacentRuns (p.imports.map (·.span)))
include runs

theorem runs_nodup : p.runs.flatten.Nodup := by
  rw [runs_flatten runs]
  exact List.nodup_range

theorem run_of_import (here : p.imports[i]? = some entry) :
    ∃ run, p.runs[p.runOf i]? = some run ∧ i ∈ run := by
  have listed : i ∈ p.runs.flatten := by
    rw [runs_flatten runs, List.mem_range]
    exact (List.getElem?_eq_some_iff.mp here).1
  obtain ⟨run, member, inside⟩ := List.mem_flatten.mp listed
  obtain ⟨n, found⟩ := List.mem_iff_getElem?.mp member
  refine ⟨run, ?_, inside⟩
  unfold runOf
  rw [findIdx_of_mem (runs_nodup runs) found inside, found]

theorem membersOf_consecutive (key : Option Nat) :
    p.membersOf key <:+: List.range p.imports.length := by
  cases key with
  | none => exact List.infix_rfl
  | some n =>
    show (p.runs[n]?).getD [] <:+: List.range p.imports.length
    cases found : p.runs[n]? with
    | none => exact List.nil_infix
    | some run => exact runs_consecutive runs (List.mem_of_getElem? found)

theorem membersOf_runKey (r : ImportOrder) (here : p.imports[i]? = some entry) :
    p.membersOf (p.runKey r i) ∈ p.sortedTogether r ∧ i ∈ p.membersOf (p.runKey r i) := by
  unfold runKey sortedTogether
  cases r.allowSeparateGroups with
  | true =>
    obtain ⟨run, found, inside⟩ := run_of_import runs here
    simp only [↓reduceIte, membersOf, found, Option.getD_some]
    exact ⟨List.mem_of_getElem? found, inside⟩
  | false =>
    refine ⟨List.mem_singleton.mpr rfl, List.mem_range.mpr ?_⟩
    exact (List.getElem?_eq_some_iff.mp here).1

theorem runKey_eq (sorted : run ∈ p.sortedTogether r) (first : i ∈ run) (second : j ∈ run) :
    p.runKey r i = p.runKey r j := by
  unfold sortedTogether at sorted
  unfold runKey
  cases separate : r.allowSeparateGroups with
  | true =>
    rw [separate] at sorted
    obtain ⟨n, found⟩ := List.mem_iff_getElem?.mp sorted
    unfold runOf
    rw [findIdx_of_mem (runs_nodup runs) found first, findIdx_of_mem (runs_nodup runs) found second]
  | false => rfl

theorem runs_increase {m n : Nat} {run' : List Nat} (before : m < n)
    (first : p.runs[m]? = some run) (second : p.runs[n]? = some run') (member : i ∈ run)
    (member' : j ∈ run') : i < j := by
  obtain ⟨boundM, rfl⟩ := List.getElem?_eq_some_iff.mp first
  obtain ⟨boundN, rfl⟩ := List.getElem?_eq_some_iff.mp second
  have increasing : p.runs.flatten.Pairwise (· < ·) := by
    rw [runs_flatten runs]
    exact List.pairwise_lt_range
  have rows := (List.pairwise_flatten.mp increasing).2
  exact List.pairwise_iff_getElem.mp rows m n boundM boundN before i member j member'

omit runs in
theorem run_of_edit {n : Nat} (edit : p.orderEdit? r file (p.membersOf (some n)) = some e) :
    ∃ run, p.runs[n]? = some run ∧ p.orderEdit? r file run = some e := by
  simp only [membersOf] at edit
  cases found : p.runs[n]? with
  | none =>
    rw [found] at edit
    simp [orderEdit?, entries, editSpan?] at edit
  | some run =>
    rw [found] at edit
    exact ⟨run, rfl, edit⟩

theorem edits_increase (separate : Separate (p.imports.map (·.span))) {m n : Nat} (before : m < n)
    (first : p.orderEdit? r file (p.membersOf (some m)) = some e)
    (second : p.orderEdit? r file (p.membersOf (some n)) = some e') :
    e.span.start < e.span.stop ∧ e.span.stop ≤ e'.span.start := by
  obtain ⟨run, here, edit⟩ := run_of_edit first
  obtain ⟨run', there, edit'⟩ := run_of_edit second
  have stretch := runs_consecutive runs (List.mem_of_getElem? here)
  have stretch' := runs_consecutive runs (List.mem_of_getElem? there)
  obtain ⟨-, -, j, last, a, b, -, final, covers, filled⟩ := orderEdit?_bounds separate stretch edit
  obtain ⟨i, opens, -, -, c, d, head, -, covers', -⟩ := orderEdit?_bounds separate stretch' edit'
  have order := runs_increase runs before here there last opens
  rw [covers, covers']
  refine ⟨filled, ?_⟩
  obtain ⟨boundJ, rfl⟩ := List.getElem?_eq_some_iff.mp final
  obtain ⟨boundI, rfl⟩ := List.getElem?_eq_some_iff.mp head
  have apart := List.pairwise_iff_getElem.mp (List.pairwise_map.mp separate.apart)
  exact apart j i boundJ boundI order

end Runs

end Plan

/-- Edits of different offers do not overlap. -/
theorem offers_apart (planned : planOf r file = .ok p) (separate : Separate file.tree.importSpans)
    {k k' : Offer} {span span' : Span} {message message' : String} (other : k ≠ k')
    (offer : Offers r file p k span message e) (offer' : Offers r file p k' span' message' e') :
    e.overlaps e' = false := by
  obtain ⟨-, -, -, -, -, runs, -⟩ := planOf_ok planned
  rw [← planOf_spans planned] at separate
  cases k with
  | regroup =>
    cases k' with
    | regroup => exact absurd rfl other
    | sort run => exact absurd (offer.2.1.symm.trans offer'.2.1) (by decide)
  | sort run =>
    cases k' with
    | regroup => exact absurd (offer'.2.1.symm.trans offer.2.1) (by decide)
    | sort run' =>
      obtain ⟨-, -, ⟨i, entry, here, -, rfl⟩, edit⟩ := offer
      obtain ⟨-, -, ⟨j, entry', there, -, rfl⟩, edit'⟩ := offer'
      unfold Plan.runKey at other edit edit'
      cases separated : r.allowSeparateGroups with
      | false => simp [separated] at other
      | true =>
        simp only [separated, ↓reduceIte] at other edit edit'
        rcases Nat.lt_trichotomy (p.runOf i) (p.runOf j) with before | same | after
        · obtain ⟨filled, behind⟩ := Plan.edits_increase runs separate before edit edit'
          exact Edit.overlaps_behind filled behind
        · rw [same] at other
          exact absurd rfl other
        · rw [Edit.overlaps_comm]
          obtain ⟨filled, behind⟩ := Plan.edits_increase runs separate after edit' edit
          exact Edit.overlaps_behind filled behind

end Edits

def regroupOffers (ds : List Diagnostic) : List Diagnostic :=
  ds.filter fun d => d.messageId = "wrongGroup" ∧ d.suggestion.isSome

def sortOffers (ds : List Diagnostic) : List Diagnostic :=
  ds.filter fun d => d.messageId ≠ "wrongGroup" ∧ d.suggestion.isSome

section Reports

variable {r : ImportOrder} {file : SourceFile} {p : Plan} {ds : List Diagnostic} {d : Diagnostic}

theorem of_mem_regroupOffers (listed : d ∈ regroupOffers ds) :
    d ∈ ds ∧ d.messageId = "wrongGroup" ∧ ∃ x, d.suggestion = some x := by
  obtain ⟨member, kind⟩ := List.mem_filter.mp listed
  obtain ⟨group, offers⟩ := of_decide_eq_true kind
  exact ⟨member, group, Option.isSome_iff_exists.mp offers⟩

theorem of_mem_sortOffers (listed : d ∈ sortOffers ds) :
    d ∈ ds ∧ d.messageId ≠ "wrongGroup" ∧ ∃ x, d.suggestion = some x := by
  obtain ⟨member, kind⟩ := List.mem_filter.mp listed
  obtain ⟨order, offers⟩ := of_decide_eq_true kind
  exact ⟨member, order, Option.isSome_iff_exists.mp offers⟩

theorem length_le_one {α : Type} {xs : List α} {R : α → α → Prop} (related : xs.Pairwise R)
    (never : ∀ a ∈ xs, ∀ b ∈ xs, ¬ R a b) : xs.length ≤ 1 := by
  match xs with
  | [] => exact Nat.zero_le 1
  | [_] => exact le_rfl
  | a :: b :: xs =>
    have pair := (List.pairwise_cons.mp related).1 b List.mem_cons_self
    exact absurd pair (never a List.mem_cons_self b (by simp))

theorem regroupOffers_once (apart : ds.Pairwise (Apart r file p)) :
    (regroupOffers ds).length ≤ 1 := by
  refine length_le_one (apart.sublist List.filter_sublist) ?_
  intro d listed d' listed' distinct
  obtain ⟨-, group, x, suggested⟩ := of_mem_regroupOffers listed
  obtain ⟨-, group', x', suggested'⟩ := of_mem_regroupOffers listed'
  obtain ⟨k, k', other, offer, offer'⟩ := distinct x x' suggested suggested'
  exact other ((offer.regroups group).1.trans (offer'.regroups group').1.symm)

theorem sortOffers_once (planned : planOf r file = .ok p)
    (separate : Separate file.tree.importSpans)
    (apart : ds.Pairwise (Apart r file p)) {run : List Nat} (sorted : run ∈ p.sortedTogether r) :
    ((sortOffers ds).filter (·.span ∈ p.spansOf run)).length ≤ 1 := by
  obtain ⟨-, -, -, -, -, runs, -⟩ := planOf_ok planned
  rw [← planOf_spans planned] at separate
  refine length_le_one ((apart.sublist List.filter_sublist).sublist List.filter_sublist) ?_
  intro d listed d' listed' distinct
  obtain ⟨listed, inside⟩ := List.mem_filter.mp listed
  obtain ⟨listed', inside'⟩ := List.mem_filter.mp listed'
  obtain ⟨-, order, x, suggested⟩ := of_mem_sortOffers listed
  obtain ⟨-, order', x', suggested'⟩ := of_mem_sortOffers listed'
  obtain ⟨k, k', other, offer, offer'⟩ := distinct x x' suggested suggested'
  obtain ⟨-, i, entry, here, same, rfl, -⟩ := offer.sorts order
  obtain ⟨-, j, entry', there, same', rfl, -⟩ := offer'.sorts order'
  rw [decide_eq_true_eq, same] at inside
  rw [decide_eq_true_eq, same'] at inside'
  have first := Plan.of_mem_spansOf separate here inside
  have second := Plan.of_mem_spansOf separate there inside'
  exact other (congrArg Offer.sort (Plan.runKey_eq runs sorted first second))

theorem sortOffers_stand (planned : planOf r file = .ok p)
    (offered : ∀ d ∈ ds, ∀ x, d.suggestion = some x →
      ∃ k, Offers r file p k d.span d.messageId x.edit) (listed : d ∈ sortOffers ds) :
    p.misplaced = false ∧ ∃ run ∈ p.sortedTogether r, d.span ∈ p.spansOf run ∧
      d.suggestion.map (·.edit) = p.orderEdit? r file run := by
  obtain ⟨-, -, -, -, -, runs, -⟩ := planOf_ok planned
  obtain ⟨reported, order, x, suggested⟩ := of_mem_sortOffers listed
  obtain ⟨k, offer⟩ := offered d reported x suggested
  obtain ⟨placed, i, entry, here, same, -, edit⟩ := offer.sorts order
  obtain ⟨sorted, inside⟩ := Plan.membersOf_runKey runs r here
  refine ⟨placed, _, sorted, ?_, ?_⟩
  · rw [same]
    exact Plan.mem_spansOf here inside
  · rw [suggested, edit]
    rfl

theorem regroupOffers_regroup (offered : ∀ d ∈ ds, ∀ x, d.suggestion = some x →
      ∃ k, Offers r file p k d.span d.messageId x.edit) (listed : d ∈ regroupOffers ds) :
    p.misplaced = true ∧ d.suggestion.map (·.edit) = p.regroupEdit? r file := by
  obtain ⟨reported, group, x, suggested⟩ := of_mem_regroupOffers listed
  obtain ⟨k, offer⟩ := offered d reported x suggested
  obtain ⟨-, misplaced, edit⟩ := offer.regroups group
  constructor
  · exact misplaced
  · rw [suggested, edit]
    rfl

theorem sortOffers_joint (planned : planOf r file = .ok p)
    (separate : Separate file.tree.importSpans) (apart : ds.Pairwise (Apart r file p))
    (offered : ∀ d ∈ ds, ∀ x, d.suggestion = some x →
      ∃ k, Offers r file p k d.span d.messageId x.edit) (joint : r.allowSeparateGroups = false) :
    (sortOffers ds).length ≤ 1 := by
  have all : p.sortedTogether r = [List.range p.imports.length] := by
    unfold Plan.sortedTogether
    rw [joint]
    rfl
  have whole : (sortOffers ds).filter
      (·.span ∈ p.spansOf (List.range p.imports.length)) = sortOffers ds := by
    apply List.filter_eq_self.mpr
    intro d listed
    obtain ⟨-, run, sorted, inside, -⟩ := sortOffers_stand planned offered listed
    rw [all] at sorted
    rw [List.mem_singleton.mp sorted] at inside
    exact decide_eq_true inside
  rw [← whole]
  exact sortOffers_once planned separate apart (by simp [all])

theorem reports_perm {rules : List Rule} (builtIn : ∀ q ∈ rules, q.IsBuiltIn)
    (once : (rules.map (·.lint)).Nodup) (member : rule r ∈ rules) (settings : Settings)
    (file : SourceFile) :
    ∃ nodes, ((runRules rules settings file).1.filter (·.lint = .orderedImportsByPath)).Perm
      (Running.work settings file ⟨rule r, { plan := planOf r file }⟩ nodes).1 := by
  obtain ⟨nodes, -, reports⟩ :=
    runRules_share_perm member (fun q listed => (builtIn q listed).reportsOwn) once settings file
  exact ⟨nodes, reports⟩

theorem reports_offers {rules : List Rule} (builtIn : ∀ q ∈ rules, q.IsBuiltIn)
    (once : (rules.map (·.lint)).Nodup) (member : rule r ∈ rules) (settings : Settings)
    (planned : planOf r file = .ok p)
    (shown : (runRules rules settings file).1.filter (·.lint = .orderedImportsByPath) = ds) :
    ds.Pairwise (Apart r file p) ∧ ∀ d ∈ ds, ∀ x, d.suggestion = some x →
      ∃ k, Offers r file p k d.span d.messageId x.edit := by
  obtain ⟨nodes, work⟩ := reports_perm builtIn once member settings file
  have aligned : ∀ g, p.grouping = some g → g.correct.length = p.imports.length := by
    intro g same
    obtain ⟨-, -, -, -, -, -, grouped⟩ := planOf_ok planned
    rw [same] at grouped
    exact (groupingOf_ok grouped).1
  obtain ⟨distinct, offers⟩ :=
    @work_offers r file p { plan := planOf r file } settings aligned planned nodes
  rw [shown] at work
  constructor
  · exact (work.pairwise_iff fun related => apart_symm related).mpr distinct
  · intro d listed x suggested
    obtain ⟨k, offer, -⟩ := offers d (work.mem_iff.mp listed) x suggested
    exact ⟨k, offer⟩

end Reports

/-- In a run of any rules the imports get no report when they have no plan. Otherwise at most one
report offers to regroup them. If an import is misplaced, no report offers to sort. If none is, each
edit sorts the imports among which its report stands, at most one report offers that for the same
imports, and these are all imports when separate groups are not allowed. The edits of two reports do
not overlap. -/
theorem import_edits_apart {rules : List Rule} {r : ImportOrder}
    (builtIn : ∀ q ∈ rules, q.IsBuiltIn) (once : (rules.map (·.lint)).Nodup)
    (member : rule r ∈ rules) (settings : Settings) (file : SourceFile)
    (separate : Separate file.tree.importSpans) :
    let reports := (runRules rules settings file).1.filter (·.lint = .orderedImportsByPath)
    (∀ e, planOf r file = .error e → reports = []) ∧
    ∀ p, planOf r file = .ok p →
      (regroupOffers reports).length ≤ 1 ∧
      (∀ d ∈ regroupOffers reports, p.misplaced = true ∧
        d.suggestion.map (·.edit) = p.regroupEdit? r file) ∧
      (p.misplaced = true → sortOffers reports = []) ∧
      (∀ d ∈ sortOffers reports, ∃ run ∈ p.sortedTogether r, d.span ∈ p.spansOf run ∧
        d.suggestion.map (·.edit) = p.orderEdit? r file run) ∧
      (∀ run ∈ p.sortedTogether r,
        ((sortOffers reports).filter (·.span ∈ p.spansOf run)).length ≤ 1) ∧
      (r.allowSeparateGroups = false → (sortOffers reports).length ≤ 1) ∧
      (reports.filterMap (·.suggestion)).Pairwise fun x y => x.edit.overlaps y.edit = false := by
  intro reports
  constructor
  · intro e failed
    obtain ⟨nodes, work⟩ := reports_perm builtIn once member settings file
    rw [work_unplanned (by exact failed)] at work
    exact work.eq_nil
  · intro p planned
    obtain ⟨apart, offered⟩ := reports_offers builtIn once member settings planned rfl
    have standing := fun d (listed : d ∈ sortOffers reports) =>
      sortOffers_stand planned offered listed
    refine ⟨regroupOffers_once apart, fun d listed => regroupOffers_regroup offered listed, ?_,
      fun d listed => (standing d listed).2,
      fun run sorted => sortOffers_once planned separate apart sorted,
      sortOffers_joint planned separate apart offered, ?_⟩
    · intro misplaced
      apply List.eq_nil_iff_forall_not_mem.mpr
      intro d listed
      exact absurd (misplaced.symm.trans (standing d listed).1) (by decide)
    · apply List.pairwise_filterMap.mpr
      apply apart.imp
      intro d d' distinct x suggested x' suggested'
      obtain ⟨k, k', other, offer, offer'⟩ := distinct x x' suggested suggested'
      exact offers_apart planned separate other offer offer'

def unsortedRuns : SourceFile :=
  .ofParts "import 'b';\nimport 'a';\n\nimport 'd';\nimport 'c';".toList
    { nodes := #[⟨.importDeclaration [] ['b'] .value, some ⟨0, 11⟩⟩,
        ⟨.importDeclaration [] ['a'] .value, some ⟨12, 23⟩⟩,
        ⟨.importDeclaration [] ['d'] .value, some ⟨25, 36⟩⟩,
        ⟨.importDeclaration [] ['c'] .value, some ⟨37, 48⟩⟩,
        ⟨.program [0, 1, 2, 3], some ⟨0, 48⟩⟩]
      root := 4 }
    [⟨.keyword, ⟨0, 6⟩⟩, ⟨.string, ⟨7, 10⟩⟩, ⟨.punctuator, ⟨10, 11⟩⟩, ⟨.keyword, ⟨12, 18⟩⟩,
      ⟨.string, ⟨19, 22⟩⟩, ⟨.punctuator, ⟨22, 23⟩⟩, ⟨.keyword, ⟨25, 31⟩⟩, ⟨.string, ⟨32, 35⟩⟩,
      ⟨.punctuator, ⟨35, 36⟩⟩, ⟨.keyword, ⟨37, 43⟩⟩, ⟨.string, ⟨44, 47⟩⟩,
      ⟨.punctuator, ⟨47, 48⟩⟩] [] []

theorem import_edits_apart_unsortedRuns :
    let reports := (runRules [rule plainOrder] {} unsortedRuns).1.filter
      (·.lint = .orderedImportsByPath)
    Separate unsortedRuns.tree.importSpans ∧
      (sortOffers reports).map (fun d => (d.span, d.suggestion.map (·.edit))) =
        [(⟨12, 23⟩, some ⟨⟨0, 23⟩, "import 'a';\nimport 'b';".toList⟩),
          (⟨37, 48⟩, some ⟨⟨25, 48⟩, "import 'c';\nimport 'd';".toList⟩)] ∧
      ∃ p, planOf plainOrder unsortedRuns = .ok p ∧ p.runs = [[0, 1], [2, 3]] ∧
        (∀ run ∈ p.sortedTogether plainOrder,
          ((sortOffers reports).filter (·.span ∈ p.spansOf run)).length ≤ 1) ∧
        (reports.filterMap (·.suggestion)).Pairwise fun x y => x.edit.overlaps y.edit = false := by
  have separate : Separate unsortedRuns.tree.importSpans := by decide
  have builtIn : (rule plainOrder).IsBuiltIn := .importPaths (o := {}) rfl
  have runs : (planOf plainOrder unsortedRuns).map (·.runs) = .ok [[0, 1], [2, 3]] := by cbv
  obtain ⟨-, planned⟩ := import_edits_apart builtIn.alone (List.nodup_singleton _)
    (List.mem_singleton.mpr rfl) {} unsortedRuns separate
  refine ⟨separate, by cbv, ?_⟩
  cases made : planOf plainOrder unsortedRuns with
  | error e =>
    rw [made] at runs
    cases runs
  | ok p =>
    rw [made] at runs
    obtain ⟨-, -, -, -, single, -, apart⟩ := planned p made
    exact ⟨p, rfl, Except.ok.inj runs, single, apart⟩

end ImportPaths

end ScriptLint
