import Mathlib
import ScriptLint.Proofs.Reordering.Tidy
import ScriptLint.Rules.ImportPaths

/-!
The plan of the top-level imports.

The imports of a plan are statements of the file, in order, and so are the other statements. Every
run is a stretch of consecutive imports. The buckets of the groups hold every import once.
-/
namespace ScriptLint.ImportPaths

def plainOrder : ImportOrder :=
  { collation := {}
    allowSeparateGroups := true
    sideEffectsFirst := false
    typeImportsFirst := none
    groups := [.sideEffects]
    usesGroups := false }

example : ImportOrder.ofOptions {} = .ok plainOrder := rfl

def statementSpan : ImportEntry ⊕ Span → Span
  | .inl entry => entry.span
  | .inr span => span

theorem statement_span {t : Tree} {id : NodeId} {x : ImportEntry ⊕ Span}
    (made : statement t id = .ok x) : t.span? id = some (statementSpan x) := by
  simp only [statement] at made
  split at made
  · simp at made
  · rename_i span placed
    rw [place_eq_ok] at placed
    split at made <;> cases made <;> exact placed

theorem statement_import {t : Tree} {id : NodeId} {entry : ImportEntry}
    (made : statement t id = .ok (.inl entry)) :
    entry.node = id ∧ t.tag id = .importDeclaration := by
  simp only [statement] at made
  split at made
  · simp at made
  · split at made
    · rename_i kind
      cases made
      exact ⟨rfl, by simp [Tree.tag, kind, NodeKind.tag]⟩
    · simp at made

theorem planOf_ok {r : ImportOrder} {file : SourceFile} {p : Plan} (made : planOf r file = .ok p) :
    ∃ statements, file.tree.tag file.tree.root = .program ∧
      (file.tree.children file.tree.root).mapM (statement file.tree) = .ok statements ∧
      p.imports = statements.filterMap Sum.getLeft? ∧
      p.statements = statements.filterMap Sum.getRight? ∧
      p.runs = file.adjacentRuns (p.imports.map (·.span)) ∧
      groupingOf r p.imports = .ok p.grouping := by
  simp only [planOf] at made
  split at made
  · rename_i body kind
    split at made
    · simp at made
    · rename_i statements placed
      split at made
      · simp at made
      · rename_i grouping grouped
        cases made
        refine ⟨statements, by simp [Tree.tag, kind, NodeKind.tag], ?_, rfl, rfl, rfl, grouped⟩
        simpa [Tree.children, kind, NodeKind.children] using placed
  · simp at made

/-- The imports and the other statements of a plan are the statements of the file. -/
structure Plan.Covers (p : Plan) (t : Tree) : Prop where
  imports : (p.imports.map (·.span)).Sublist (t.childSpans t.root)
  complete : ∀ s ∈ t.childSpans t.root, s ∈ p.imports.map (·.span) ∨ s ∈ p.statements
  declared : ∀ entry ∈ p.imports, entry.node ∈ t.children t.root ∧
    t.tag entry.node = .importDeclaration ∧ t.span? entry.node = some entry.span

theorem lefts_sublist (xs : List (ImportEntry ⊕ Span)) :
    ((xs.filterMap Sum.getLeft?).map (·.span)).Sublist (xs.map statementSpan) := by
  induction xs with
  | nil => exact List.Sublist.refl _
  | cons x xs ih =>
    cases x with
    | inl entry => exact ih.cons_cons entry.span
    | inr span => exact ih.cons span

theorem nodes_sublist {t : Tree} {ids : List NodeId} {xs : List (ImportEntry ⊕ Span)}
    (made : ids.map (statement t) = xs.map .ok) :
    ((xs.filterMap Sum.getLeft?).map (·.node)).Sublist ids := by
  induction xs generalizing ids with
  | nil => exact List.nil_sublist _
  | cons x xs ih =>
    cases ids with
    | nil => simp at made
    | cons id ids =>
      rw [List.map_cons, List.map_cons, List.cons.injEq] at made
      cases x with
      | inl entry =>
        obtain ⟨rfl, -⟩ := statement_import made.1
        exact (ih made.2).cons_cons entry.node
      | inr span => exact (ih made.2).cons id

theorem planOf_nodes {r : ImportOrder} {file : SourceFile} {p : Plan}
    (made : planOf r file = .ok p) :
    (p.imports.map (·.node)).Sublist (file.tree.children file.tree.root) := by
  obtain ⟨statements, -, placed, imports, -⟩ := planOf_ok made
  rw [imports]
  exact nodes_sublist (map_eq_of_mapM placed)

theorem planOf_covers {r : ImportOrder} {file : SourceFile} {p : Plan}
    (made : planOf r file = .ok p) : p.Covers file.tree := by
  obtain ⟨statements, -, placed, imports, others, -, -⟩ := planOf_ok made
  have spans : file.tree.childSpans file.tree.root = statements.map statementSpan := by
    rw [Tree.childSpans, ← spans_of_mapM id placed fun _ _ => statement_span, List.map_id]
  refine ⟨?_, ?_, ?_⟩
  · rw [imports, spans]
    exact lefts_sublist statements
  · intro s member
    rw [spans] at member
    obtain ⟨x, found, rfl⟩ := List.mem_map.mp member
    cases x with
    | inl entry =>
      refine Or.inl (List.mem_map_of_mem (f := fun e : ImportEntry => e.span) ?_)
      rw [imports]
      exact List.mem_filterMap.mpr ⟨_, found, rfl⟩
    | inr span =>
      refine Or.inr ?_
      rw [others]
      exact List.mem_filterMap.mpr ⟨_, found, rfl⟩
  · intro entry member
    rw [imports] at member
    obtain ⟨x, found, left⟩ := List.mem_filterMap.mp member
    cases x with
    | inl e =>
      cases left
      obtain ⟨id, child, call⟩ := mem_of_mapM placed found
      obtain ⟨rfl, tag⟩ := statement_import call
      exact ⟨child, tag, statement_span call⟩
    | inr span => simp at left

namespace Plan

theorem runs_flatten {p : Plan} {file : SourceFile}
    (runs : p.runs = file.adjacentRuns (p.imports.map (·.span))) :
    p.runs.flatten = List.range p.imports.length := by
  rw [runs, SourceFile.adjacentRuns, ← List.map_flatten, List.flatten_splitBy,
    List.zipIdx_map_snd, List.length_map, List.range_eq_range']

theorem runs_filled {p : Plan} {file : SourceFile}
    (runs : p.runs = file.adjacentRuns (p.imports.map (·.span))) : [] ∉ p.runs := by
  intro empty
  rw [runs, SourceFile.adjacentRuns, List.mem_map] at empty
  obtain ⟨run, member, none⟩ := empty
  exact List.ne_nil_of_mem_splitBy member (List.map_eq_nil_iff.mp none)

theorem runs_consecutive {p : Plan} {file : SourceFile}
    (runs : p.runs = file.adjacentRuns (p.imports.map (·.span))) {run : List Nat}
    (member : run ∈ p.runs) : run <:+: List.range p.imports.length := by
  rw [← runs_flatten runs]
  exact List.infix_of_mem_flatten member

theorem entries_range (p : Plan) : p.entries (List.range p.imports.length) = p.imports.zipIdx := by
  rw [entries, List.range_eq_range', ← List.zipIdx_map_snd, List.filterMap_map]
  have same : ∀ x ∈ p.imports.zipIdx,
      ((p.imports[x.2]?).map fun entry => (entry, x.2)) = some x := by
    intro x member
    rw [List.mem_zipIdx_iff_getElem?.mp member]
    rfl
  exact (List.filterMap_congr same).trans List.filterMap_some

theorem entries_consecutive {p : Plan} {members : List Nat}
    (stretch : members <:+: List.range p.imports.length) :
    p.entries members <:+: p.imports.zipIdx := by
  rw [← entries_range]
  exact stretch.filterMap _

theorem consecutive_spans {p : Plan} {es : List (ImportEntry × Nat)}
    (consecutive : es <:+: p.imports.zipIdx) :
    es.map (·.1.span) <:+: p.imports.map (·.span) := by
  have imports : p.imports.map (·.span) = p.imports.zipIdx.map (·.1.span) := by
    have firsts := congrArg (List.map ImportEntry.span) (List.zipIdx_map_fst 0 p.imports)
    rw [List.map_map] at firsts
    exact firsts.symm
  rw [imports]
  exact consecutive.map _

theorem map_snd_entries_of_lt {p : Plan} {members : List Nat}
    (bound : ∀ i ∈ members, i < p.imports.length) : (p.entries members).map Prod.snd = members := by
  rw [entries, List.map_filterMap]
  have same : ∀ i ∈ members,
      ((p.imports[i]?).map fun entry => (entry, i)).map Prod.snd = some i := by
    intro i member
    simp [List.getElem?_eq_getElem (bound i member)]
  exact (List.filterMap_congr same).trans List.filterMap_some

theorem map_snd_entries {p : Plan} {members : List Nat}
    (stretch : members <:+: List.range p.imports.length) :
    (p.entries members).map Prod.snd = members := by
  apply map_snd_entries_of_lt
  intro i member
  exact List.mem_range.mp (stretch.subset member)

theorem orderEdit?_some {p : Plan} {r : ImportOrder} {file : SourceFile} {members : List Nat}
    {e : Edit} (edit : p.orderEdit? r file members = some e) :
    ∃ span last, p.editSpan? (p.entries members) = some span ∧ members.getLast? = some last ∧
      e = ⟨span, SourceFile.weave
        ((sortEntries r (p.entries members)).map fun x => file.slice (movingSpan file last x))
        (joints file last (p.entries members))⟩ := by
  simp only [orderEdit?] at edit
  split at edit
  · rename_i span last covers final
    exact ⟨span, last, covers, final, (Option.some.inj edit).symm⟩
  · cases edit

theorem regroupEdit?_some {p : Plan} {r : ImportOrder} {file : SourceFile} {e : Edit}
    (edit : p.regroupEdit? r file = some e) :
    ∃ g span, p.grouping = some g ∧ p.editSpan? p.imports.zipIdx = some span ∧
      e = ⟨span, Text.joinWith ['\n', '\n'] (((p.buckets r g).filter (!·.isEmpty)).map fun bucket =>
        Text.joinWith ['\n']
          (bucket.map fun x => file.slice (movingSpan file (p.imports.length - 1) x)))⟩ := by
  simp only [regroupEdit?] at edit
  split at edit
  · rename_i g span grouping covers
    exact ⟨g, span, grouping, covers, (Option.some.inj edit).symm⟩
  · cases edit

end Plan

theorem groupOf?_lt {r : ImportOrder} {needed : List ImportGroup} {entry : ImportEntry} {n : Nat}
    (found : r.groupOf? needed entry = some n) : n < needed.length := by
  simp only [ImportOrder.groupOf?] at found
  split at found
  · exact (List.findIdx?_eq_some_iff_getElem.mp found).1
  · split at found
    · rename_i taken
      cases found
      exact (List.findIdx?_eq_some_iff_getElem.mp taken).1
    · exact (List.findIdx?_eq_some_iff_getElem.mp found).1

theorem groupingOf_ok {r : ImportOrder} {imports : List ImportEntry} {g : Grouping}
    (made : groupingOf r imports = .ok (some g)) :
    g.correct.length = imports.length ∧ ∀ n ∈ g.correct, n < g.labels.length := by
  simp only [groupingOf] at made
  split at made
  · split at made
    · simp at made
    · rename_i correct grouped
      cases made
      refine ⟨?_, ?_⟩
      · have lengths := congrArg List.length (map_eq_of_mapM grouped)
        simpa using lengths.symm
      · intro n member
        obtain ⟨entry, -, call⟩ := mem_of_mapM grouped member
        split at call
        · rename_i found
          cases call
          rw [List.length_map]
          exact groupOf?_lt found
        · simp at call
  · simp at made

theorem flatMap_filter_perm {α : Type} (k : Nat) (l : List (α × Nat)) :
    ((List.range k).flatMap fun n => l.filter (·.2 == n)).Perm (l.filter (·.2 < k)) := by
  induction k with
  | zero => simp
  | succ k ih =>
    rw [List.range_succ, List.flatMap_append, List.flatMap_singleton]
    refine (ih.append_right _).trans ?_
    have parts := List.filter_append_perm (fun x : α × Nat => decide (x.2 < k))
      (l.filter fun x => decide (x.2 < k + 1))
    rw [List.filter_filter, List.filter_filter] at parts
    convert parts using 2
    · refine List.filter_congr fun x _ => ?_
      by_cases below : x.2 < k <;> simp [below]
      omega
    · refine List.filter_congr fun x _ => ?_
      rw [Bool.eq_iff_iff]
      simp only [Bool.and_eq_true, Bool.not_eq_true', decide_eq_true_eq, decide_eq_false_iff_not,
        beq_iff_eq]
      omega

namespace Plan

theorem buckets_perm {p : Plan} {r : ImportOrder} {g : Grouping}
    (grouped : groupingOf r p.imports = .ok (some g)) :
    (p.buckets r g).flatten.Perm p.imports.zipIdx := by
  obtain ⟨lengths, bound⟩ := groupingOf_ok grouped
  have sorted : (p.buckets r g).flatten.Perm ((List.range g.labels.length).flatMap fun n =>
      ((p.imports.zipIdx.zip g.correct).filter (·.2 == n)).map Prod.fst) := by
    rw [buckets, ← List.flatMap_def]
    exact List.Perm.flatMap_left _ fun n _ => List.mergeSort_perm ..
  have chosen := (flatMap_filter_perm g.labels.length (p.imports.zipIdx.zip g.correct)).map Prod.fst
  rw [List.map_flatMap] at chosen
  refine (sorted.trans chosen).trans ?_
  have all : (p.imports.zipIdx.zip g.correct).filter (·.2 < g.labels.length) =
      p.imports.zipIdx.zip g.correct := by
    refine List.filter_eq_self.mpr fun x member => ?_
    exact decide_eq_true (bound x.2 (List.of_mem_zip member).2)
  rw [all, List.map_fst_zip (by simp [lengths])]

end Plan

end ScriptLint.ImportPaths
