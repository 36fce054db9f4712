import Mathlib
import ScriptLint.Proofs.Collation
import ScriptLint.Proofs.Rules.ImportMoves

/-!
Imports are sorted by a total preorder.

Side effects come first, then the path decides, then the kind of the import, and each of the three
may be indifferent. The order of all three is a total preorder for every setting of the options, so
that a run or a group is listed once and in order, and imports that tie stay as they were.
-/
namespace ScriptLint.ImportPaths

theorem filter_zip_zipIdx {α β : Type} [BEq β] (b : β) (k : Nat) (xs : List α) (ys : List β) :
    (((xs.zipIdx k).zip ys).filter (·.2 == b)).map Prod.fst =
      (xs.zipIdx k).filter fun x => ys[x.2 - k]? == some b := by
  induction xs generalizing k ys with
  | nil => rfl
  | cons x xs ih =>
    cases ys with
    | nil => simp
    | cons y ys =>
      -- Behind the first item the numbers and the items beside them both move on by one.
      have later : (xs.zipIdx (k + 1)).filter (fun x => (y :: ys)[x.2 - k]? == some b) =
          (xs.zipIdx (k + 1)).filter fun x => ys[x.2 - (k + 1)]? == some b := by
        apply List.filter_congr
        intro v member
        have bound := (List.mem_zipIdx member).1
        have next : v.2 - k = v.2 - (k + 1) + 1 := by omega
        rw [next, List.getElem?_cons_succ]
      have first : ((y :: ys)[k - k]? == some b) = (y == b) := by simp
      rw [List.zipIdx_cons, List.zip_cons_cons, List.filter_cons, List.filter_cons, later, first,
        ← ih]
      split <;> rfl

namespace Plan

variable {p : Plan} {r : ImportOrder} {g : Grouping}

theorem buckets_stablySorted {n : Nat} {bucket : List (ImportEntry × Nat)}
    (found : (p.buckets r g)[n]? = some bucket) :
    StablySorted (fun a b => r.compare a.1 b.1)
      (p.imports.zipIdx.filter fun x => g.correct[x.2]? == some n) bucket := by
  rw [buckets, List.getElem?_map, Option.map_eq_some_iff] at found
  obtain ⟨m, listed, rfl⟩ := found
  obtain ⟨bound, same⟩ := List.getElem?_eq_some_iff.mp listed
  rw [List.getElem_range] at same
  subst m
  rw [filter_zip_zipIdx]
  exact r.stablySorted _

end Plan

/-- The comparison of imports is a total preorder. The text that moves with an import is the import
and what follows up to the last of its comments. The edit of a run replaces the run by its imports,
each of them once and in stable order, and the edit that makes groups does so with each group. -/
theorem imports_sorted_by_preorder (r : ImportOrder) :
    (∀ a b, r.compare a b = (r.compare b a).swap) ∧
    (∀ a b c, r.compare a b ≠ .gt → r.compare b c ≠ .gt → r.compare a c ≠ .gt) ∧
    (∀ (file : SourceFile) last (x : ImportEntry × Nat), file.CommentsOrdered →
      (Plan.movingSpan file last x).start = x.1.span.start ∧
      x.1.span.stop ≤ (Plan.movingSpan file last x).stop ∧
      (x.1.span.start ≤ x.1.span.stop → file.text.isBoundary x.1.span.start = true →
        file.text.isBoundary x.1.span.stop = true →
        file.text.isBoundary (Plan.movingSpan file last x).stop = true →
        file.slice (Plan.movingSpan file last x) = file.slice x.1.span ++
          file.slice ⟨x.1.span.stop, (Plan.movingSpan file last x).stop⟩)) ∧
    (∀ (p : Plan) file members e, (∀ i ∈ members, i < p.imports.length) →
      p.orderEdit? r file members = some e →
      p.editSpan? (p.entries members) = some e.span ∧
      ∃ last sorted, members.getLast? = some last ∧ (sorted.map Prod.snd).Perm members ∧
        StablySorted (fun a b => r.compare a.1 b.1) (p.entries members) sorted ∧
        (Plan.joints file last (p.entries members)).length + 1 = sorted.length ∧
        e.replacement = SourceFile.weave
          (sorted.map fun x => file.slice (Plan.movingSpan file last x))
          (Plan.joints file last (p.entries members))) ∧
    ∀ file p e, planOf r file = .ok p → p.regroupEdit? r file = some e →
      p.editSpan? p.imports.zipIdx = some e.span ∧
      ∃ (g : Grouping) (buckets : List (List (ImportEntry × Nat))), p.grouping = some g ∧
        buckets.length = g.labels.length ∧ buckets.flatten.Perm p.imports.zipIdx ∧
        (∀ n bucket, buckets[n]? = some bucket →
          StablySorted (fun a b => r.compare a.1 b.1)
            (p.imports.zipIdx.filter fun x => g.correct[x.2]? == some n) bucket) ∧
        e.replacement = Text.joinWith ['\n', '\n']
          ((buckets.filter (!·.isEmpty)).map fun bucket => Text.joinWith ['\n']
            (bucket.map fun x => file.slice (Plan.movingSpan file (p.imports.length - 1) x))) := by
  refine ⟨?_, ?_, ?_, ?_, ?_⟩
  · intro a b
    exact Std.OrientedCmp.eq_swap
  · intro a b c first second
    exact ne_gt_trans first second
  · intro file last x comments
    have start := movingSpan_start file last x
    have stop := le_movingSpan_stop comments last x
    refine ⟨start, stop, fun forward first border final => ?_⟩
    calc file.slice (Plan.movingSpan file last x)
      _ = file.slice ⟨x.1.span.start, (Plan.movingSpan file last x).stop⟩ := by rw [← start]
      _ = _ := (Text.slice_append forward stop first border final).symm
  · intro p file members e bound edit
    obtain ⟨span, last, covers, final, rfl⟩ := Plan.orderEdit?_some edit
    have stable := r.stablySorted (p.entries members)
    have numbers := stable.perm.map Prod.snd
    rw [Plan.map_snd_entries_of_lt bound] at numbers
    have count : (Plan.joints file last (p.entries members)).length + 1 =
        (Plan.sortEntries r (p.entries members)).length := by
      obtain ⟨first, -, head, -⟩ := editSpan?_some covers
      have some : p.entries members ≠ [] := List.ne_nil_of_mem (List.mem_of_mem_head? head)
      rw [joints_eq, List.length_map, Piece.length_gaps (by simpa using some), List.length_map,
        Plan.sortEntries, List.length_mergeSort]
    exact ⟨covers, last, _, final, numbers, stable, count, rfl⟩
  · intro file p e made edit
    obtain ⟨g, span, grouping, covers, rfl⟩ := Plan.regroupEdit?_some edit
    obtain ⟨-, -, -, -, -, -, grouped⟩ := planOf_ok made
    rw [grouping] at grouped
    refine ⟨covers, g, p.buckets r g, grouping, ?_, Plan.buckets_perm grouped, ?_, rfl⟩
    · rw [Plan.buckets, List.length_map, List.length_range]
    · intro n bucket found
      exact Plan.buckets_stablySorted found

def threeKinds : SourceFile :=
  .ofParts "import 'z';\nimport 'a';\nimport type \x7b\x7d from 'a';".toList
    { nodes := #[⟨.importDeclaration [] ['z'] .value, some ⟨0, 11⟩⟩,
        ⟨.importDeclaration [] ['a'] .value, some ⟨12, 23⟩⟩,
        ⟨.importDeclaration [] ['a'] .type, some ⟨24, 48⟩⟩,
        ⟨.program [0, 1, 2], some ⟨0, 48⟩⟩]
      root := 3 }
    [⟨.keyword, ⟨0, 6⟩⟩, ⟨.string, ⟨7, 10⟩⟩, ⟨.punctuator, ⟨10, 11⟩⟩, ⟨.keyword, ⟨12, 18⟩⟩,
      ⟨.string, ⟨19, 22⟩⟩, ⟨.punctuator, ⟨22, 23⟩⟩, ⟨.keyword, ⟨24, 30⟩⟩,
      ⟨.identifier, ⟨31, 35⟩⟩, ⟨.punctuator, ⟨36, 37⟩⟩, ⟨.punctuator, ⟨37, 38⟩⟩,
      ⟨.identifier, ⟨39, 43⟩⟩, ⟨.string, ⟨44, 47⟩⟩, ⟨.punctuator, ⟨47, 48⟩⟩] [] []

def groupedOrder : ImportOrder :=
  { plainOrder with
    groups := [.sideEffects, .pattern ['^', 'a'] (·.head? == some 'a'), .theRest]
    usesGroups := true }

def threeKindsPlan : Plan :=
  { imports := [⟨0, ⟨0, 11⟩, ['z'], .value, true⟩, ⟨1, ⟨12, 23⟩, ['a'], .value, true⟩,
      ⟨2, ⟨24, 48⟩, ['a'], .type, true⟩]
    statements := []
    runs := [[0, 1, 2]]
    grouping := some ⟨[['^', 'a'], ImportGroup.theRestLabel], [1, 0, 0]⟩ }

/-- When nothing is said about types, the two imports of `a` tie and stay in their order. -/
theorem imports_sorted_by_preorder_tie :
    planOf groupedOrder threeKinds = .ok threeKindsPlan ∧
      threeKindsPlan.orderEdit? groupedOrder threeKinds [0, 1, 2] =
        some ⟨⟨0, 48⟩, "import 'a';\nimport type \x7b\x7d from 'a';\nimport 'z';".toList⟩ ∧
      (Plan.movingSpan threeKinds 2 (⟨0, ⟨0, 11⟩, ['z'], .value, true⟩, 0)).start = 0 ∧
      11 ≤ (Plan.movingSpan threeKinds 2 (⟨0, ⟨0, 11⟩, ['z'], .value, true⟩, 0)).stop ∧
      (∃ sorted, (sorted.map Prod.snd).Perm [0, 1, 2] ∧
        StablySorted (fun a b => groupedOrder.compare a.1 b.1)
          (threeKindsPlan.entries [0, 1, 2]) sorted) ∧
      threeKindsPlan.regroupEdit? groupedOrder threeKinds =
        some ⟨⟨0, 48⟩, "import 'a';\nimport type \x7b\x7d from 'a';\n\nimport 'z';".toList⟩ ∧
      ∃ buckets : List (List (ImportEntry × Nat)), buckets.length = 2 ∧
        buckets.flatten.Perm threeKindsPlan.imports.zipIdx ∧
        ∀ n bucket, buckets[n]? = some bucket →
          StablySorted (fun a b => groupedOrder.compare a.1 b.1)
            (threeKindsPlan.imports.zipIdx.filter fun x => [1, 0, 0][x.2]? == some n) bucket := by
  have made : planOf groupedOrder threeKinds = .ok threeKindsPlan := by cbv
  have order : threeKindsPlan.orderEdit? groupedOrder threeKinds [0, 1, 2] =
      some ⟨⟨0, 48⟩, "import 'a';\nimport type \x7b\x7d from 'a';\nimport 'z';".toList⟩ := by cbv
  have regroup : threeKindsPlan.regroupEdit? groupedOrder threeKinds =
      some ⟨⟨0, 48⟩, "import 'a';\nimport type \x7b\x7d from 'a';\n\nimport 'z';".toList⟩ := by
    cbv
  obtain ⟨-, -, moves, sorts, groups⟩ := imports_sorted_by_preorder groupedOrder
  obtain ⟨start, stop, -⟩ :=
    moves threeKinds 2 (⟨0, ⟨0, 11⟩, ['z'], .value, true⟩, 0) (of_decide_eq_true (by cbv))
  obtain ⟨-, last, sorted, -, numbers, stable, -⟩ :=
    sorts threeKindsPlan threeKinds [0, 1, 2] _ (by decide) order
  obtain ⟨-, g, buckets, grouping, count, all, each, -⟩ := groups threeKinds _ _ made regroup
  cases grouping
  exact ⟨made, order, start, stop, ⟨sorted, numbers, stable⟩, regroup, buckets, count, all, each⟩

end ScriptLint.ImportPaths
