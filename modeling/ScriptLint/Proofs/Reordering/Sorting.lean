import Mathlib
import ScriptLint.Proofs.Collation
import ScriptLint.Proofs.Lists
import ScriptLint.Proofs.Reordering.Edits

/-!
Finding an inversion and sorting agree.

The order of names is a permutation of their numbers, and both edits put texts into this order. An
inversion is looked for among neighbours only. Since collations are transitive there is none exactly
when the whole list is in order, and then sorting leaves every entry in its place.
-/
namespace ScriptLint

open Std

namespace Collation

variable {α β : Type}

def arrange (c : Collation) (names : List Text) (xs : List α) : List α :=
  (c.order names).filterMap (xs[·]?)

theorem order_perm (c : Collation) (names : List Text) :
    (c.order names).Perm (List.range names.length) := by
  have numbers := (List.mergeSort_perm names.zipIdx fun a b => !c.isAfter a.1 b.1).map Prod.snd
  rwa [List.zipIdx_map_snd, ← List.range_eq_range'] at numbers

theorem order_map (c : Collation) (name : α → Text) (xs : List α) :
    c.order (xs.map name) =
      (xs.zipIdx.mergeSort fun a b => !c.isAfter (name a.1) (name b.1)).map Prod.snd := by
  have numbered : c.sort (xs.map name).zipIdx =
      (xs.zipIdx.mergeSort fun a b => !c.isAfter (name a.1) (name b.1)).map (Prod.map name id) := by
    rw [sort, List.zipIdx_map, List.map_mergeSort]
    intro a _ b _
    rfl
  rw [order, numbered, List.map_map]
  rfl

theorem arrange_eq_mergeSort (c : Collation) (name : α → Text) (xs : List α) :
    c.arrange (xs.map name) xs = xs.mergeSort fun a b => !c.isAfter (name a) (name b) := by
  rw [arrange, order_map, filterMap_numbers, List.map_mergeSort, List.zipIdx_map_fst]
  · intro a _ b _
    rfl
  · intro x member
    exact List.mem_mergeSort.mp member

theorem arrange_map (c : Collation) (names : List Text) (f : α → β) (xs : List α) :
    c.arrange names (xs.map f) = (c.arrange names xs).map f := by
  simp only [arrange, List.map_filterMap, List.getElem?_map]

theorem sort_eq_arrange (c : Collation) (entries : List (Text × α)) :
    c.sort entries = c.arrange (entries.map Prod.fst) entries :=
  (c.arrange_eq_mergeSort Prod.fst entries).symm

theorem arrange_stablySorted (c : Collation) (name : α → Text) (xs : List α) :
    StablySorted (fun a b => c.compare (name a) (name b)) xs (c.arrange (xs.map name) xs) := by
  have order : TransCmp fun a b => c.compare (name a) (name b) := transCmp_on name
  rw [arrange_eq_mergeSort]
  exact stablySorted_mergeSort xs

theorem arrange_of_order_eq {c : Collation} {names : List Text} {xs : List α}
    (identity : c.order names = List.range xs.length) : c.arrange names xs = xs := by
  have numbers : List.range xs.length = xs.zipIdx.map Prod.snd := by
    rw [List.zipIdx_map_snd, List.range_eq_range']
  rw [arrange, identity, numbers, filterMap_numbers fun _ member => member, List.zipIdx_map_fst]

theorem firstInversion?_eq_none_iff_isChain {c : Collation} {names : List Text} :
    c.firstInversion? names = none ↔ names.IsChain fun a b => c.compare a b ≠ .gt := by
  fun_induction c.firstInversion? names with
  | case1 a b names inverted =>
    have here : c.compare a b = .gt := eq_of_beq inverted
    simp [here]
  | case2 a b names ordered ih =>
    have here : c.compare a b ≠ .gt := by simpa [isAfter] using ordered
    rw [Option.map_eq_none_iff, ih, List.isChain_cons_cons]
    exact (and_iff_right here).symm
  | case3 names short =>
    cases names with
    | nil => simp
    | cons a names =>
      cases names with
      | nil => simp
      | cons b names => exact absurd rfl (short a b names)

theorem firstInversion?_eq_none_iff {c : Collation} {names : List Text} :
    c.firstInversion? names = none ↔ names.Pairwise fun a b => c.compare a b ≠ .gt := by
  have order : Trans (fun a b => c.compare a b ≠ .gt) (fun a b => c.compare a b ≠ .gt)
      fun a b => c.compare a b ≠ .gt := ⟨ne_gt_trans⟩
  rw [firstInversion?_eq_none_iff_isChain, List.isChain_iff_pairwise]

theorem order_eq_range_iff {c : Collation} {names : List Text} :
    c.order names = List.range names.length ↔ names.Pairwise fun a b => c.compare a b ≠ .gt := by
  constructor
  · intro identity
    have sorted := (c.arrange_stablySorted id names).ordered
    rwa [List.map_id, arrange_of_order_eq identity] at sorted
  · intro sorted
    rw [← List.zipIdx_map_fst 0 names, List.pairwise_map] at sorted
    have kept : c.sort names.zipIdx = names.zipIdx := by
      apply List.mergeSort_of_pairwise
      apply sorted.imp
      intro a b ordered
      exact bne_iff_ne.mpr ordered
    rw [order, kept, List.zipIdx_map_snd, List.range_eq_range']

end Collation

namespace SourceFile

variable {f : SourceFile} {c : Collation} {keys : List SortKey} {first last : SortKey}

theorem inPlaceEdit?_eq (head : keys.head? = some first) (final : keys.getLast? = some last) :
    f.inPlaceEdit? c keys = some ⟨⟨first.span.start, last.span.stop⟩,
      weave (c.arrange (keys.map (·.name)) (keys.map (f.slice ·.span))) (f.gaps keys)⟩ := by
  have texts : (c.sort (keys.map fun key => (key.name, f.slice key.span))).map Prod.snd =
      c.arrange (keys.map (·.name)) (keys.map (f.slice ·.span)) := by
    rw [Collation.sort_eq_arrange, ← Collation.arrange_map, List.map_map, List.map_map]
    rfl
  rw [inPlaceEdit?, head, final, ← texts]

theorem carryingEdit_unclosed (head : keys.head? = some first) (final : keys.getLast? = some last)
    (missing : f.punctuatorAfter? last.span.stop ['\x7d'] = none) :
    f.carryingEdit c keys = .error (.noClosingBrace last.span) := by
  simp only [carryingEdit, head, final, missing]

theorem carryingEdit_eq (head : keys.head? = some first) (final : keys.getLast? = some last)
    {closing : Token} (found : f.punctuatorAfter? last.span.stop ['\x7d'] = some closing) :
    let rest := f.punctuatorBetween? ⟨last.span.stop, closing.span.start⟩ ['.', '.', '.']
    let stop := (rest.map (·.span.start)).getD closing.span.start
    let addComma := rest.isNone && !f.hasPunctuatorBetween ⟨last.span.stop, stop⟩ [',']
    f.carryingEdit c keys = .ok (some ⟨⟨first.span.start, stop⟩,
      (c.arrange (keys.map (·.name)) (f.carriedTexts stop addComma keys)).flatten⟩) := by
  intro rest stop addComma
  have lengths := f.length_carriedTexts stop addComma keys
  have texts : (c.sort ((keys.map (·.name)).zip (f.carriedTexts stop addComma keys))).map Prod.snd =
      c.arrange (keys.map (·.name)) (f.carriedTexts stop addComma keys) := by
    rw [Collation.sort_eq_arrange, ← Collation.arrange_map, List.map_fst_zip (by simp [lengths]),
      List.map_snd_zip (by simp [lengths])]
  simp only [carryingEdit, head, final, found, ← texts]
  rfl

def plainFile (text : Text) (tokens : List Token) (comments : List Comment) : SourceFile :=
  let tree : Tree := { nodes := #[], root := 0 }
  { text
    tree
    tokens := tokens.toArray
    comments := comments.toArray
    scopes := .ofTree tree []
    lineStarts := (0 :: laterLineStarts 0 text).toArray }

end SourceFile

namespace Collation

/-- There is no inversion if and only if no key comes after a later one, and if and only if the
order in which both edits put their texts is the one that they have. The keys in this order have no
inversion, and those that tie stand as before. -/
theorem detection_agrees_with_sorting (c : Collation) (keys : List SortKey) :
    let names := keys.map (·.name)
    let sorted := c.arrange names keys
    (c.firstInversion? names = none ↔ keys.Pairwise fun a b => c.compare a.name b.name ≠ .gt) ∧
      (c.firstInversion? names = none ↔ c.order names = List.range keys.length) ∧
      (c.order names).Perm (List.range keys.length) ∧
      c.firstInversion? (sorted.map (·.name)) = none ∧
      StablySorted (fun a b => c.compare a.name b.name) keys sorted ∧
      (∀ f e, SourceFile.inPlaceEdit? f c keys = some e → e.replacement =
        SourceFile.weave (c.arrange names (keys.map (f.slice ·.span))) (f.gaps keys)) ∧
      ∀ f e, SourceFile.carryingEdit f c keys = .ok (some e) → ∃ stop addComma,
        e.replacement = (c.arrange names (f.carriedTexts stop addComma keys)).flatten := by
  intro names sorted
  have count : names.length = keys.length := List.length_map _
  have stable := c.arrange_stablySorted (·.name) keys
  refine ⟨?_, ?_, ?_, ?_, stable, ?_, ?_⟩
  · rw [firstInversion?_eq_none_iff, List.pairwise_map]
  · rw [firstInversion?_eq_none_iff, ← count, order_eq_range_iff]
  · rw [← count]
    exact c.order_perm names
  · rw [firstInversion?_eq_none_iff, List.pairwise_map]
    exact stable.ordered
  · intro f e made
    cases head : keys.head? with
    | none => simp [SourceFile.inPlaceEdit?, head] at made
    | some first =>
      cases final : keys.getLast? with
      | none => simp [SourceFile.inPlaceEdit?, final] at made
      | some last =>
        rw [SourceFile.inPlaceEdit?_eq head final] at made
        cases made
        rfl
  · intro f e made
    cases head : keys.head? with
    | none => simp [SourceFile.carryingEdit, head] at made
    | some first =>
      cases final : keys.getLast? with
      | none => simp [SourceFile.carryingEdit, final] at made
      | some last =>
        cases found : f.punctuatorAfter? last.span.stop ['\x7d'] with
        | none =>
          rw [SourceFile.carryingEdit_unclosed head final found] at made
          cases made
        | some closing =>
          rw [SourceFile.carryingEdit_eq head final found] at made
          cases made
          exact ⟨_, _, rfl⟩

def threeEntries : SourceFile :=
  .plainFile "\x7b B, a, b \x7d".toList
    [⟨.punctuator, ⟨0, 1⟩⟩, ⟨.identifier, ⟨2, 3⟩⟩, ⟨.punctuator, ⟨3, 4⟩⟩,
      ⟨.identifier, ⟨5, 6⟩⟩, ⟨.punctuator, ⟨6, 7⟩⟩, ⟨.identifier, ⟨8, 9⟩⟩,
      ⟨.punctuator, ⟨10, 11⟩⟩] []

/-- When case is ignored, `B` and `b` tie. Both go behind `a` and stay in their order. -/
theorem detection_agrees_with_sorting_tie :
    let c : Collation := ⟨true, false⟩
    let keys : List SortKey := [⟨⟨2, 3⟩, ['B']⟩, ⟨⟨5, 6⟩, ['a']⟩, ⟨⟨8, 9⟩, ['b']⟩]
    let names := keys.map (·.name)
    c.order names = [1, 0, 2] ∧ c.firstInversion? names ≠ none ∧
      threeEntries.inPlaceEdit? c keys = some ⟨⟨2, 9⟩, "a, B, b".toList⟩ ∧
      threeEntries.carryingEdit c keys = .ok (some ⟨⟨2, 10⟩, "a, B, b, ".toList⟩) ∧
      "a, B, b".toList = SourceFile.weave
        (c.arrange names (keys.map (threeEntries.slice ·.span))) (threeEntries.gaps keys) ∧
      ∃ stop addComma, "a, B, b, ".toList =
        (c.arrange names (threeEntries.carriedTexts stop addComma keys)).flatten := by
  intro c keys names
  obtain ⟨-, identity, -, -, -, placed, carried⟩ := detection_agrees_with_sorting c keys
  have order : c.order names = [1, 0, 2] := by cbv
  have edit : threeEntries.inPlaceEdit? c keys = some ⟨⟨2, 9⟩, "a, B, b".toList⟩ := by cbv
  have edit' : threeEntries.carryingEdit c keys =
      .ok (some ⟨⟨2, 10⟩, "a, B, b, ".toList⟩) := by cbv
  refine ⟨order, ?_, edit, edit', placed _ _ edit, carried _ _ edit'⟩
  rw [Ne, identity, order]
  decide

end Collation

end ScriptLint
