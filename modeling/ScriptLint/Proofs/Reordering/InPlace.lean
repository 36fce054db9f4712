import Mathlib
import ScriptLint.Proofs.Edits.Substitution
import ScriptLint.Proofs.Reordering.Sorting

/-!
Sorting entries in place.

Entries of different lengths move between the slots, so the offsets inside the edit shift, while the
gaps keep their texts and their order. The entries found at the new offsets are those that moved.
They are in order, so sorting them once more puts back the text that is there.
-/
namespace ScriptLint

/-- Entries from `start` on, each as long as before, with gaps of the given sizes between them. -/
def SortKey.slots (start : Nat) : List SortKey → List Nat → List SortKey
  | [], _ => []
  | key :: keys, gaps =>
    let stop := start + (key.span.stop - key.span.start)
    ⟨⟨start, stop⟩, key.name⟩ :: slots (stop + gaps.headD 0) keys gaps.tail

namespace SortKey

@[simp]
theorem map_name_slots (start : Nat) (keys : List SortKey) (gaps : List Nat) :
    (slots start keys gaps).map (·.name) = keys.map (·.name) := by
  induction keys generalizing start gaps with
  | nil => rfl
  | cons key keys ih => simp [slots, ih]

theorem le_start_slots {start : Nat} {keys : List SortKey} {gaps : List Nat} :
    ∀ slot ∈ slots start keys gaps, start ≤ slot.span.start := by
  induction keys generalizing start gaps with
  | nil => simp [slots]
  | cons key keys ih =>
    simp only [slots, List.forall_mem_cons]
    refine ⟨Nat.le_refl _, fun slot member => ?_⟩
    have := ih slot member
    omega

theorem slots_apart (start : Nat) (keys : List SortKey) (gaps : List Nat) :
    ((slots start keys gaps).map (·.span)).Pairwise fun a b => a.stop ≤ b.start := by
  induction keys generalizing start gaps with
  | nil => exact .nil
  | cons key keys ih =>
    rw [slots, List.map_cons, List.pairwise_cons]
    refine ⟨?_, ih _ _⟩
    intro s member
    obtain ⟨slot, found, rfl⟩ := List.mem_map.mp member
    have := le_start_slots slot found
    simp only
    omega

end SortKey

namespace SourceFile

theorem size_weave_perm {pieces moved joints : List Text} (same : moved.Perm pieces)
    (count : joints.length + 1 = pieces.length) :
    Text.size (weave moved joints) = Text.size (weave pieces joints) := by
  rw [measure_weave Text.size_append count,
    measure_weave Text.size_append (by rw [same.length_eq, count]), (same.map _).sum_eq]

section Slots

variable {f f' : SourceFile} {before after : Text}

theorem slots_cons {key : SortKey} (keys : List SortKey) (joints : List Text)
    (width : Text.size (f.slice key.span) = key.span.stop - key.span.start) :
    SortKey.slots before.size (key :: keys) (joints.map Text.size) =
      ⟨⟨before.size, before.size + Text.size (f.slice key.span)⟩, key.name⟩ ::
        SortKey.slots (Text.size (before ++ f.slice key.span ++ joints.headD [])) keys
          (joints.tail.map Text.size) := by
  cases joints with
  | nil => simp [SortKey.slots, width]
  | cons joint joints => simp [SortKey.slots, width, Nat.add_assoc]

theorem slots_hold {keys : List SortKey} {joints : List Text}
    (widths : ∀ key ∈ keys, Text.size (f.slice key.span) = key.span.stop - key.span.start)
    (woven : f'.text = before ++ weave (keys.map (f.slice ·.span)) joints ++ after) :
    let slots := SortKey.slots before.size keys (joints.map Text.size)
    SpansFit f'.text (slots.map (·.span)) ∧
      slots.map (f'.slice ·.span) = keys.map (f.slice ·.span) := by
  induction keys generalizing before joints with
  | nil => exact ⟨⟨by simp [SortKey.slots], .nil⟩, rfl⟩
  | cons key keys ih =>
    obtain ⟨width, others⟩ := List.forall_mem_cons.mp widths
    rw [List.map_cons, weave_cons] at woven
    obtain ⟨fit, texts⟩ := @ih (before ++ f.slice key.span ++ joints.headD []) joints.tail others
      (by simpa using woven)
    have first : f'.text.isBoundary before.size = true :=
      Text.isBoundary_iff.mpr ⟨before, _, by simpa using woven, rfl⟩
    have last : f'.text.isBoundary (before.size + Text.size (f.slice key.span)) = true :=
      Text.isBoundary_iff.mpr ⟨before ++ f.slice key.span, _, by simpa using woven, by simp⟩
    have text : f'.slice ⟨before.size, before.size + Text.size (f.slice key.span)⟩ =
        f.slice key.span :=
      Text.slice_eq_of_parts (p := before) (by simpa using woven) rfl rfl
    intro slots
    have shape : slots = _ := slots_cons keys joints width
    refine ⟨⟨?_, SortKey.slots_apart _ _ _⟩, ?_⟩
    · rw [shape, List.map_cons, List.forall_mem_cons]
      exact ⟨⟨Nat.le_add_right _ _, first, last⟩, fit.each⟩
    · rw [shape, List.map_cons, List.map_cons, text, texts]

theorem gaps_slots (f : SourceFile) (slot key : SortKey) (keys : List SortKey) (start : Nat)
    (gaps : List Nat) :
    f.gaps (slot :: SortKey.slots start (key :: keys) gaps) =
      f.slice ⟨slot.span.stop, start⟩ :: f.gaps (SortKey.slots start (key :: keys) gaps) := rfl

theorem slots_gaps {keys : List SortKey} {joints : List Text}
    (widths : ∀ key ∈ keys, Text.size (f.slice key.span) = key.span.stop - key.span.start)
    (count : joints.length + 1 = keys.length)
    (woven : f'.text = before ++ weave (keys.map (f.slice ·.span)) joints ++ after) :
    let slots := SortKey.slots before.size keys (joints.map Text.size)
    f'.gaps slots = joints ∧ ∃ last, slots.getLast? = some last ∧
      last.span.stop = before.size + Text.size (weave (keys.map (f.slice ·.span)) joints) := by
  induction joints generalizing before keys with
  | nil =>
    obtain ⟨key, rfl⟩ := List.length_eq_one_iff.mp count.symm
    have width := widths key (by simp)
    refine ⟨rfl, _, rfl, ?_⟩
    simp [weave, SortKey.slots, width]
  | cons joint joints ih =>
    obtain _ | ⟨key, _ | ⟨next, keys⟩⟩ := keys
    · simp at count
    · simp at count
    obtain ⟨width, others⟩ := List.forall_mem_cons.mp widths
    rw [List.map_cons, weave_cons] at woven
    obtain ⟨gaps, last, final, stop⟩ := @ih (before ++ f.slice key.span ++ joint) (next :: keys)
      others (by simpa using count) (by simpa using woven)
    have gap : f'.slice ⟨before.size + Text.size (f.slice key.span),
        Text.size (before ++ f.slice key.span ++ joint)⟩ = joint := by
      apply Text.slice_eq_of_parts (p := before ++ f.slice key.span)
      · simpa using woven
      · simp
      · simp only [Text.size_append]
    intro slots
    have shape : slots = ⟨⟨before.size, before.size + Text.size (f.slice key.span)⟩, key.name⟩ ::
        SortKey.slots (Text.size (before ++ f.slice key.span ++ joint)) (next :: keys)
          (joints.map Text.size) := slots_cons (next :: keys) (joint :: joints) width
    rw [shape]
    refine ⟨?_, last, ?_, ?_⟩
    · rw [gaps_slots, gap, gaps]
    · rw [List.getLast?_cons, final]
      rfl
    · have parts : weave ((key :: next :: keys).map (f.slice ·.span)) (joint :: joints) =
          f.slice key.span ++ joint ++ weave ((next :: keys).map (f.slice ·.span)) joints := rfl
      rw [stop, parts]
      simp only [Text.size_append]
      omega

end Slots

section Sorted

variable {f : SourceFile} {c : Collation} {keys : List SortKey} {first last : SortKey}

theorem length_gaps (f : SourceFile) (head : keys.head? = some first) :
    (f.gaps keys).length + 1 = keys.length := by
  have nonempty : (keys.map (·.span)).map Piece.bare ≠ [] := by
    intro empty
    simp_all
  rw [gaps_eq, List.length_map, Piece.length_gaps nonempty, List.length_map, List.length_map]

theorem slice_eq_weave (fit : SpansFit f.text (keys.map (·.span)))
    (head : keys.head? = some first) (final : keys.getLast? = some last) :
    f.slice ⟨first.span.start, last.span.stop⟩ =
      weave (keys.map (f.slice ·.span)) (f.gaps keys) := by
  obtain ⟨rest, rfl⟩ := List.head?_eq_some_iff.mp head
  have laid := Piece.laid_bare fit.ordered fun s member =>
    ⟨(fit.each s member).first, (fit.each s member).last⟩
  have final' : (((first :: rest).map (·.span)).map Piece.bare).getLast? =
      some (Piece.bare last.span) := by
    rw [List.getLast?_map, List.getLast?_map, final]
    rfl
  have whole := Piece.slice_of_laid laid final'
  rw [← List.map_cons, ← List.map_cons, ← gaps_eq, List.map_map, List.map_map] at whole
  exact whole

theorem inPlaceEdit?_of_sorted (fit : SpansFit f.text (keys.map (·.span)))
    (head : keys.head? = some first) (final : keys.getLast? = some last)
    (sorted : (keys.map (·.name)).Pairwise fun a b => c.compare a b ≠ .gt) :
    f.inPlaceEdit? c keys = some ⟨⟨first.span.start, last.span.stop⟩,
      f.slice ⟨first.span.start, last.span.stop⟩⟩ := by
  have identity : c.order (keys.map (·.name)) =
      List.range (keys.map (f.slice ·.span)).length := by
    rw [Collation.order_eq_range_iff.mpr sorted, List.length_map, List.length_map]
  rw [inPlaceEdit?_eq head final, Collation.arrange_of_order_eq identity,
    ← slice_eq_weave fit head final]

theorem inPlaceEdit?_slots {f' : SourceFile} {before after : Text} {joints : List Text}
    (widths : ∀ key ∈ keys, Text.size (f.slice key.span) = key.span.stop - key.span.start)
    (count : joints.length + 1 = keys.length)
    (woven : f'.text = before ++ weave (keys.map (f.slice ·.span)) joints ++ after)
    (sorted : (keys.map (·.name)).Pairwise fun a b => c.compare a b ≠ .gt) :
    let slots := SortKey.slots before.size keys (joints.map Text.size)
    let whole : Span :=
      ⟨before.size, before.size + Text.size (weave (keys.map (f.slice ·.span)) joints)⟩
    f'.inPlaceEdit? c slots = some ⟨whole, f'.slice whole⟩ := by
  intro slots whole
  obtain ⟨-, final, found, stop⟩ := slots_gaps widths count woven
  obtain ⟨first, head, start⟩ : ∃ first, slots.head? = some first ∧
      first.span.start = before.size := by
    cases keys with
    | nil => simp at count
    | cons key keys => exact ⟨_, rfl, rfl⟩
  have fit : SpansFit f'.text (slots.map (·.span)) := (slots_hold widths woven).1
  have names : slots.map (·.name) = keys.map (·.name) := SortKey.map_name_slots _ _ _
  rw [inPlaceEdit?_of_sorted fit head found (by rwa [names]), start, stop]

end Sorted

/-- Sorting in place keeps the size of the text and all of it outside the edit. The slots hold the
entries in the stable order of their names, and the gaps between them are as before. The entries
in the slots have no inversion, and sorting them again puts in what is there. -/
theorem in_place_sort_settles (f : SourceFile) (c : Collation) {keys : List SortKey}
    {first last : SortKey} (fit : SpansFit f.text (keys.map (·.span)))
    (head : keys.head? = some first) (final : keys.getLast? = some last) :
    ∃ e fixed moved, f.inPlaceEdit? c keys = some e ∧
      e.span = ⟨first.span.start, last.span.stop⟩ ∧ Edit.applyAll f.text [e] = .ok fixed ∧
      fixed.size = f.text.size ∧
      fixed.before first.span.start = f.text.before first.span.start ∧
      fixed.after last.span.stop = f.text.after last.span.stop ∧
      StablySorted (fun a b => c.compare a.name b.name) keys moved ∧
      (f.gaps keys).length + 1 = keys.length ∧
      ∀ f' : SourceFile, f'.text = fixed →
        let slots := SortKey.slots first.span.start moved ((f.gaps keys).map Text.size)
        SpansFit fixed (slots.map (·.span)) ∧ slots.map (·.name) = moved.map (·.name) ∧
          slots.map (f'.slice ·.span) = moved.map (f.slice ·.span) ∧
          f'.gaps slots = f.gaps keys ∧ c.firstInversion? (slots.map (·.name)) = none ∧
          f'.inPlaceEdit? c slots = some ⟨e.span, f'.slice e.span⟩ := by
  have hull : Span.Fits ⟨first.span.start, last.span.stop⟩ f.text :=
    fit.hull (by simp [head]) (by simp [final])
  have stable := c.arrange_stablySorted (·.name) keys
  have count := f.length_gaps head
  have count' : (f.gaps keys).length + 1 = (c.arrange (keys.map (·.name)) keys).length := by
    rw [stable.perm.length_eq, count]
  have made := @inPlaceEdit?_eq f c keys first last head final
  rw [Collation.arrange_map] at made
  generalize c.arrange (keys.map (·.name)) keys = moved at stable count' made
  -- The replacement takes as much room as the slice that it replaces.
  have room : Text.size (weave (moved.map (f.slice ·.span)) (f.gaps keys)) =
      last.span.stop - first.span.start := by
    rw [size_weave_perm (stable.perm.map _) (by rw [List.length_map, count]),
      ← slice_eq_weave fit head final]
    exact Text.size_slice hull.forward hull.first hull.last
  have widths : ∀ key ∈ moved,
      Text.size (f.slice key.span) = key.span.stop - key.span.start := by
    intro key member
    have range := fit.each key.span (List.mem_map_of_mem (stable.perm.mem_iff.mp member))
    exact Text.size_slice range.forward range.first range.last
  have sorted : (moved.map (·.name)).Pairwise fun a b => c.compare a b ≠ .gt := by
    rw [List.pairwise_map]
    exact stable.ordered
  obtain ⟨size, front, back⟩ := @Edit.splice_same_size f.text ⟨_, _⟩ hull room
  refine ⟨_, _, moved, made, rfl, Edit.applyAll_eq_splice hull, size, front, back, stable, count,
    ?_⟩
  intro f' same slots
  have start := (Text.boundary_parts hull.first).2
  have stop : first.span.start + (last.span.stop - first.span.start) = last.span.stop :=
    Nat.add_sub_cancel' hull.forward
  obtain ⟨range, texts⟩ := slots_hold widths same
  obtain ⟨gaps, -⟩ := slots_gaps widths count' same
  have again := inPlaceEdit?_slots widths count' same sorted
  simp only [start, room, stop, same] at range texts gaps again
  have names : slots.map (·.name) = moved.map (·.name) := SortKey.map_name_slots _ _ _
  refine ⟨range, names, texts, gaps, ?_, again⟩
  rw [names]
  exact Collation.firstInversion?_eq_none_iff.mpr sorted

theorem in_place_sort_settles_uneven :
    let f := plainFile "\x7b zé, a , mm \x7d".toList [] []
    let f' := plainFile "\x7b a, mm , zé \x7d".toList [] []
    let c : Collation := ⟨false, false⟩
    let keys : List SortKey :=
      [⟨⟨2, 5⟩, "zé".toList⟩, ⟨⟨7, 8⟩, "a".toList⟩, ⟨⟨11, 13⟩, "mm".toList⟩]
    SpansFit f.text (keys.map (·.span)) ∧
      f.inPlaceEdit? c keys = some ⟨⟨2, 13⟩, "a, mm , zé".toList⟩ ∧
      ∃ moved, StablySorted (fun a b => c.compare a.name b.name) keys moved ∧
        let slots := SortKey.slots 2 moved [2, 3]
        slots.map (f'.slice ·.span) = moved.map (f.slice ·.span) ∧
          c.firstInversion? (slots.map (·.name)) = none ∧
          f'.inPlaceEdit? c slots = some ⟨⟨2, 13⟩, f'.slice ⟨2, 13⟩⟩ := by
  intro f f' c keys
  have fit : SpansFit f.text (keys.map (·.span)) := ⟨by decide, by decide⟩
  have edit : f.inPlaceEdit? c keys = some ⟨⟨2, 13⟩, "a, mm , zé".toList⟩ := by cbv
  have gaps : (f.gaps keys).map Text.size = [2, 3] := by decide
  obtain ⟨e, fixed, moved, made, -, applied, -, -, -, stable, -, settled⟩ :=
    in_place_sort_settles f c fit rfl rfl
  cases edit.symm.trans made
  have result : Edit.applyAll f.text [⟨⟨2, 13⟩, "a, mm , zé".toList⟩] = .ok f'.text := by cbv
  cases result.symm.trans applied
  obtain ⟨-, -, texts, -, none, again⟩ := settled f' rfl
  rw [gaps] at texts none again
  exact ⟨fit, edit, moved, stable, texts, none, again⟩

end SourceFile

end ScriptLint
