import Mathlib
import ScriptLint.Proofs.Reordering.Pieces

/-!
The two edits that sort entries.

Sorting in place moves the bare entries and keeps every gap where it is. Sorting with carried text
moves each entry with everything up to the next one, so that nothing is left between the pieces.
-/
namespace ScriptLint

theorem sort_perm {α : Type _} (c : Collation) (entries : List (Text × α)) :
    (c.sort entries).Perm entries := List.mergeSort_perm ..

/-- Entries of one list: their spans are in order, end on boundaries of the text, and cut no
comment. -/
structure EntriesFit (f : SourceFile) (spans : List Span) : Prop where
  ordered : Ordered spans
  boundaries : ∀ s ∈ spans, f.text.isBoundary s.start = true ∧ f.text.isBoundary s.stop = true
  comments : ∀ s ∈ spans, ∀ c ∈ f.comments.toList, c.span.InOrBeside s

instance (f : SourceFile) (spans : List Span) : Decidable (EntriesFit f spans) :=
  decidable_of_iff
    (Ordered spans ∧
      (∀ s ∈ spans, f.text.isBoundary s.start = true ∧ f.text.isBoundary s.stop = true) ∧
      ∀ s ∈ spans, ∀ c ∈ f.comments.toList, c.span.InOrBeside s)
    ⟨fun h => ⟨h.1, h.2.1, h.2.2⟩, fun h => ⟨h.ordered, h.boundaries, h.comments⟩⟩

theorem entriesFit_sublist {f : SourceFile} {spans kept : List Span} (fit : EntriesFit f spans)
    (sub : kept.Sublist spans) : EntriesFit f kept :=
  ⟨ordered_sublist fit.ordered sub, fun s member => fit.boundaries s (sub.subset member),
    fun s member => fit.comments s (sub.subset member)⟩

namespace Piece

def bare (s : Span) : Piece := ⟨s, s.stop⟩

def carried (stop : Nat) : List Span → List Piece
  | [] => []
  | [s] => [⟨s, stop⟩]
  | s :: next :: spans => ⟨s, next.start⟩ :: carried stop (next :: spans)

theorem laid_bare {t : Text} {spans : List Span} (ordered : Ordered spans)
    (bounds : ∀ s ∈ spans, t.isBoundary s.start = true ∧ t.isBoundary s.stop = true) :
    Laid t (spans.map bare) := by
  induction spans with
  | nil => trivial
  | cons s spans ih =>
    obtain ⟨start, stop⟩ := bounds s (by simp)
    have fits : (bare s).Fits t :=
      ⟨ordered.forward s (by simp), Nat.le_refl _, start, stop, stop⟩
    cases spans with
    | nil => exact fits
    | cons next spans =>
      have apart := (List.pairwise_cons.mp ordered.apart).1 next (by simp)
      refine ⟨fits, apart, ih (ordered_sublist ordered (List.sublist_cons_self ..)) ?_⟩
      intro u member
      exact bounds u (List.mem_cons_of_mem _ member)

theorem laid_carried {t : Text} {stop : Nat} {spans : List Span} (ordered : Ordered spans)
    (bounds : ∀ s ∈ spans, t.isBoundary s.start = true ∧ t.isBoundary s.stop = true)
    (after : ∀ s ∈ spans, s.stop ≤ stop) (boundary : t.isBoundary stop = true) :
    Laid t (carried stop spans) := by
  induction spans with
  | nil => trivial
  | cons s spans ih =>
    have forward := ordered.forward s (by simp)
    have own := bounds s (by simp)
    cases spans with
    | nil => exact ⟨forward, after s (by simp), own.1, own.2, boundary⟩
    | cons next spans =>
      have apart := (List.pairwise_cons.mp ordered.apart).1 next (by simp)
      have inner := (bounds next (by simp)).1
      have rest := ih (ordered_sublist ordered (List.sublist_cons_self ..))
        (fun u member => bounds u (List.mem_cons_of_mem _ member))
        fun u member => after u (List.mem_cons_of_mem _ member)
      -- The last entry goes on to the stop, any other one to the entry after it.
      cases spans <;> exact ⟨⟨forward, apart, own.1, own.2, inner⟩, Nat.le_refl _, rest⟩

theorem carried_stop {stop : Nat} {spans : List Span} {p : Piece}
    (member : p ∈ carried stop spans) :
    p.entry ∈ spans ∧ (p.stop = stop ∨ ∃ s ∈ spans, p.stop = s.start) := by
  fun_induction carried stop spans with
  | case1 => simp at member
  | case2 s => simp_all
  | case3 s next spans ih =>
    rcases List.mem_cons.mp member with same | later
    · subst p
      exact ⟨by simp, Or.inr ⟨next, by simp, rfl⟩⟩
    · obtain ⟨entry, same | ⟨u, found, start⟩⟩ := ih later
      · exact ⟨List.mem_cons_of_mem _ entry, Or.inl same⟩
      · exact ⟨List.mem_cons_of_mem _ entry, Or.inr ⟨u, List.mem_cons_of_mem _ found, start⟩⟩

theorem carried_last (stop : Nat) {spans : List Span} (nonempty : spans ≠ []) :
    ∃ last, (carried stop spans).getLast? = some last ∧ last.stop = stop := by
  fun_induction carried stop spans with
  | case1 => contradiction
  | case2 s => exact ⟨⟨s, stop⟩, rfl, rfl⟩
  | case3 s next spans ih =>
    obtain ⟨last, final, eq⟩ := ih (by simp)
    exact ⟨last, by simp [List.getLast?_cons, final], eq⟩

theorem carried_head (stop : Nat) {spans : List Span} {s : Span} (head : spans.head? = some s) :
    ∃ first, (carried stop spans).head? = some first ∧ first.entry = s := by
  obtain ⟨rest, rfl⟩ := List.head?_eq_some_iff.mp head
  cases rest with
  | nil => exact ⟨⟨s, stop⟩, rfl, rfl⟩
  | cons next rest => exact ⟨⟨s, next.start⟩, rfl, rfl⟩

@[simp]
theorem map_entry_carried (stop : Nat) (spans : List Span) :
    (carried stop spans).map entry = spans := by
  fun_induction carried stop spans <;> simp_all

theorem length_carried (stop : Nat) (spans : List Span) :
    (carried stop spans).length = spans.length := by
  rw [← List.length_map entry, map_entry_carried]

end Piece

namespace SourceFile

theorem weave_cons (x : Text) (xs joints : List Text) :
    weave (x :: xs) joints = x ++ joints.headD [] ++ weave xs joints.tail := by
  cases joints with
  | nil => cases xs <;> simp [weave]
  | cons joint joints => rfl

theorem measure_weave {measure : Text → Nat}
    (add : ∀ t u, measure (t ++ u) = measure t + measure u) {pieces joints : List Text}
    (count : joints.length + 1 = pieces.length) :
    measure (weave pieces joints) = (pieces.map measure).sum + (joints.map measure).sum := by
  induction joints generalizing pieces with
  | nil =>
    obtain ⟨piece, rfl⟩ := List.length_eq_one_iff.mp count.symm
    simp [weave]
  | cons joint joints ih =>
    cases pieces with
    | nil => simp at count
    | cons piece pieces =>
      simp only [weave, add, List.map_cons, List.sum_cons, ih (by simpa using count)]
      omega

theorem weave_replicate_nil (pieces : List Text) (n : Nat) :
    weave pieces (List.replicate n []) = pieces.flatten := by
  induction n generalizing pieces with
  | zero => cases pieces <;> simp [weave]
  | succ n ih => cases pieces <;> simp [weave, List.replicate_succ, ih]

theorem gaps_eq (f : SourceFile) (keys : List SortKey) :
    f.gaps keys = (Piece.gaps ((keys.map (·.span)).map Piece.bare)).map f.slice := by
  fun_induction f.gaps keys with
  | case1 key next keys ih => simp_all [Piece.gaps, Piece.bare]
  | case2 keys short =>
    cases keys with
    | nil => rfl
    | cons key keys =>
      cases keys with
      | nil => rfl
      | cons next keys => exact absurd rfl (short key next keys)

theorem carriedTexts_eq (f : SourceFile) (stop : Nat) (addComma : Bool) (keys : List SortKey) :
    f.carriedTexts stop addComma keys =
      Piece.texts f (if addComma then [','] else [])
        (Piece.carried stop (keys.map (·.span))) := by
  fun_induction f.carriedTexts stop addComma keys with
  | case1 => rfl
  | case2 key => rfl
  | case3 key next keys ih =>
    cases keys with
    | nil => simp_all [Piece.carried, Piece.texts, Piece.text]
    | cons => simp_all [Piece.carried, Piece.texts, Piece.text]

theorem length_carriedTexts (f : SourceFile) (stop : Nat) (addComma : Bool) (keys : List SortKey) :
    (f.carriedTexts stop addComma keys).length = keys.length := by
  rw [carriedTexts_eq, Piece.length_texts, Piece.length_carried, List.length_map]

theorem inPlaceEdit?_rearranges {f : SourceFile} {c : Collation} {keys : List SortKey} {e : Edit}
    (fit : EntriesFit f (keys.map (·.span))) (made : f.inPlaceEdit? c keys = some e) :
    Rearrangement f e ((keys.map (·.span)).map Piece.bare) []
      ((Piece.gaps ((keys.map (·.span)).map Piece.bare)).map f.slice) := by
  simp only [inPlaceEdit?] at made
  split at made
  · rename_i first last head final
    simp only [Option.some.injEq] at made
    subst made
    rw [gaps_eq]
    have laid := Piece.laid_bare fit.ordered fit.boundaries
    have nonempty : (keys.map (·.span)).map Piece.bare ≠ [] := by
      rintro empty
      simp_all
    have headPiece : ((keys.map (·.span)).map Piece.bare).head? = some (Piece.bare first.span) := by
      simp [head]
    have lastPiece : ((keys.map (·.span)).map Piece.bare).getLast? = some (Piece.bare last.span) := by
      simp [List.getLast?_map, final]
    refine rearrangement_of_laid laid headPiece lastPiece ?_ ?_ ?_
    · rw [List.length_map]
      exact Piece.length_gaps nonempty
    · rw [Piece.texts_nil_eq laid]
      have sorted := (sort_perm c (keys.map fun key => (key.name, f.slice key.span))).map Prod.snd
      simpa [Function.comp_def, Piece.bare, Piece.span] using sorted
    · intro comment member q found
      obtain ⟨s, inside, rfl⟩ := List.mem_map.mp found
      exact spares_of_inOrBeside (fit.ordered.forward s inside)
        (fit.comments s inside comment member)
  · simp at made

/-- Tokens in order that start on boundaries of the text and share nothing with a comment. -/
structure TokensFit (f : SourceFile) : Prop where
  ordered : f.TokensOrdered
  boundaries : ∀ t ∈ f.tokens.toList, f.text.isBoundary t.span.start = true
  comments : ∀ t ∈ f.tokens.toList, ∀ c ∈ f.comments.toList,
    c.span.stop ≤ t.span.start ∨ t.span.stop ≤ c.span.start

instance (f : SourceFile) : Decidable (TokensFit f) :=
  decidable_of_iff
    (f.TokensOrdered ∧ (∀ t ∈ f.tokens.toList, f.text.isBoundary t.span.start = true) ∧
      ∀ t ∈ f.tokens.toList, ∀ c ∈ f.comments.toList,
        c.span.stop ≤ t.span.start ∨ t.span.stop ≤ c.span.start)
    ⟨fun h => ⟨h.1, h.2.1, h.2.2⟩, fun h => ⟨h.ordered, h.boundaries, h.comments⟩⟩

theorem token_spares {f : SourceFile} (fit : TokensFit f) {t : Token} (member : t ∈ f.tokens.toList)
    {c : Comment} (comment : c ∈ f.comments.toList) : c.Spares t.span.start := by
  have forward := fit.ordered.forward t.span (List.mem_map_of_mem member)
  rcases fit.comments t member c comment with before | after
  · exact Or.inl before
  · exact Or.inr (Nat.le_trans forward after)

theorem carryingEdit_cases {f : SourceFile} {c : Collation} {keys : List SortKey} {e : Edit}
    (tokens : f.TokensOrdered) (made : f.carryingEdit c keys = .ok (some e)) :
    ∃ first last t addComma, keys.head? = some first ∧ keys.getLast? = some last ∧
      t ∈ f.tokens.toList ∧ last.span.stop ≤ t.span.start ∧
      e = ⟨⟨first.span.start, t.span.start⟩, ((c.sort ((keys.map (·.name)).zip
        (f.carriedTexts t.span.start addComma keys))).map Prod.snd).flatten⟩ := by
  simp only [carryingEdit] at made
  split at made
  · rename_i first last head final
    split at made
    · simp at made
    · rename_i closing found
      have brace := punctuatorAfter?_some tokens found
      simp only [Except.ok.injEq, Option.some.injEq] at made
      subst made
      cases rest : f.punctuatorBetween? ⟨last.span.stop, closing.span.start⟩ ['.', '.', '.'] with
      | none => exact ⟨first, last, closing, _, head, final, brace.1, brace.2, rfl⟩
      | some dots =>
        have inside := punctuatorBetween?_some tokens rest
        exact ⟨first, last, dots, _, head, final, inside.1, inside.2.1, rfl⟩
  · simp at made

theorem carryingEdit_bounds {f : SourceFile} {c : Collation} {keys : List SortKey} {e : Edit}
    (tokens : f.TokensOrdered) (made : f.carryingEdit c keys = .ok (some e)) :
    ∃ first last, keys.head? = some first ∧ keys.getLast? = some last ∧
      e.span.start = first.span.start ∧ last.span.stop ≤ e.span.stop ∧
      ∀ t ∈ f.tokens.toList, last.span.stop ≤ t.span.start →
        f.isPunctuator ['\x7d'] t = true ∨ f.isPunctuator ['.', '.', '.'] t = true →
        e.span.stop ≤ t.span.start := by
  simp only [carryingEdit] at made
  split at made
  · rename_i first last head final
    split at made
    · simp at made
    · rename_i closing found
      obtain ⟨listed, brace⟩ := punctuatorAfter?_some tokens found
      simp only [Except.ok.injEq, Option.some.injEq] at made
      subst made
      refine ⟨first, last, head, final, rfl, ?_, ?_⟩
      · cases rest : f.punctuatorBetween? ⟨last.span.stop, closing.span.start⟩ ['.', '.', '.'] with
        | none => exact brace
        | some dots => exact (punctuatorBetween?_some tokens rest).2.1
      · have forward : ∀ t ∈ f.tokens.toList, t.span.start ≤ t.span.stop :=
          fun t member => tokens.forward t.span (List.mem_map_of_mem member)
        have bound : ((f.punctuatorBetween? ⟨last.span.stop, closing.span.start⟩
            ['.', '.', '.']).map (·.span.start)).getD closing.span.start ≤ closing.span.start := by
          cases rest : f.punctuatorBetween? ⟨last.span.stop, closing.span.start⟩ ['.', '.', '.'] with
          | none => exact Nat.le_refl _
          | some dots =>
            obtain ⟨present, -, before⟩ := punctuatorBetween?_some tokens rest
            exact Nat.le_trans (forward dots present) before
        intro t member after mark
        by_cases late : closing.span.start ≤ t.span.start
        · exact Nat.le_trans bound late
        · -- A mark before the closing brace is no brace, and the first dots come no later.
          rcases mark with marked | marked
          · exact absurd (punctuatorAfter?_first tokens found member marked after) late
          · have inside : t.span.stop ≤ closing.span.start := by
              have ends := forward closing listed
              rcases ordered_disjoint tokens (List.mem_map_of_mem member)
                (List.mem_map_of_mem listed) with same | before | behind
              · rw [same] at late
                exact absurd (Nat.le_refl _) late
              · exact before
              · omega
            obtain ⟨dots, rest, first⟩ := exists_punctuatorBetween? tokens
              (s := ⟨last.span.stop, closing.span.start⟩) member marked after inside
            rw [rest]
            exact first
  · simp at made

theorem carryingEdit_rearranges {f : SourceFile} {c : Collation} {keys : List SortKey} {e : Edit}
    (tokens : TokensFit f) (fit : EntriesFit f (keys.map (·.span)))
    (made : f.carryingEdit c keys = .ok (some e)) :
    ∃ (stop : Nat) (addComma : Bool), Rearrangement f e
      (Piece.carried stop (keys.map (·.span))) (if addComma then [','] else [])
      (List.replicate (keys.length - 1) []) := by
  obtain ⟨first, last, t, addComma, head, final, member, after, rfl⟩ :=
    carryingEdit_cases tokens.ordered made
  refine ⟨t.span.start, addComma, ?_⟩
  have nonempty : keys.map (·.span) ≠ [] := by
    rintro empty
    simp_all
  have ends : ∀ s ∈ keys.map (·.span), s.stop ≤ t.span.start := by
    intro s found
    have latest := ordered_le_last fit.ordered (by rw [List.getLast?_map, final]; rfl) found
    exact Nat.le_trans latest after
  have laid := Piece.laid_carried fit.ordered fit.boundaries ends (tokens.boundaries t member)
  have headSpan : (keys.map (·.span)).head? = some first.span := by simp [head]
  obtain ⟨firstPiece, headPiece, start⟩ := Piece.carried_head t.span.start headSpan
  obtain ⟨lastPiece, finalPiece, stop⟩ := Piece.carried_last t.span.start nonempty
  have lengths := f.length_carriedTexts t.span.start addComma keys
  have moved : ((c.sort ((keys.map (·.name)).zip
      (f.carriedTexts t.span.start addComma keys))).map Prod.snd).Perm
      (f.carriedTexts t.span.start addComma keys) := by
    refine ((sort_perm c _).map Prod.snd).trans ?_
    rw [List.map_snd_zip (by simp [lengths])]
  rw [carriedTexts_eq] at moved lengths
  have built : Rearrangement f _ _ _ (List.replicate (keys.length - 1) []) :=
    rearrangement_of_laid laid headPiece finalPiece ?_ moved ?_
  · rw [start, stop, weave_replicate_nil, ← carriedTexts_eq] at built
    exact built
  · have positive : 0 < keys.length := List.length_pos_iff.mpr (by rintro rfl; simp at head)
    rw [List.length_replicate, ← Piece.length_texts, lengths]
    omega
  · intro comment inside p found
    obtain ⟨entry, border⟩ := Piece.carried_stop found
    refine ⟨(spares_of_inOrBeside (fit.ordered.forward _ entry)
      (fit.comments _ entry comment inside)).1, ?_⟩
    rcases border with brace | ⟨next, nextEntry, same⟩
    · rw [brace]
      exact token_spares tokens member inside
    · rw [same]
      exact (spares_of_inOrBeside (fit.ordered.forward _ nextEntry)
        (fit.comments _ nextEntry comment inside)).1

end SourceFile

end ScriptLint
