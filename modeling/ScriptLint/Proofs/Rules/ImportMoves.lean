import ScriptLint.Proofs.Rules.ImportPlan

/-!
Edits that move imports.

An import takes along the comments between it and the next token, which is the start of the next
import. What is left between two imports holds no token and no comment, so nothing is lost when an
edit writes line breaks in its place.
-/
namespace ScriptLint.ImportPaths

/-- Consecutive imports with the number of the last one and the span that an edit of them covers. -/
structure Stretch (file : SourceFile) (p : Plan) (es : List (ImportEntry × Nat)) (last : Nat)
    (span : Span) : Prop where
  tidy : file.Tidy
  root : file.tree.tag file.tree.root = .program
  covers : p.Covers file.tree
  consecutive : es <:+: p.imports.zipIdx
  final : es.getLast?.map Prod.snd = some last
  edit : p.editSpan? es = some span

/-- The pieces are the imports in the span, whole, each with comments only. Nothing but blank text
is left between them. -/
structure ImportPieces (file : SourceFile) (span : Span) (pieces : List Piece) : Prop where
  declared : ∀ q ∈ pieces, ∃ id ∈ file.tree.children file.tree.root,
    file.tree.tag id = .importDeclaration ∧ file.tree.span? id = some q.entry
  complete : ∀ s ∈ file.tree.childSpans file.tree.root, s.Meets span → ∃ q ∈ pieces, q.entry = s
  tokens : ∀ q ∈ pieces, ∀ t ∈ file.tokens.toList, t.span.Meets q.span →
    q.entry.contains t.span = true
  gaps : ∀ gap ∈ Piece.gaps pieces, (∀ t ∈ file.tokens.toList, ¬ t.span.Meets gap) ∧
    ∀ c ∈ file.comments.toList, ¬ c.span.Meets gap

/-- The joint is the text of the gap, a line break or a blank line. -/
def Replaces (file : SourceFile) (joint : Text) (gap : Span) : Prop :=
  joint = file.slice gap ∨ joint = ['\n'] ∨ joint = ['\n', '\n']

/-- The edit puts imports into another order and changes nothing else than gaps. -/
def MovesImports (file : SourceFile) (e : Edit) : Prop :=
  ∃ pieces joints, Rearrangement file e pieces [] joints ∧ ImportPieces file e.span pieces ∧
    List.Forall₂ (Replaces file) joints (Piece.gaps pieces)

def piece (file : SourceFile) (last : Nat) (x : ImportEntry × Nat) : Piece :=
  ⟨x.1.span, (Plan.movingSpan file last x).stop⟩

theorem editSpan?_some {p : Plan} {es : List (ImportEntry × Nat)} {span : Span}
    (edit : p.editSpan? es = some span) :
    ∃ first last, es.head? = some first ∧ es.getLast? = some last ∧
      span = ⟨first.1.span.start, last.1.span.stop⟩ ∧
      ∀ s ∈ p.statements, ¬ span.contains s = true := by
  simp only [Plan.editSpan?] at edit
  split at edit
  · rename_i first last head final
    split at edit
    · simp at edit
    · rename_i free
      cases edit
      refine ⟨first, last, head, final, rfl, ?_⟩
      intro s member inside
      exact free (List.any_eq_true.mpr ⟨s, member, inside⟩)
  · simp at edit

theorem last_or_neighbour {α : Type} {xs : List α} {x : α} (member : x ∈ xs) :
    xs.getLast? = some x ∨ ∃ y, [x, y] <:+: xs := by
  obtain ⟨front, rest, rfl⟩ := List.append_of_mem member
  cases rest with
  | nil => exact Or.inl (by simp)
  | cons y rest => exact Or.inr ⟨y, front, rest, by simp⟩

theorem movingSpan_start (file : SourceFile) (last : Nat) (x : ImportEntry × Nat) :
    (Plan.movingSpan file last x).start = x.1.span.start := by
  unfold Plan.movingSpan
  dsimp only
  split
  · rfl
  · split <;> rfl

theorem le_movingSpan_stop {file : SourceFile} (comments : file.CommentsOrdered) (last : Nat)
    (x : ImportEntry × Nat) : x.1.span.stop ≤ (Plan.movingSpan file last x).stop := by
  unfold Plan.movingSpan
  dsimp only
  split
  · exact Nat.le_refl _
  · split
    · rename_i comment final
      have member := List.mem_of_getLast? final
      rw [SourceFile.commentsAfter, SourceFile.commentsWithin_eq comments] at member
      obtain ⟨listed, place⟩ := List.mem_filter.mp member
      simp only [Bool.and_eq_true, decide_eq_true_eq] at place
      exact Nat.le_trans place.1 (comments.forward _ (List.mem_map_of_mem listed))
    · exact Nat.le_refl _

section Stretches

variable {file : SourceFile} {p : Plan} {es : List (ImportEntry × Nat)} {last : Nat} {span : Span}

theorem stretch_spans (stretch : Stretch file p es last span) :
    es.map (·.1.span) <:+: p.imports.map (·.span) :=
  Plan.consecutive_spans stretch.consecutive

theorem stretch_fit (stretch : Stretch file p es last span) :
    EntriesFit file (es.map (·.1.span)) := by
  have siblings := SourceFile.tidy_entries stretch.tidy (Or.inl stretch.root)
  exact entriesFit_sublist siblings
    ((stretch_spans stretch).sublist.trans stretch.covers.imports)

theorem stretch_statement (stretch : Stretch file p es last span) {s : Span}
    (member : s ∈ file.tree.childSpans file.tree.root) (meets : s.Meets span) :
    ∃ x ∈ es, x.1.span = s := by
  obtain ⟨first, final, head, getLast, rfl, free⟩ := editSpan?_some stretch.edit
  have siblings := SourceFile.tidy_entries stretch.tidy (Or.inl stretch.root)
  have inside : ∀ x ∈ es, x.1.span ∈ file.tree.childSpans file.tree.root := fun x found =>
    stretch.covers.imports.subset ((stretch_spans stretch).subset (List.mem_map_of_mem found))
  have firstMember := List.mem_of_mem_head? head
  have finalMember := List.mem_of_getLast? getLast
  obtain ⟨upper, lower, proper, -⟩ := meets
  simp only at upper lower
  rcases ordered_disjoint siblings.ordered member (inside first firstMember) with same | low | high
  · exact ⟨first, firstMember, same.symm⟩
  · omega
  rcases ordered_disjoint siblings.ordered member (inside final finalMember) with same | low | end_
  · exact ⟨final, finalMember, same.symm⟩
  -- The statement lies between the first import and the last one.
  · rcases stretch.covers.complete s member with isImport | other
    · obtain ⟨front, rest, split⟩ := stretch_spans stretch
      have ordered := ordered_sublist siblings.ordered stretch.covers.imports
      rw [← split] at ordered isImport
      obtain ⟨apart, -, after⟩ := List.pairwise_append.mp ordered.apart
      obtain ⟨-, -, before⟩ := List.pairwise_append.mp apart
      rcases List.mem_append.mp isImport with inner | later
      · rcases List.mem_append.mp inner with earlier | here
        · have := before s earlier first.1.span (List.mem_map_of_mem firstMember)
          omega
        · exact List.mem_map.mp here
      · have := after final.1.span
          (List.mem_append_right _ (List.mem_map_of_mem finalMember)) s later
        omega
    · refine absurd ?_ (free s other)
      simp only [Span.contains, Bool.and_eq_true, decide_eq_true_eq]
      have := siblings.ordered.forward _ (inside first firstMember)
      have := siblings.ordered.forward _ (inside final finalMember)
      omega
  · omega

theorem stretch_token (stretch : Stretch file p es last span) {t : Token}
    (member : t ∈ file.tokens.toList) (meets : t.span.Meets span) :
    ∃ x ∈ es, x.1.span.contains t.span = true := by
  obtain ⟨s, statement, contains⟩ := stretch.tidy.covered t member
  have inside := contains
  simp only [Span.contains, Bool.and_eq_true, decide_eq_true_eq] at inside
  obtain ⟨x, found, rfl⟩ := stretch_statement stretch statement (by
    simp only [Span.Meets] at meets ⊢
    omega)
  exact ⟨x, found, contains⟩

theorem stretch_declared (stretch : Stretch file p es last span) {x : ImportEntry × Nat}
    (member : x ∈ es) : x.1.node ∈ file.tree.children file.tree.root ∧
      file.tree.tag x.1.node = .importDeclaration ∧
      file.tree.span? x.1.node = some x.1.span := by
  have entry := List.mem_map_of_mem (f := Prod.fst) (stretch.consecutive.subset member)
  rw [List.zipIdx_map_fst] at entry
  exact stretch.covers.declared x.1 entry

theorem stretch_bounds (stretch : Stretch file p es last span) {x : ImportEntry × Nat}
    (member : x ∈ es) : span.start ≤ x.1.span.start ∧ x.1.span.stop ≤ span.stop := by
  obtain ⟨first, final, head, getLast, rfl, -⟩ := editSpan?_some stretch.edit
  have ordered := (stretch_fit stretch).ordered
  have inside := List.mem_map_of_mem (f := fun x : ImportEntry × Nat => x.1.span) member
  have headSpan : (es.map (·.1.span)).head? = some first.1.span := by simp [head]
  have lastSpan : (es.map (·.1.span)).getLast? = some final.1.span := by simp [getLast]
  exact ⟨ordered_first_le ordered headSpan inside, ordered_le_last ordered lastSpan inside⟩

theorem stretch_pair {a b : ImportEntry × Nat} (pair : [a, b] <:+: es) :
    [a.1.span, b.1.span] <:+: es.map (·.1.span) :=
  pair.map fun x : ImportEntry × Nat => x.1.span

theorem neighbour_token (stretch : Stretch file p es last span) {a b : ImportEntry × Nat}
    (pair : [a, b] <:+: es) {t : Token} (token : t ∈ file.tokens.toList)
    (room : a.1.span.start < b.1.span.start) (after : a.1.span.start < t.span.stop)
    (before : t.span.start < b.1.span.start) : a.1.span.contains t.span = true := by
  have ordered := (stretch_fit stretch).ordered
  have bMember : b ∈ es := pair.subset (by simp)
  have proper := stretch.tidy.proper t token
  have lower := stretch_bounds stretch (pair.subset (by simp) : a ∈ es)
  have upper := stretch_bounds stretch bMember
  have forward := ordered.forward _ (List.mem_map_of_mem bMember)
  obtain ⟨x, member, contains⟩ := stretch_token stretch token (by
    simp only [Span.Meets]
    omega)
  have inside := contains
  simp only [Span.contains, Bool.and_eq_true, decide_eq_true_eq] at inside
  rcases ordered_neighbours ordered (stretch_pair pair) (List.mem_map_of_mem member) with
    earlier | same | same | later
  · omega
  · rw [← same]
    exact contains
  · rw [same] at inside
    omega
  · omega

theorem nextTokenStart_neighbour (stretch : Stretch file p es last span) {a b : ImportEntry × Nat}
    (pair : [a, b] <:+: es) : file.nextTokenStart a.1.span.stop = b.1.span.start := by
  have ordered := (stretch_fit stretch).ordered
  have forward := ordered.forward _ (List.mem_map_of_mem (pair.subset (by simp) : a ∈ es))
  obtain ⟨child, tag, placed⟩ := stretch_declared stretch (pair.subset (by simp) : b ∈ es)
  obtain ⟨next, token, start⟩ := stretch.tidy.imports b.1.node child tag b.1.span placed
  have apart := ordered_pair ordered (stretch_pair pair)
  rw [← start]
  refine SourceFile.nextTokenStart_eq stretch.tidy.tokens.ordered token (by omega) ?_
  intro t member after
  refine Nat.le_of_not_lt fun early => ?_
  have proper := stretch.tidy.proper t member
  have contains := neighbour_token stretch pair member (by omega) (by omega) (by omega)
  simp only [Span.contains, Bool.and_eq_true, decide_eq_true_eq] at contains
  omega

theorem neighbour_not_last (stretch : Stretch file p es last span) {a b : ImportEntry × Nat}
    (pair : [a, b] <:+: es) : a.2 ≠ last := by
  have distinct : (es.map Prod.snd).Nodup := by
    refine List.Nodup.sublist (stretch.consecutive.map Prod.snd).sublist ?_
    rw [List.zipIdx_map_snd]
    exact List.nodup_range'
  obtain ⟨front, rest, rfl⟩ := pair
  obtain ⟨final, getLast, rfl⟩ := Option.map_eq_some_iff.mp stretch.final
  have later : final ∈ b :: rest := by
    refine List.mem_of_getLast? ?_
    simpa [List.getLast?_append, List.getLast?_cons] using getLast
  rw [List.append_assoc, List.map_append] at distinct
  have tail := (List.nodup_append.mp distinct).2.1
  have fresh : a.2 ∉ (b :: rest).map Prod.snd := (List.nodup_cons.mp tail).1
  intro same
  rw [same] at fresh
  exact fresh (List.mem_map_of_mem later)

/-- An import takes along all comments before the next one, and nothing else. -/
theorem movingSpan_neighbour (stretch : Stretch file p es last span) {a b : ImportEntry × Nat}
    (pair : [a, b] <:+: es) :
    a.1.span.stop ≤ (Plan.movingSpan file last a).stop ∧
      (Plan.movingSpan file last a).stop ≤ b.1.span.start ∧
      file.text.isBoundary (Plan.movingSpan file last a).stop = true ∧
      ∀ c ∈ file.comments.toList, a.1.span.stop ≤ c.span.start → c.span.stop ≤ b.1.span.start →
        c.span.stop ≤ (Plan.movingSpan file last a).stop := by
  have fit := stretch_fit stretch
  have apart := ordered_pair fit.ordered (stretch_pair pair)
  have aSpan : a.1.span ∈ es.map (·.1.span) := List.mem_map_of_mem (pair.subset (by simp))
  have comments := SourceFile.commentsAfter_eq stretch.tidy.tokens.ordered stretch.tidy.comments
    a.1.span
  rw [nextTokenStart_neighbour stretch pair] at comments
  have between : ∀ c ∈ file.comments.toList, a.1.span.stop ≤ c.span.start →
      c.span.stop ≤ b.1.span.start → c ∈ file.commentsAfter a.1.span := by
    intro c member after before
    rw [comments]
    exact List.mem_filter.mpr ⟨member, by simp [after, before]⟩
  simp only [Plan.movingSpan, neighbour_not_last stretch pair, ↓reduceIte]
  cases final : (file.commentsAfter a.1.span).getLast? with
  | none =>
    refine ⟨Nat.le_refl _, apart, (fit.boundaries _ aSpan).2, ?_⟩
    intro c member after before
    have found := between c member after before
    rw [List.getLast?_eq_none_iff.mp final] at found
    simp at found
  | some comment =>
    have member := List.mem_of_getLast? final
    rw [comments] at member
    obtain ⟨inside, place⟩ := List.mem_filter.mp member
    simp only [Bool.and_eq_true, decide_eq_true_eq] at place
    have forward := stretch.tidy.comments.forward _ (List.mem_map_of_mem inside)
    refine ⟨Nat.le_trans place.1 forward, place.2, stretch.tidy.commentStops comment inside, ?_⟩
    intro c found after before
    have kept : Ordered ((file.commentsAfter a.1.span).map (·.span)) := by
      rw [comments]
      exact ordered_sublist stretch.tidy.comments (List.filter_sublist.map _)
    have lastSpan : ((file.commentsAfter a.1.span).map (·.span)).getLast? = some comment.span := by
      simp [final]
    exact ordered_le_last kept lastSpan (List.mem_map_of_mem (between c found after before))

theorem movingSpan_last (file : SourceFile) (x : ImportEntry × Nat) :
    Plan.movingSpan file x.2 x = x.1.span := by
  simp [Plan.movingSpan]

theorem piece_span (file : SourceFile) (last : Nat) (x : ImportEntry × Nat) :
    (piece file last x).span = Plan.movingSpan file last x := by
  rw [piece, Piece.span, ← movingSpan_start file last x]

theorem piece_fits (stretch : Stretch file p es last span) {x : ImportEntry × Nat}
    (member : x ∈ es) : (piece file last x).Fits file.text := by
  have fit := stretch_fit stretch
  have entry : x.1.span ∈ es.map (·.1.span) := List.mem_map_of_mem member
  have forward := fit.ordered.forward _ entry
  obtain ⟨start, stop⟩ := fit.boundaries _ entry
  rcases last_or_neighbour member with final | ⟨next, pair⟩
  · have number : x.2 = last := by simpa [final] using stretch.final
    subst number
    have same : (piece file x.2 x).stop = x.1.span.stop := by rw [piece, movingSpan_last]
    exact ⟨forward, Nat.le_of_eq same.symm, start, stop, by rw [same]; exact stop⟩
  · obtain ⟨after, -, boundary, -⟩ := movingSpan_neighbour stretch pair
    exact ⟨forward, after, start, stop, boundary⟩

theorem piece_spares (stretch : Stretch file p es last span) {x : ImportEntry × Nat}
    (member : x ∈ es) {c : Comment} (comment : c ∈ file.comments.toList) :
    c.Spares x.1.span.start ∧ c.Spares (piece file last x).stop := by
  have fit := stretch_fit stretch
  have entry : x.1.span ∈ es.map (·.1.span) := List.mem_map_of_mem member
  have own := spares_of_inOrBeside (fit.ordered.forward _ entry) (fit.comments _ entry c comment)
  refine ⟨own.1, ?_⟩
  rcases last_or_neighbour member with final | ⟨next, pair⟩
  · have number : x.2 = last := by simpa [final] using stretch.final
    subst number
    rw [piece, movingSpan_last]
    exact own.2
  · obtain ⟨after, before, -, taken⟩ := movingSpan_neighbour stretch pair
    have nextEntry : next.1.span ∈ es.map (·.1.span) :=
      List.mem_map_of_mem (pair.subset (by simp))
    have other := spares_of_inOrBeside (fit.ordered.forward _ nextEntry)
      (fit.comments _ nextEntry c comment)
    rcases own.2 with left | right
    · exact Or.inl (Nat.le_trans left after)
    · rcases other.1 with inside | beyond
      · exact Or.inl (taken c comment right inside)
      · exact Or.inr (Nat.le_trans before beyond)

theorem pair_of_pieces {q q' : Piece} (pair : [q, q'] <:+: es.map (piece file last)) :
    ∃ a b, [a, b] <:+: es ∧ q = piece file last a ∧ q' = piece file last b := by
  obtain ⟨xs, inner, same⟩ := List.infix_map_iff.mp pair
  obtain ⟨a, b, rfl⟩ := List.length_eq_two.mp (by simpa using (congrArg List.length same).symm)
  simp only [List.map_cons, List.map_nil, List.cons.injEq, and_true] at same
  exact ⟨a, b, inner, same⟩

theorem laid_pieces (stretch : Stretch file p es last span) :
    Piece.Laid file.text (es.map (piece file last)) := by
  refine Piece.laid_of_neighbours ?_ ?_
  · intro q found
    obtain ⟨x, member, rfl⟩ := List.mem_map.mp found
    exact piece_fits stretch member
  · intro q q' pair
    obtain ⟨a, b, inner, rfl, rfl⟩ := pair_of_pieces pair
    exact (movingSpan_neighbour stretch inner).2.1

theorem stretch_rearranges (stretch : Stretch file p es last span)
    {moved : List (ImportEntry × Nat)} (order : moved.Perm es) {joints : List Text}
    (count : joints.length + 1 = es.length) :
    Rearrangement file
      ⟨span, SourceFile.weave (moved.map fun x => file.slice (Plan.movingSpan file last x)) joints⟩
      (es.map (piece file last)) [] joints := by
  obtain ⟨first, final, head, getLast, rfl, -⟩ := editSpan?_some stretch.edit
  have laid := laid_pieces stretch
  have headPiece : (es.map (piece file last)).head? = some (piece file last first) := by
    simp [head]
  have lastPiece : (es.map (piece file last)).getLast? = some (piece file last final) := by
    simp [getLast]
  have number : final.2 = last := by simpa [getLast] using stretch.final
  have stop : (piece file last final).stop = final.1.span.stop := by
    rw [← number, piece, movingSpan_last]
  have texts : (moved.map fun x => file.slice (Plan.movingSpan file last x)).Perm
      (Piece.texts file [] (es.map (piece file last))) := by
    rw [Piece.texts_nil_eq laid, List.map_map]
    refine (order.map _).trans (List.Perm.of_eq (List.map_congr_left fun x _ => ?_))
    simp [piece_span]
  have built := rearrangement_of_laid laid headPiece lastPiece (by simpa using count) texts (by
    intro c comment q found
    obtain ⟨x, member, rfl⟩ := List.mem_map.mp found
    exact piece_spares stretch member comment)
  rw [stop] at built
  exact built

theorem piece_tokens (stretch : Stretch file p es last span) {x : ImportEntry × Nat}
    (member : x ∈ es) {t : Token} (token : t ∈ file.tokens.toList)
    (meets : t.span.Meets (piece file last x).span) : x.1.span.contains t.span = true := by
  simp only [Span.Meets, Piece.span, piece] at meets
  rcases last_or_neighbour member with final | ⟨next, pair⟩
  · have number : x.2 = last := by simpa [final] using stretch.final
    subst number
    rw [movingSpan_last] at meets
    have own := stretch_bounds stretch member
    obtain ⟨y, found, contains⟩ := stretch_token stretch token (by
      simp only [Span.Meets]
      omega)
    have inside := contains
    simp only [Span.contains, Bool.and_eq_true, decide_eq_true_eq] at inside
    rcases ordered_disjoint (stretch_fit stretch).ordered (List.mem_map_of_mem found)
      (List.mem_map_of_mem member) with same | before | after
    · rw [← same]
      exact contains
    · omega
    · omega
  · obtain ⟨-, before, -, -⟩ := movingSpan_neighbour stretch pair
    exact neighbour_token stretch pair token (by omega) (by omega) (by omega)

theorem gap_bare (stretch : Stretch file p es last span) {a b : ImportEntry × Nat}
    (pair : [a, b] <:+: es) :
    (∀ t ∈ file.tokens.toList, ¬ t.span.Meets ⟨(piece file last a).stop, b.1.span.start⟩) ∧
      ∀ c ∈ file.comments.toList,
        ¬ c.span.Meets ⟨(piece file last a).stop, b.1.span.start⟩ := by
  obtain ⟨after, before, -, taken⟩ := movingSpan_neighbour stretch pair
  have aMember : a ∈ es := pair.subset (by simp)
  have forward := (stretch_fit stretch).ordered.forward _ (List.mem_map_of_mem aMember)
  refine ⟨?_, ?_⟩
  · intro t token meets
    simp only [Span.Meets, piece] at meets
    have contains := neighbour_token stretch pair token (by omega) (by omega) (by omega)
    simp only [Span.contains, Bool.and_eq_true, decide_eq_true_eq] at contains
    omega
  · intro c comment meets
    have left := (piece_spares stretch aMember comment).2
    have right := (piece_spares stretch (pair.subset (by simp) : b ∈ es) comment).1
    simp only [Span.Meets, Comment.Spares, piece] at meets left right
    have := taken c comment
    omega

theorem stretch_pieces (stretch : Stretch file p es last span) :
    ImportPieces file span (es.map (piece file last)) := by
  refine ⟨?_, ?_, ?_, ?_⟩
  · intro q found
    obtain ⟨x, member, rfl⟩ := List.mem_map.mp found
    exact ⟨x.1.node, stretch_declared stretch member⟩
  · intro s statement meets
    obtain ⟨x, member, same⟩ := stretch_statement stretch statement meets
    exact ⟨piece file last x, List.mem_map_of_mem member, same⟩
  · intro q found t token meets
    obtain ⟨x, member, rfl⟩ := List.mem_map.mp found
    exact piece_tokens stretch member token meets
  · intro gap found
    obtain ⟨q, q', pair, rfl⟩ := Piece.mem_gaps found
    obtain ⟨a, b, inner, rfl, rfl⟩ := pair_of_pieces pair
    exact gap_bare stretch inner

theorem joints_eq (file : SourceFile) (last : Nat) (es : List (ImportEntry × Nat)) :
    Plan.joints file last es = (Piece.gaps (es.map (piece file last))).map fun gap =>
      if (file.slice gap).contains '\n' then ['\n'] else file.slice gap := by
  fun_induction Plan.joints file last es with
  | case1 a b members gap ih => simp_all [Piece.gaps, piece, gap]
  | case2 members short =>
    cases members with
    | nil => rfl
    | cons a members =>
      cases members with
      | nil => rfl
      | cons b members => exact absurd rfl (short a b members)

end Stretches

section Weaving

theorem weave_append {xs ys joints joints' : List Text} {joint : Text}
    (count : joints.length + 1 = xs.length) :
    SourceFile.weave (xs ++ ys) (joints ++ joint :: joints') =
      SourceFile.weave xs joints ++ joint ++ SourceFile.weave ys joints' := by
  induction joints generalizing xs with
  | nil =>
    obtain ⟨x, rfl⟩ := List.length_eq_one_iff.mp count.symm
    simp [SourceFile.weave]
  | cons j joints ih =>
    cases xs with
    | nil => simp at count
    | cons x xs => simp [SourceFile.weave, ih (by simpa using count)]

theorem joinWith_eq_weave (separator : Text) {xs : List Text} (nonempty : xs ≠ []) :
    Text.joinWith separator xs =
      SourceFile.weave xs (List.replicate (xs.length - 1) separator) := by
  fun_induction Text.joinWith separator xs with
  | case1 => contradiction
  | case2 x => simp [SourceFile.weave]
  | case3 x xs more ih =>
    obtain ⟨y, ys, rfl⟩ := List.exists_cons_of_ne_nil fun empty => more empty
    rw [ih (by simp)]
    rfl

/-- The separators between the members of all groups: `inner` in a group, `outer` between groups. -/
def groupJoints {α : Type} (outer inner : Text) : List (List α) → List Text
  | [] => []
  | [group] => List.replicate (group.length - 1) inner
  | group :: groups => List.replicate (group.length - 1) inner ++ outer :: groupJoints outer inner groups

theorem length_groupJoints {α : Type} (outer inner : Text) {groups : List (List α)}
    (nonempty : groups ≠ []) (full : ∀ group ∈ groups, group ≠ []) :
    (groupJoints outer inner groups).length + 1 = groups.flatten.length := by
  fun_induction groupJoints outer inner groups with
  | case1 => contradiction
  | case2 group =>
    have := List.length_pos_iff.mpr (full group (by simp))
    simp only [List.length_replicate, List.flatten_singleton]
    omega
  | case3 group groups more ih =>
    have := List.length_pos_iff.mpr (full group (by simp))
    have rest := ih (fun empty => more empty) fun group member =>
      full group (List.mem_cons_of_mem _ member)
    simp only [List.flatten_cons, List.length_append, List.length_cons, List.length_replicate]
    omega

theorem mem_groupJoints {α : Type} {outer inner : Text} {groups : List (List α)} {joint : Text}
    (member : joint ∈ groupJoints outer inner groups) : joint = outer ∨ joint = inner := by
  fun_induction groupJoints outer inner groups with
  | case1 => simp at member
  | case2 group => exact Or.inr (List.eq_of_mem_replicate member)
  | case3 group groups more ih =>
    rcases List.mem_append.mp member with here | later
    · exact Or.inr (List.eq_of_mem_replicate here)
    · rcases List.mem_cons.mp later with same | later
      · exact Or.inl same
      · exact ih later

theorem joinWith_joinWith {α : Type} (outer inner : Text) (text : α → Text)
    {groups : List (List α)} (full : ∀ group ∈ groups, group ≠ []) :
    Text.joinWith outer (groups.map fun group => Text.joinWith inner (group.map text)) =
      SourceFile.weave (groups.flatten.map text) (groupJoints outer inner groups) := by
  fun_induction groupJoints outer inner groups with
  | case1 => rfl
  | case2 group =>
    have some : group.map text ≠ [] := by simpa using full group (by simp)
    rw [List.flatten_singleton, ← List.length_map text, ← joinWith_eq_weave inner some]
    rfl
  | case3 group groups more ih =>
    have some : group.map text ≠ [] := by simpa using full group (by simp)
    have count := List.length_pos_iff.mpr some
    obtain ⟨next, rest, rfl⟩ := List.exists_cons_of_ne_nil fun empty => more empty
    rw [List.flatten_cons, List.map_append, ← List.length_map text,
      weave_append (by rw [List.length_replicate]; omega), ← joinWith_eq_weave inner some,
      ← ih fun group member => full group (List.mem_cons_of_mem _ member)]
    rfl

end Weaving

theorem countP_replaces {file : SourceFile} {joints : List Text} {gaps : List Span}
    (replaced : List.Forall₂ (Replaces file) joints gaps) :
    (joints.map (·.countP (· != '\n'))).sum ≤
      ((gaps.map file.slice).map (·.countP (· != '\n'))).sum := by
  induction replaced with
  | nil => exact Nat.le_refl _
  | @cons joint gap joints gaps here rest ih =>
    have head : joint.countP (· != '\n') ≤ (file.slice gap).countP (· != '\n') := by
      rcases here with same | same | same
      · rw [same]
      · rw [same]
        exact Nat.zero_le _
      · rw [same]
        exact Nat.zero_le _
    simp only [List.map_cons, List.sum_cons]
    omega

theorem moves_adds_only_breaks {file : SourceFile} {e : Edit} (moves : MovesImports file e) :
    e.replacement.countP (· != '\n') ≤ (file.slice e.span).countP (· != '\n') := by
  obtain ⟨pieces, joints, moved, -, replaced⟩ := moves
  obtain ⟨texts, order, same⟩ := moved.moved
  rw [Piece.texts_nil_eq moved.laid] at order
  have count := moved.count
  have gaps : (Piece.gaps pieces).length + 1 = pieces.length := by
    rw [← replaced.length_eq, count]
  have split := @SourceFile.measure_weave (·.countP (· != '\n')) fun _ _ => List.countP_append
  rw [same, moved.split, split (by rw [order.length_eq, List.length_map, count]),
    split (by rw [List.length_map, List.length_map, gaps])]
  have pieceSum := (order.map (·.countP (· != '\n'))).sum_nat
  have jointSum := countP_replaces replaced
  omega

section Edits

variable {r : ImportOrder} {file : SourceFile} {p : Plan} {e : Edit}

theorem orderEdit?_moves (tidy : file.Tidy) (made : planOf r file = .ok p) {members : List Nat}
    (consecutive : members <:+: List.range p.imports.length)
    (edit : p.orderEdit? r file members = some e) : MovesImports file e := by
  obtain ⟨-, root, -⟩ := planOf_ok made
  obtain ⟨span, last, covers, final, rfl⟩ := Plan.orderEdit?_some edit
  have stretch : Stretch file p (p.entries members) last span :=
    { tidy
      root
      covers := planOf_covers made
      consecutive := Plan.entries_consecutive consecutive
      final := by rw [← List.getLast?_map, Plan.map_snd_entries consecutive, final]
      edit := covers }
  obtain ⟨first, -, head, -⟩ := editSpan?_some covers
  have nonempty : (p.entries members).map (piece file last) ≠ [] := by
    intro empty
    simp_all
  refine ⟨_, _, stretch_rearranges stretch (List.mergeSort_perm ..) ?_, stretch_pieces stretch, ?_⟩
  · rw [joints_eq, List.length_map, Piece.length_gaps nonempty, List.length_map]
  · rw [joints_eq, List.forall₂_map_left_iff, List.forall₂_same]
    intro gap _
    by_cases broken : (file.slice gap).contains '\n' = true
    · rw [if_pos broken]
      exact Or.inr (Or.inl rfl)
    · rw [if_neg broken]
      exact Or.inl rfl

theorem flatten_filter_nonempty {α : Type} (groups : List (List α)) :
    (groups.filter (!·.isEmpty)).flatten = groups.flatten := by
  induction groups with
  | nil => rfl
  | cons group groups ih => cases group <;> simp_all

theorem forall₂_replaces {joints : List Text} {gaps : List Span}
    (count : joints.length = gaps.length)
    (breaks : ∀ joint ∈ joints, joint = ['\n'] ∨ joint = ['\n', '\n']) :
    List.Forall₂ (Replaces file) joints gaps := by
  induction joints generalizing gaps with
  | nil =>
    rw [List.length_eq_zero_iff.mp count.symm]
    exact .nil
  | cons joint joints ih =>
    cases gaps with
    | nil => simp at count
    | cons gap gaps =>
      refine .cons (Or.inr (breaks joint (by simp))) (ih (by simpa using count) ?_)
      intro joint member
      exact breaks joint (List.mem_cons_of_mem _ member)

theorem regroupEdit?_moves (tidy : file.Tidy) (made : planOf r file = .ok p)
    (edit : p.regroupEdit? r file = some e) : MovesImports file e := by
  obtain ⟨-, root, -, -, -, -, grouped⟩ := planOf_ok made
  obtain ⟨g, span, grouping, covers, rfl⟩ := Plan.regroupEdit?_some edit
  rw [grouping] at grouped
  obtain ⟨first, final, head, getLast, -, -⟩ := editSpan?_some covers
  have stretch : Stretch file p p.imports.zipIdx (p.imports.length - 1) span :=
    { tidy
      root
      covers := planOf_covers made
      consecutive := List.infix_rfl
      final := by
        have some : 0 < p.imports.length := by
          rw [← List.length_zipIdx]
          exact List.length_pos_of_mem (List.mem_of_mem_head? head)
        rw [← List.getLast?_map, List.zipIdx_map_snd, List.getLast?_range', if_neg (by omega),
          Nat.zero_add]
      edit := covers }
  have order := Plan.buckets_perm grouped
  rw [← flatten_filter_nonempty] at order
  have nonempty : p.imports.zipIdx ≠ [] := List.ne_nil_of_mem (List.mem_of_mem_head? head)
  have full : ∀ bucket ∈ (p.buckets r g).filter (!·.isEmpty), bucket ≠ [] := by
    intro bucket kept
    simpa using (List.mem_filter.mp kept).2
  have groups : (p.buckets r g).filter (!·.isEmpty) ≠ [] := by
    intro empty
    rw [empty] at order
    exact nonempty order.nil_eq.symm
  have count := length_groupJoints ['\n', '\n'] ['\n'] groups full
  rw [order.length_eq] at count
  have gapCount : (Piece.gaps (p.imports.zipIdx.map (piece file (p.imports.length - 1)))).length +
      1 = p.imports.zipIdx.length := by
    rw [Piece.length_gaps (by simpa using nonempty), List.length_map]
  refine ⟨_, _, ?_, stretch_pieces stretch, forall₂_replaces (Nat.add_right_cancel
    (count.trans gapCount.symm)) ?_⟩
  · rw [joinWith_joinWith _ _ _ full]
    exact stretch_rearranges stretch order count
  · exact fun joint member => (mem_groupJoints member).symm

end Edits

end ScriptLint.ImportPaths
