import ScriptLint.Proofs.BinarySearch
import ScriptLint.Proofs.Lists
import ScriptLint.Source

/-!
Neighbours of a place in a source file.

As long as tokens and comments are in order and do not overlap, each question that binary search
answers has a plain meaning: the tokens from an offset on, the comments between two offsets, and the
comments between a span and the next token or the one before it.
-/
namespace ScriptLint

/-- Spans in order that share no offset. -/
structure Ordered (spans : List Span) : Prop where
  forward : ∀ s ∈ spans, s.start ≤ s.stop
  apart : spans.Pairwise fun a b => a.stop ≤ b.start

instance (spans : List Span) : Decidable (Ordered spans) :=
  decidable_of_iff
    ((∀ s ∈ spans, s.start ≤ s.stop) ∧ spans.Pairwise fun a b => a.stop ≤ b.start)
    ⟨fun h => ⟨h.1, h.2⟩, fun h => ⟨h.forward, h.apart⟩⟩

theorem ordered_sublist {spans kept : List Span} (ordered : Ordered spans)
    (sub : kept.Sublist spans) : Ordered kept :=
  ⟨fun s member => ordered.forward s (sub.subset member), ordered.apart.sublist sub⟩

theorem ordered_starts {spans : List Span} (ordered : Ordered spans) :
    spans.Pairwise fun a b => a.start ≤ b.start :=
  ordered.apart.imp_of_mem fun first _ apart => Nat.le_trans (ordered.forward _ first) apart

theorem ordered_stops {spans : List Span} (ordered : Ordered spans) :
    spans.Pairwise fun a b => a.stop ≤ b.stop :=
  ordered.apart.imp_of_mem fun _ last apart => Nat.le_trans apart (ordered.forward _ last)

theorem ordered_le_last {spans : List Span} {last : Span} (ordered : Ordered spans)
    (final : spans.getLast? = some last) {s : Span} (member : s ∈ spans) : s.stop ≤ last.stop := by
  obtain ⟨front, rfl⟩ := List.getLast?_eq_some_iff.mp final
  rcases List.mem_append.mp member with earlier | same
  · exact (List.pairwise_append.mp (ordered_stops ordered)).2.2 s earlier last (by simp)
  · exact Nat.le_of_eq (congrArg Span.stop (List.mem_singleton.mp same))

theorem ordered_first_le {spans : List Span} {first : Span} (ordered : Ordered spans)
    (head : spans.head? = some first) {s : Span} (member : s ∈ spans) : first.start ≤ s.start := by
  obtain ⟨rest, rfl⟩ := List.head?_eq_some_iff.mp head
  rcases List.mem_cons.mp member with same | later
  · exact Nat.le_of_eq (congrArg Span.start same.symm)
  · exact (List.pairwise_cons.mp (ordered_starts ordered)).1 s later

theorem ordered_disjoint {spans : List Span} (ordered : Ordered spans) {a b : Span}
    (left : a ∈ spans) (right : b ∈ spans) : a = b ∨ a.stop ≤ b.start ∨ b.stop ≤ a.start :=
  pairwise_cases ordered.apart left right

theorem ordered_neighbours {spans : List Span} (ordered : Ordered spans) {a b : Span}
    (pair : [a, b] <:+: spans) {s : Span} (member : s ∈ spans) :
    s.stop ≤ a.start ∨ s = a ∨ s = b ∨ b.stop ≤ s.start := by
  obtain ⟨front, rest, rfl⟩ := pair
  obtain ⟨upper, -, after⟩ := List.pairwise_append.mp ordered.apart
  obtain ⟨-, -, before⟩ := List.pairwise_append.mp upper
  rcases List.mem_append.mp member with inner | later
  · rcases List.mem_append.mp inner with earlier | here
    · exact Or.inl (before s earlier a (by simp))
    · simp only [List.mem_cons, List.not_mem_nil, or_false] at here
      exact Or.inr (here.imp_right Or.inl)
  · exact Or.inr (Or.inr (Or.inr (after b (by simp) s later)))

theorem ordered_pair {spans : List Span} (ordered : Ordered spans) {a b : Span}
    (pair : [a, b] <:+: spans) : a.stop ≤ b.start := by
  have apart := ordered.apart.sublist pair.sublist
  exact (List.pairwise_cons.mp apart).1 b (by simp)

structure Separate (spans : List Span) : Prop where
  filled : ∀ s ∈ spans, s.start < s.stop
  apart : spans.Pairwise fun a b => a.stop ≤ b.start

instance (spans : List Span) : Decidable (Separate spans) :=
  decidable_of_iff
    ((∀ s ∈ spans, s.start < s.stop) ∧ spans.Pairwise fun a b => a.stop ≤ b.start)
    ⟨fun h => ⟨h.1, h.2⟩, fun h => ⟨h.filled, h.apart⟩⟩

theorem Separate.ordered {spans : List Span} (separate : Separate spans) : Ordered spans :=
  ⟨fun s member => Nat.le_of_lt (separate.filled s member), separate.apart⟩

theorem Separate.sublist {spans kept : List Span} (separate : Separate spans)
    (sub : kept.Sublist spans) : Separate kept :=
  ⟨fun s member => separate.filled s (sub.subset member), separate.apart.sublist sub⟩

theorem Separate.nodup {spans : List Span} (separate : Separate spans) : spans.Nodup := by
  refine separate.apart.imp_of_mem fun first _ apart same => ?_
  have filled := separate.filled _ first
  rw [← same] at apart
  omega

theorem Separate.first_lt_last {spans : List Span} {first last : Span} (separate : Separate spans)
    (head : spans.head? = some first) (final : spans.getLast? = some last) :
    first.start < last.stop := by
  have member := List.mem_of_head? head
  exact Nat.lt_of_lt_of_le (separate.filled first member)
    (ordered_le_last separate.ordered final member)

namespace SourceFile

def TokensOrdered (f : SourceFile) : Prop := Ordered (f.tokens.toList.map (·.span))

def CommentsOrdered (f : SourceFile) : Prop := Ordered (f.comments.toList.map (·.span))

instance (f : SourceFile) : Decidable f.TokensOrdered := inferInstanceAs (Decidable (Ordered _))

instance (f : SourceFile) : Decidable f.CommentsOrdered := inferInstanceAs (Decidable (Ordered _))

/-- Where the first token starts that does not start before an offset, or the end of the text. -/
def nextTokenStart (f : SourceFile) (offset : Nat) : Nat :=
  ((f.tokens.toList.find? fun t => offset ≤ t.span.start).map (·.span.start)).getD f.text.size

/-- Where the last token stops that does not reach past an offset, or the start of the text. -/
def previousTokenStop (f : SourceFile) (offset : Nat) : Nat :=
  ((f.tokens.toList.filter fun t => t.span.stop ≤ offset).getLast?.map (·.span.stop)).getD 0

theorem token_starts {f : SourceFile} (ordered : f.TokensOrdered) :
    f.tokens.toList.Pairwise fun a b => a.span.start ≤ b.span.start := by
  have starts := List.pairwise_map.mp (ordered_starts ordered)
  exact starts

theorem tokens_partitioned_by_start {f : SourceFile} (ordered : f.TokensOrdered) (offset : Nat) :
    Partitioned (fun t : Token => decide (t.span.start < offset)) f.tokens.toList := by
  refine (token_starts ordered).imp ?_
  simp only [decide_eq_true_eq]
  omega

theorem tokens_partitioned_by_stop {f : SourceFile} (ordered : f.TokensOrdered) (offset : Nat) :
    Partitioned (fun t : Token => decide (t.span.stop ≤ offset)) f.tokens.toList := by
  refine (List.pairwise_map.mp (ordered_stops ordered)).imp ?_
  simp only [decide_eq_true_eq]
  omega

theorem tokensFrom_eq {f : SourceFile} (ordered : f.TokensOrdered) (offset : Nat) :
    f.tokensFrom offset = f.tokens.toList.filter fun t => offset ≤ t.span.start := by
  rw [tokensFrom, drop_partitionPoint (tokens_partitioned_by_start ordered offset)]
  refine List.filter_congr fun t _ => ?_
  simp only [← decide_not, Nat.not_lt]

theorem commentsWithin_eq {f : SourceFile} (ordered : f.CommentsOrdered) (start stop : Nat) :
    f.commentsWithin start stop =
      f.comments.toList.filter fun c => start ≤ c.span.start && c.span.stop ≤ stop := by
  have first :
      Partitioned (fun c : Comment => decide (c.span.start < start)) f.comments.toList := by
    refine (List.pairwise_map.mp (ordered_starts ordered)).imp ?_
    simp only [decide_eq_true_eq]
    omega
  have last : Partitioned (fun c : Comment => decide (c.span.stop ≤ stop)) f.comments.toList := by
    refine (List.pairwise_map.mp (ordered_stops ordered)).imp ?_
    simp only [decide_eq_true_eq]
    omega
  rw [commentsWithin, extract_partitionPoint first last]
  refine List.filter_congr fun c _ => ?_
  simp only [← decide_not, Nat.not_lt]

theorem tokens_at_partitionPoint {f : SourceFile} (ordered : f.TokensOrdered) (offset : Nat) :
    f.tokens[partitionPoint f.tokens (·.span.start < offset)]? =
      f.tokens.toList.find? fun t => offset ≤ t.span.start := by
  have from_offset := tokensFrom_eq ordered offset
  rw [← List.head?_filter, ← from_offset, tokensFrom, List.head?_drop, Array.getElem?_toList]

theorem commentsAfter_eq {f : SourceFile} (tokens : f.TokensOrdered)
    (comments : f.CommentsOrdered) (s : Span) :
    f.commentsAfter s = f.comments.toList.filter fun c =>
      s.stop ≤ c.span.start && c.span.stop ≤ f.nextTokenStart s.stop := by
  rw [commentsAfter, tokens_at_partitionPoint tokens, commentsWithin_eq comments, nextTokenStart]

theorem commentsBefore_eq {f : SourceFile} (tokens : f.TokensOrdered)
    (comments : f.CommentsOrdered) (s : Span) :
    f.commentsBefore s = f.comments.toList.filter fun c =>
      f.previousTokenStop s.start ≤ c.span.start && c.span.stop ≤ s.start := by
  have floor := getLast?_filter_partitionPoint (tokens_partitioned_by_stop tokens s.start)
  rw [commentsBefore, commentsWithin_eq comments, previousTokenStop, floor]
  split <;> rfl

theorem find?_start_le {tokens : List Token} {p : Token → Bool} {t t' : Token}
    (starts : tokens.Pairwise fun a b => a.span.start ≤ b.span.start)
    (found : tokens.find? p = some t) (member : t' ∈ tokens) (holds : p t' = true) :
    t.span.start ≤ t'.span.start := by
  obtain ⟨-, front, rest, rfl, before⟩ := List.find?_eq_some_iff_append.mp found
  rcases List.mem_append.mp member with earlier | here
  · have := before t' earlier
    simp [holds] at this
  · rcases List.mem_cons.mp here with same | later
    · exact Nat.le_of_eq (congrArg (·.span.start) same.symm)
    · exact (List.pairwise_cons.mp (List.pairwise_append.mp starts).2.1).1 t' later

theorem nextTokenStart_le {f : SourceFile} (ordered : f.TokensOrdered) {offset : Nat} {t : Token}
    (member : t ∈ f.tokens.toList) (late : offset ≤ t.span.start) :
    f.nextTokenStart offset ≤ t.span.start := by
  have present : (f.tokens.toList.find? fun t => offset ≤ t.span.start).isSome :=
    List.find?_isSome.mpr ⟨t, member, decide_eq_true late⟩
  obtain ⟨u, found⟩ := Option.isSome_iff_exists.mp present
  rw [nextTokenStart, found]
  exact find?_start_le (token_starts ordered) found member (decide_eq_true late)

theorem nextTokenStart_eq {f : SourceFile} (ordered : f.TokensOrdered) {offset : Nat} {next : Token}
    (member : next ∈ f.tokens.toList) (after : offset ≤ next.span.start)
    (first : ∀ t ∈ f.tokens.toList, offset ≤ t.span.start → next.span.start ≤ t.span.start) :
    f.nextTokenStart offset = next.span.start := by
  refine Nat.le_antisymm (nextTokenStart_le ordered member after) ?_
  unfold nextTokenStart
  cases found : f.tokens.toList.find? fun t => offset ≤ t.span.start with
  | none => simpa [after] using List.find?_eq_none.mp found next member
  | some t =>
    have holds := List.find?_some found
    exact first t (List.mem_of_find?_eq_some found) (of_decide_eq_true holds)

theorem previousTokenStop_cases (f : SourceFile) (offset : Nat) : f.previousTokenStop offset = 0 ∨
    ∃ t ∈ f.tokens.toList, t.span.stop ≤ offset ∧ f.previousTokenStop offset = t.span.stop := by
  unfold previousTokenStop
  cases last : (f.tokens.toList.filter fun t => t.span.stop ≤ offset).getLast? with
  | none => exact Or.inl rfl
  | some t =>
    obtain ⟨member, early⟩ := List.mem_filter.mp (List.mem_of_getLast? last)
    exact Or.inr ⟨t, member, of_decide_eq_true early, rfl⟩

theorem previousTokenStop_le (f : SourceFile) (offset : Nat) :
    f.previousTokenStop offset ≤ offset := by
  rcases f.previousTokenStop_cases offset with none | ⟨t, -, early, same⟩ <;> omega

theorem le_previousTokenStop {f : SourceFile} (ordered : f.TokensOrdered) {offset : Nat} {t : Token}
    (member : t ∈ f.tokens.toList) (early : t.span.stop ≤ offset) :
    t.span.stop ≤ f.previousTokenStop offset := by
  have kept : t ∈ f.tokens.toList.filter fun t => t.span.stop ≤ offset :=
    List.mem_filter.mpr ⟨member, decide_eq_true early⟩
  have sub : (f.tokens.toList.filter fun t => t.span.stop ≤ offset).map (·.span) |>.Sublist
      (f.tokens.toList.map (·.span)) := List.filter_sublist.map _
  unfold previousTokenStop
  cases last : (f.tokens.toList.filter fun t => t.span.stop ≤ offset).getLast? with
  | none => simp [List.getLast?_eq_none_iff.mp last] at kept
  | some u =>
    exact ordered_le_last (ordered_sublist ordered sub) (by simp [last]) (List.mem_map_of_mem kept)

theorem previousTokenStop_mono {f : SourceFile} (ordered : f.TokensOrdered) {m n : Nat}
    (le : m ≤ n) : f.previousTokenStop m ≤ f.previousTokenStop n := by
  rcases f.previousTokenStop_cases m with none | ⟨t, member, early, same⟩
  · omega
  · rw [same]
    exact le_previousTokenStop ordered member (Nat.le_trans early le)

theorem le_nextTokenStart {f : SourceFile} {offset : Nat} (inside : offset ≤ f.text.size) :
    offset ≤ f.nextTokenStart offset := by
  unfold nextTokenStart
  cases found : f.tokens.toList.find? fun t => offset ≤ t.span.start with
  | none => exact inside
  | some t =>
    have holds := List.find?_some found
    exact of_decide_eq_true holds

theorem punctuatorAfter?_eq {f : SourceFile} (ordered : f.TokensOrdered) (offset : Nat)
    (mark : Text) : f.punctuatorAfter? offset mark =
      f.tokens.toList.find? fun t => offset ≤ t.span.start && f.isPunctuator mark t := by
  rw [punctuatorAfter?, tokensFrom_eq ordered, List.find?_filter]
  simp

theorem punctuatorBetween?_eq {f : SourceFile} (ordered : f.TokensOrdered) (s : Span)
    (mark : Text) : f.punctuatorBetween? s mark =
      f.tokens.toList.find? fun t => s.contains t.span && f.isPunctuator mark t := by
  have partitioned : Partitioned (fun t : Token => decide (t.span.stop ≤ s.stop))
      (f.tokensFrom s.start) := by
    rw [tokensFrom_eq ordered]
    refine ((List.pairwise_map.mp (ordered_stops ordered)).sublist List.filter_sublist).imp ?_
    simp only [decide_eq_true_eq]
    omega
  rw [punctuatorBetween?, takeWhile_eq_filter partitioned, tokensFrom_eq ordered,
    List.filter_filter, List.find?_filter]
  simp [Span.contains, Bool.and_comm]

theorem punctuatorAfter?_some {f : SourceFile} (ordered : f.TokensOrdered) {offset : Nat}
    {mark : Text} {t : Token} (found : f.punctuatorAfter? offset mark = some t) :
    t ∈ f.tokens.toList ∧ offset ≤ t.span.start := by
  rw [punctuatorAfter?_eq ordered] at found
  have holds := List.find?_some found
  rw [Bool.and_eq_true, decide_eq_true_eq] at holds
  exact ⟨List.mem_of_find?_eq_some found, holds.1⟩

theorem punctuatorBetween?_some {f : SourceFile} (ordered : f.TokensOrdered) {s : Span}
    {mark : Text} {t : Token} (found : f.punctuatorBetween? s mark = some t) :
    t ∈ f.tokens.toList ∧ s.start ≤ t.span.start ∧ t.span.stop ≤ s.stop := by
  rw [punctuatorBetween?_eq ordered] at found
  have holds := List.find?_some found
  simp only [Span.contains, Bool.and_eq_true, decide_eq_true_eq] at holds
  exact ⟨List.mem_of_find?_eq_some found, holds.1⟩

theorem punctuatorAfter?_first {f : SourceFile} (ordered : f.TokensOrdered) {offset : Nat}
    {mark : Text} {t t' : Token} (found : f.punctuatorAfter? offset mark = some t)
    (member : t' ∈ f.tokens.toList) (marked : f.isPunctuator mark t' = true)
    (after : offset ≤ t'.span.start) : t.span.start ≤ t'.span.start := by
  rw [punctuatorAfter?_eq ordered] at found
  exact find?_start_le (token_starts ordered) found member (by simp [after, marked])

theorem exists_punctuatorBetween? {f : SourceFile} (ordered : f.TokensOrdered) {s : Span}
    {mark : Text} {t' : Token} (member : t' ∈ f.tokens.toList)
    (marked : f.isPunctuator mark t' = true) (after : s.start ≤ t'.span.start)
    (before : t'.span.stop ≤ s.stop) :
    ∃ t, f.punctuatorBetween? s mark = some t ∧ t.span.start ≤ t'.span.start := by
  have holds : (s.contains t'.span && f.isPunctuator mark t') = true := by
    simp [Span.contains, after, before, marked]
  have present : (f.tokens.toList.find? fun t =>
      s.contains t.span && f.isPunctuator mark t).isSome = true :=
    List.find?_isSome.mpr ⟨t', member, holds⟩
  obtain ⟨t, found⟩ := Option.isSome_iff_exists.mp present
  rw [punctuatorBetween?_eq ordered]
  exact ⟨t, found, find?_start_le (token_starts ordered) found member holds⟩

end SourceFile

end ScriptLint
