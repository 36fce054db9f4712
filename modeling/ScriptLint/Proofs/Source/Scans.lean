import Mathlib
import ScriptLint.Proofs.Reordering.Sorting

/-!
Questions about the neighbourhood of a place, answered by scans.

While tokens and comments are in order, every answer that is found by binary search is the one that
a scan of the whole file gives, for offsets and spans of any kind. No search leads outside of the
entries that it looks at, in whatever order they are.
-/
namespace ScriptLint

namespace SourceFile

variable {f : SourceFile}

def checkedCommentsWithin (f : SourceFile) (start stop : Nat) : Option (List Comment) :=
  let first := partitionPoint f.comments (·.span.start < start)
  let last := partitionPoint f.comments (·.span.stop ≤ stop)
  if last ≤ first then some []
  else if last ≤ f.comments.size then some (f.comments.extract first last).toList
  else none

def checkedCommentsBefore (f : SourceFile) (s : Span) : Option (List Comment) := do
  let count := partitionPoint f.tokens (·.span.stop ≤ s.start)
  let floor ← if count = 0 then some 0 else (f.tokens[count - 1]?).map (·.span.stop)
  f.checkedCommentsWithin floor s.start

def checkedTokensFrom (f : SourceFile) (offset : Nat) : Option (List Token) :=
  let count := partitionPoint f.tokens (·.span.start < offset)
  if count ≤ f.tokens.size then some (f.tokens.toList.drop count) else none

theorem checkedCommentsWithin_eq (f : SourceFile) (start stop : Nat) :
    f.checkedCommentsWithin start stop = some (f.commentsWithin start stop) := by
  rw [checkedCommentsWithin, commentsWithin]
  split
  · rename_i crossed
    rw [Array.extract_empty_of_stop_le_start crossed]
  · rw [if_pos (partitionPoint_le ..)]

theorem checkedCommentsBefore_eq (f : SourceFile) (s : Span) :
    f.checkedCommentsBefore s = some (f.commentsBefore s) := by
  have bound := partitionPoint_le f.tokens (·.span.stop ≤ s.start)
  simp only [checkedCommentsBefore, commentsBefore, checkedCommentsWithin_eq]
  split
  · rfl
  · rw [Array.getElem?_eq_getElem (by omega)]
    rfl

theorem checkedTokensFrom_eq (f : SourceFile) (offset : Nat) :
    f.checkedTokensFrom offset = some (f.tokensFrom offset) :=
  if_pos (partitionPoint_le ..)

/-- When tokens and comments are in order, the questions about a place are answered as by scans of
the whole file, wherever the place is, and no look-up fails on the way. -/
theorem queries_are_scans (tokens : f.TokensOrdered) (comments : f.CommentsOrdered) :
    (∀ s, f.commentsAfter s = f.comments.toList.filter fun c =>
      s.stop ≤ c.span.start && c.span.stop ≤ f.nextTokenStart s.stop) ∧
    (∀ s, f.commentsBefore s = f.comments.toList.filter fun c =>
      f.previousTokenStop s.start ≤ c.span.start && c.span.stop ≤ s.start) ∧
    (∀ offset mark, f.punctuatorAfter? offset mark = f.tokens.toList.find? fun t =>
      offset ≤ t.span.start && f.isPunctuator mark t) ∧
    (∀ s mark, f.punctuatorBetween? s mark = f.tokens.toList.find? fun t =>
      s.contains t.span && f.isPunctuator mark t) ∧
    (∀ start stop, f.checkedCommentsWithin start stop = some (f.commentsWithin start stop)) ∧
    (∀ s, f.checkedCommentsBefore s = some (f.commentsBefore s)) ∧
    ∀ offset, f.checkedTokensFrom offset = some (f.tokensFrom offset) :=
  ⟨commentsAfter_eq tokens comments, commentsBefore_eq tokens comments, punctuatorAfter?_eq tokens,
    punctuatorBetween?_eq tokens, f.checkedCommentsWithin_eq, f.checkedCommentsBefore_eq,
    f.checkedTokensFrom_eq⟩

def commentedCall : SourceFile :=
  .plainFile "f(`$\x7b/*x*/a\x7d`,b);//y".toList
    [⟨.identifier, ⟨0, 1⟩⟩, ⟨.punctuator, ⟨1, 2⟩⟩, ⟨.template, ⟨2, 13⟩⟩, ⟨.punctuator, ⟨13, 14⟩⟩,
      ⟨.identifier, ⟨14, 15⟩⟩, ⟨.punctuator, ⟨15, 16⟩⟩, ⟨.punctuator, ⟨16, 17⟩⟩]
    [⟨.block, ⟨5, 10⟩⟩, ⟨.line, ⟨17, 20⟩⟩]

/-- From inside the template its comment is seen, also from a reversed span. The mark that is looked
for touches its neighbours, and the span that it is looked for in ends behind the text. -/
theorem queries_are_scans_template :
    commentedCall.TokensOrdered ∧ commentedCall.CommentsOrdered ∧
      commentedCall.commentsAfter ⟨9, 4⟩ = [⟨.block, ⟨5, 10⟩⟩] ∧
      commentedCall.commentsBefore ⟨12, 3⟩ = [⟨.block, ⟨5, 10⟩⟩] ∧
      commentedCall.punctuatorAfter? 3 [','] = some ⟨.punctuator, ⟨13, 14⟩⟩ ∧
      commentedCall.punctuatorBetween? ⟨14, 99⟩ [')'] = some ⟨.punctuator, ⟨15, 16⟩⟩ ∧
      commentedCall.checkedCommentsBefore ⟨12, 3⟩ = some (commentedCall.commentsBefore ⟨12, 3⟩) ∧
      commentedCall.checkedTokensFrom 99 = some (commentedCall.tokensFrom 99) := by
  have tokens : commentedCall.TokensOrdered := by decide
  have comments : commentedCall.CommentsOrdered := by decide
  obtain ⟨after, before, next, between, -, checked, checked'⟩ := queries_are_scans tokens comments
  refine ⟨tokens, comments, ?_, ?_, ?_, ?_, checked _, checked' _⟩
  · rw [after]
    decide
  · rw [before]
    decide
  · rw [next]
    decide
  · rw [between]
    decide

end SourceFile

end ScriptLint
