import ScriptLint.Collation
import ScriptLint.Lint.Diagnostic

/-!
Putting siblings into order.

Entries of a list are known by the span that moves and the name that they are sorted by. Two edits
sort them: one carries along the text after each entry, so that comments stay with it, and the
other leaves the text between the slots in place.
-/
namespace ScriptLint

def Collation.sort {α : Type _} (c : Collation) (entries : List (Text × α)) : List (Text × α) :=
  entries.mergeSort fun a b => !c.isAfter a.1 b.1

def Collation.order (c : Collation) (names : List Text) : List Nat :=
  (c.sort names.zipIdx).map Prod.snd

def Collation.firstInversion? (c : Collation) : List Text → Option Nat
  | a :: b :: names =>
    if c.isAfter a b then some 0 else (c.firstInversion? (b :: names)).map (· + 1)
  | _ => none

structure SortKey where
  span : Span
  name : Text
  deriving DecidableEq, Repr

namespace SourceFile

/-- Whether `right` directly follows `left`: there is at most one line break between them, or only
comments with no blank line before or after them. -/
def areAdjacent (f : SourceFile) (left right : Span) : Bool :=
  let comments := f.commentsAfter left
  match comments.head?, comments.getLast? with
  | some first, some last =>
    f.lineOf first.span.start - f.lineOf left.stop ≤ 1 &&
      f.lineOf right.start - f.lineOf last.span.stop ≤ 1
  | _, _ => f.lineOf right.start - f.lineOf left.stop ≤ 1

def adjacentRuns (f : SourceFile) (spans : List Span) : List (List Nat) :=
  (spans.zipIdx.splitBy fun a b => f.areAdjacent a.1 b.1).map (·.map Prod.snd)

def carriedTexts (f : SourceFile) (stop : Nat) (addComma : Bool) : List SortKey → List Text
  | [] => []
  | [key] =>
    [f.slice key.span ++ (if addComma then [','] else []) ++ f.slice ⟨key.span.stop, stop⟩]
  | key :: next :: keys =>
    (f.slice key.span ++ f.slice ⟨key.span.stop, next.span.start⟩) ::
      carriedTexts f stop addComma (next :: keys)

/-- Sort entries in braces so that the comma and the comments after an entry go with it. The text of
the last entry ends at the closing brace, or at the `...` of a rest element, which stays in place.
The last entry gets a comma when it has none. -/
def carryingEdit (f : SourceFile) (c : Collation) (keys : List SortKey) :
    Except LintError (Option Edit) :=
  match keys.head?, keys.getLast? with
  | some first, some last =>
    match f.punctuatorAfter? last.span.stop ['\x7d'] with
    | none => .error (.noClosingBrace last.span)
    | some closing =>
      let rest := f.punctuatorBetween? ⟨last.span.stop, closing.span.start⟩ ['.', '.', '.']
      let stop := (rest.map (·.span.start)).getD closing.span.start
      let addComma := rest.isNone && !f.hasPunctuatorBetween ⟨last.span.stop, stop⟩ [',']
      let entries := (keys.map (·.name)).zip (f.carriedTexts stop addComma keys)
      .ok (some ⟨⟨first.span.start, stop⟩, ((c.sort entries).map Prod.snd).flatten⟩)
  | _, _ => .ok none

def gaps (f : SourceFile) : List SortKey → List Text
  | key :: next :: keys => f.slice ⟨key.span.stop, next.span.start⟩ :: gaps f (next :: keys)
  | _ => []

def weave : List Text → List Text → Text
  | piece :: pieces, joint :: joints => piece ++ joint ++ weave pieces joints
  | pieces, [] => pieces.flatten
  | [], _ => []

def inPlaceEdit? (f : SourceFile) (c : Collation) (keys : List SortKey) : Option Edit :=
  match keys.head?, keys.getLast? with
  | some first, some last =>
    let entries := keys.map fun key => (key.name, f.slice key.span)
    some ⟨⟨first.span.start, last.span.stop⟩, weave ((c.sort entries).map Prod.snd) (f.gaps keys)⟩
  | _, _ => none

end SourceFile

end ScriptLint
