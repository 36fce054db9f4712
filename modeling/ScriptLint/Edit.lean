import ScriptLint.Text.Basic

/-!
Edits of a text.

An edit replaces a span of the text by other characters. A list of edits is checked as a whole:
each edit has to fit the text, and no two may overlap. The edits are then applied from the last one
to the first one, so that the offsets of those still to come stay right.
-/
namespace ScriptLint

structure Edit where
  span : Span
  replacement : Text
  deriving DecidableEq, Repr

inductive EditError where
  | overlapping (offset : Nat)
  | outOfBounds (start stop size : Nat)
  | reversed (start stop : Nat)
  | splitsCharacter (offset : Nat)
  deriving DecidableEq, Repr

def EditError.message : EditError → String
  | overlapping offset => s!"overlapping edits at byte {offset}"
  | outOfBounds start stop size => s!"edit range [{start}..{stop}) exceeds source length {size}"
  | reversed start stop => s!"edit start {start} is after edit end {stop}"
  | splitsCharacter offset => s!"edit boundary {offset} splits a character"

namespace Edit

/-- Each of the two starts before the other stops, or both start at one place. -/
def overlaps (a b : Edit) : Bool :=
  (a.span.start < b.span.stop && b.span.start < a.span.stop) || a.span.start == b.span.start

def check (text : Text) (e : Edit) : Except EditError Unit :=
  if e.span.stop < e.span.start then .error (.reversed e.span.start e.span.stop)
  else if text.size < e.span.stop then
    .error (.outOfBounds e.span.start e.span.stop text.size)
  else if !text.isBoundary e.span.start then .error (.splitsCharacter e.span.start)
  else if !text.isBoundary e.span.stop then .error (.splitsCharacter e.span.stop)
  else .ok ()

def checkEach (text : Text) : List Edit → Except EditError Unit
  | [] => .ok ()
  | e :: es => match check text e with
    | .ok () => checkEach text es
    | .error cause => .error cause

def startsBefore (a b : Edit) : Bool :=
  a.span.start < b.span.start || (a.span.start == b.span.start && a.span.stop ≤ b.span.stop)

def checkNeighbours : List Edit → Except EditError Unit
  | a :: b :: es =>
    if a.overlaps b then .error (.overlapping b.span.start) else checkNeighbours (b :: es)
  | _ => .ok ()

/-- The first edit that does not fit is the one reported; overlaps are looked for only when all
edits fit. -/
def checkAll (text : Text) (es : List Edit) : Except EditError Unit :=
  match checkEach text es with
  | .ok () => checkNeighbours (es.mergeSort startsBefore)
  | .error cause => .error cause

def splice (text : Text) (e : Edit) : Text :=
  text.before e.span.start ++ e.replacement ++ text.after e.span.stop

def startsAfter (a b : Edit) : Bool := b.span.start ≤ a.span.start

def applyAll (text : Text) (es : List Edit) : Except EditError Text :=
  match es with
  | [] => .ok text
  | es => match checkAll text es with
    | .ok () => .ok ((es.mergeSort startsAfter).foldl splice text)
    | .error cause => .error cause

end Edit

end ScriptLint
