import ScriptLint.Text.CaseMap

/-!
The words of an identifier.

A name in snake case is cut at underscores, any other name at the boundaries of camel case. Both
ways of cutting keep every character, so the words of a name written one after another are the name.
-/
namespace ScriptLint

inductive WordKind where
  | normal
  | allCaps
  | digits
  | underscores
  deriving DecidableEq, Repr

structure Word where
  text : Text
  kind : WordKind
  deriving DecidableEq, Repr

namespace Word

open Text

def ofText (t : Text) : Word :=
  ⟨t, if t.all (· == '_') then .underscores
      else if t.all isDigit then .digits
      else if t.all isUpper then .allCaps
      else .normal⟩

def isJoined (p : Char → Bool) (t : Text) : Bool :=
  let pieces := t.splitOn '_'
  2 ≤ pieces.length && pieces.all fun piece => !piece.isEmpty && piece.all p

def isScreamingSnake (name : Text) : Bool :=
  isJoined (fun c => isCapital c || isDigit c) name

/-- Words of letters and digits joined by single underscores, with any number of underscores in
front and behind. -/
def isMixedSnake (name : Text) : Bool :=
  isJoined (fun c => isLetter c || isDigit c) (name.trim (· == '_'))

/-- What is known while a name is read from left to right. `done` holds the finished words, the
latest first, and `current` the characters of the unfinished one, the latest first. -/
structure Scan where
  done : List Text := []
  current : Text := []
  inCapitals : Bool := false
  afterUpper : Bool := false
  afterDigit : Bool := false

namespace Scan

def finish (s : Scan) : List Text :=
  if s.current.isEmpty then s.done else s.current.reverse :: s.done

def keep (s : Scan) (c : Char) : Scan := { s with current := c :: s.current }

def cutBefore (s : Scan) (c : Char) : Scan := { s with done := s.finish, current := [c] }

def cutEarlier (s : Scan) (c : Char) : Scan :=
  match s.current with
  | [] => s.keep c
  | last :: earlier =>
    { s with done := { s with current := earlier }.finish, current := [c, last] }

/-- A second capital opens a run of capitals. A capital outside such a run, and a digit after
something else, start a word. A small letter ends the run, and takes its last capital along. -/
def advance (s : Scan) (c : Char) : Scan :=
  if isUpper c && s.afterUpper then { s.keep c with inCapitals := true }
  else if isUpper c && !s.inCapitals && !s.current.isEmpty then s.cutBefore c
  else if isLower c && s.inCapitals then { s.cutEarlier c with inCapitals := false }
  else if isDigit c && !s.afterDigit then { s.cutBefore c with inCapitals := false }
  else s.keep c

def step (s : Scan) (c : Char) : Scan :=
  { s.advance c with afterUpper := isUpper c, afterDigit := isDigit c }

end Scan

/-- The words of a name in camel case. A run of capitals is one word up to a small letter, which
belongs to a new word with the last capital. Underscores and `$` stay with their neighbours. -/
def camelTexts (name : Text) : List Text := (name.foldl Scan.step {}).finish.reverse

def snakeTexts (name : Text) : List Text :=
  name.splitBy fun a b => (a == '_') == (b == '_')

def camel (name : Text) : List Word := (camelTexts name).map ofText

def snake (name : Text) : List Word := (snakeTexts name).map ofText

def split (name : Text) : List Word := if isMixedSnake name then snake name else camel name

end Word

end ScriptLint
