/-!
A text is a list of characters, and a place in it is an offset that counts UTF-8 bytes.

`Text.cut?` divides a text at an offset. It refuses an offset past the end and one inside a
character, and every other look at a range of a text goes through it.
-/
namespace ScriptLint

abbrev Text := List Char

/-- The offsets from `start` up to, but without, `stop`. -/
structure Span where
  start : Nat
  stop : Nat
  deriving DecidableEq, Repr, Inhabited

namespace Span

def isEmpty (s : Span) : Bool := s.stop ≤ s.start

def contains (outer inner : Span) : Bool :=
  outer.start ≤ inner.start && inner.stop ≤ outer.stop

def describe (s : Span) : String := s!"{s.start}..{s.stop}"

end Span

namespace Text

def size : Text → Nat
  | [] => 0
  | c :: t => c.utf8Size + size t

def cut? : Nat → Text → Option (Text × Text)
  | 0, t => some ([], t)
  | _ + 1, [] => none
  | n + 1, c :: t =>
    if c.utf8Size ≤ n + 1 then
      (cut? (n + 1 - c.utf8Size) t).map fun parts => (c :: parts.1, parts.2)
    else none

def isBoundary (n : Nat) (t : Text) : Bool := (cut? n t).isSome

def before (n : Nat) (t : Text) : Text := ((cut? n t).map Prod.fst).getD t

def after (n : Nat) (t : Text) : Text := ((cut? n t).map Prod.snd).getD []

def slice? (t : Text) (s : Span) : Option Text :=
  if s.start ≤ s.stop then do
    let (_, rest) ← cut? s.start t
    let (piece, _) ← cut? (s.stop - s.start) rest
    return piece
  else none

/-- The characters of a range, and nothing when the range is no range of this text. -/
def slice (t : Text) (s : Span) : Text := (slice? t s).getD []

def splitOn (sep : Char) : Text → List Text
  | [] => [[]]
  | c :: t =>
    if c = sep then [] :: splitOn sep t
    else match splitOn sep t with
      | [] => [[c]]
      | piece :: pieces => (c :: piece) :: pieces

/-- The lines of a text. A line ends with `\n` or `\r\n`, which do not belong to it, and the last
line need not be ended. -/
def lines : Text → List Text
  | [] => []
  | '\n' :: t => [] :: lines t
  | '\r' :: '\n' :: t => [] :: lines t
  | c :: t => match lines t with
    | [] => [[c]]
    | line :: rest => (c :: line) :: rest

def stripPrefix? : Text → Text → Option Text
  | [], t => some t
  | _ :: _, [] => none
  | p :: ps, c :: t => if p = c then stripPrefix? ps t else none

def stripSuffix? (suffix t : Text) : Option Text :=
  (stripPrefix? suffix.reverse t.reverse).map List.reverse

def trimEnd (p : Char → Bool) (t : Text) : Text := (t.reverse.dropWhile p).reverse

def trim (p : Char → Bool) (t : Text) : Text := trimEnd p (t.dropWhile p)

def joinWith (separator : Text) : List Text → Text
  | [] => []
  | [t] => t
  | t :: ts => t ++ separator ++ joinWith separator ts

def bytes (t : Text) : List UInt8 := t.flatMap String.utf8EncodeChar

end Text

end ScriptLint
