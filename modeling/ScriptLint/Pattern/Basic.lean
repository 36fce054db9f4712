import ScriptLint.Text.Query

/-!
Regular expressions and the texts that they are found in.

A pattern moves a set of places in a text to the set of places where a match that starts at one of
them can end. A text is accepted when some match starts anywhere in it. A set of places is a number
whose bit `i` stands for the place before character `i`.
-/
namespace ScriptLint

inductive Look where
  | textStart
  | textEnd
  | lineStart (crlf : Bool)
  | lineEnd (crlf : Bool)
  | wordEdge (ascii : Bool)
  | noWordEdge (ascii : Bool)
  | wordStart (ascii : Bool)
  | wordEnd (ascii : Bool)
  | noWordBefore (ascii : Bool)
  | noWordAfter (ascii : Bool)
  deriving DecidableEq, Repr

namespace Look

def isWordChar (ascii : Bool) (c : Char) : Bool :=
  if c.toNat < 0x80 then c.isAlphanum || c == '_' else !ascii && CharSet.wordChars.contains c

def holds (l : Look) (before after : Option Char) : Bool :=
  match l with
  | textStart => before.isNone
  | textEnd => after.isNone
  | lineStart false => before.isNone || before == some '\n'
  | lineStart true =>
    before.isNone || before == some '\n' || (before == some '\r' && after != some '\n')
  | lineEnd false => after.isNone || after == some '\n'
  | lineEnd true =>
    after.isNone || after == some '\r' || (after == some '\n' && before != some '\r')
  | wordEdge ascii => before.any (isWordChar ascii) != after.any (isWordChar ascii)
  | noWordEdge ascii => before.any (isWordChar ascii) == after.any (isWordChar ascii)
  | wordStart ascii => !before.any (isWordChar ascii) && after.any (isWordChar ascii)
  | wordEnd ascii => before.any (isWordChar ascii) && !after.any (isWordChar ascii)
  | noWordBefore ascii => !before.any (isWordChar ascii)
  | noWordAfter ascii => !after.any (isWordChar ascii)

end Look

inductive Pattern where
  | empty
  | literal (t : Text)
  | one (set : CharSet)
  | look (l : Look)
  | capture (p : Pattern)
  /-- At least `least` times, and at most `most` times when there is such a limit. -/
  | repeated (least : Nat) (most : Option Nat) (p : Pattern)
  | sequence (ps : List Pattern)
  | choice (ps : List Pattern)

/-- A pattern laid over a text: of sets and conditions only the places are left where they let a
match go on. -/
inductive Motion where
  /-- To the next place, from one of these. -/
  | step (places : Nat)
  /-- Nowhere, but only at one of these places. -/
  | check (places : Nat)
  | repeated (least : Nat) (most : Option Nat) (m : Motion)
  | sequence (ms : List Motion)
  | choice (ms : List Motion)

namespace Motion

def reachBy (step : Nat → Nat) : Nat → Nat → Nat
  | 0, places => places
  | n + 1, places =>
    let next := step places
    if next = places then places else reachBy step n next

def reachWithin (step : Nat → Nat) : Nat → Nat → Nat → Nat
  | 0, seen, _ => seen
  | n + 1, seen, newest =>
    let all := seen ||| step newest
    if all = seen then seen else reachWithin step n all (all ^^^ seen)

mutual
/-- Where matches end that start at the given places. A text of `n` characters has `n + 1` places,
so that more steps than that reach nothing new. -/
def ends (n : Nat) : Motion → Nat → Nat
  | step start, places => 2 * (places &&& start)
  | check start, places => places &&& start
  | repeated least most m, places =>
    let more := match most with
      | some limit => min (limit - least) (n + 1)
      | none => n + 1
    let first := reachBy (ends n m) least places
    reachWithin (ends n m) more first first
  | sequence ms, places => endsOfAll n ms places
  | choice ms, places => endsOfAny n ms places

def endsOfAll (n : Nat) : List Motion → Nat → Nat
  | [], places => places
  | m :: ms, places => endsOfAll n ms (ends n m places)

def endsOfAny (n : Nat) : List Motion → Nat → Nat
  | [], _ => 0
  | m :: ms, places => ends n m places ||| endsOfAny n ms places
end

end Motion

namespace Pattern

def placesBefore (isIn : Char → Bool) (t : Text) : Nat :=
  t.foldr (fun c places => 2 * places + if isIn c then 1 else 0) 0

def placesOf (l : Look) : Option Char → Text → Nat
  | before, [] => if l.holds before none then 1 else 0
  | before, c :: t =>
    2 * placesOf l (some c) t + if l.holds before (some c) then 1 else 0

mutual
def layOn (text : Text) : Pattern → Motion
  | empty => .sequence []
  | literal t => .sequence (t.map fun c => .step (placesBefore (· == c) text))
  | one set => .step (placesBefore set.contains text)
  | look l => .check (placesOf l none text)
  | capture p => layOn text p
  | repeated least most p => .repeated least most (layOn text p)
  | sequence ps => .sequence (layAllOn text ps)
  | choice ps => .choice (layAllOn text ps)

def layAllOn (text : Text) : List Pattern → List Motion
  | [] => []
  | p :: ps => layOn text p :: layAllOn text ps
end

def accepts (p : Pattern) (t : Text) : Bool :=
  (p.layOn t).ends t.length (1 <<< (t.length + 1) - 1) != 0

end Pattern

end ScriptLint
