import ScriptLint.Pattern.Normal
import ScriptLint.Pattern.Octets

/-!
How much a pattern takes when it is compiled, and the limit on that.

A pattern is compiled into a machine that reads octets, once for reading forwards and once for
reading backwards. Each state takes 32 units, each choice of a successor 4 more, and each range of
octets in a state with several ranges 8 more.
-/
namespace ScriptLint.Pattern

def stateSize : Nat := 32
def choiceSize : Nat := 4
def rangeSize : Nat := 8

def forkSize : Nat := stateSize + 2 * choiceSize

structure Machine where
  setSize : CharSet → Nat
  captureSize : Nat
  /-- The order in which octets of a literal are read. -/
  octets : Text → List UInt8

def asciiSetSize (s : CharSet) : Nat := 2 * stateSize + s.ranges.length * rangeSize

/-- Forwards, places from which the same can follow are one state. -/
def forwardSetSize (s : CharSet) : Nat :=
  if s.isAscii then asciiSetSize s
  else (Octets.places 4 [Octets.ofSet s]).foldl
    (fun total runs => total + stateSize + (Octets.groupByFirst runs).length * rangeSize) stateSize

def looseSetSize (s : CharSet) : Nat :=
  if s.isAscii then asciiSetSize s
  else 2 * stateSize + Octets.branchCount [] (Octets.ofSet s) * (stateSize + rangeSize)

/-- Backwards, a state is shared by runs that have the octets up to it in common. -/
def backwardSetSize (s : CharSet) : Nat :=
  if s.isAscii then asciiSetSize s
  else
    let runs := Octets.ofSet s
    2 * stateSize + Octets.branchCount [] runs * stateSize + runs.length * choiceSize

def forward : Machine := ⟨forwardSetSize, 2 * stateSize, Text.bytes⟩

def loose : Machine := ⟨looseSetSize, 2 * stateSize, Text.bytes⟩

def backward : Machine := ⟨backwardSetSize, 0, fun t => (Text.bytes t).reverse⟩

/-- Literals merged at the front. A literal that ends where others go on divides the octets after it
into those added before and after. -/
inductive LiteralTree where
  | node (finished : List (List (UInt8 × LiteralTree))) (current : List (UInt8 × LiteralTree))

namespace LiteralTree

def leaf : LiteralTree := node [] []

def change (b : UInt8) (f : LiteralTree → LiteralTree) :
    List (UInt8 × LiteralTree) → List (UInt8 × LiteralTree)
  | [] => [(b, f leaf)]
  | (c, t) :: ts => if b = c then (c, f t) :: ts else (c, t) :: change b f ts

def add : List UInt8 → LiteralTree → LiteralTree
  | [], node finished current =>
    if current.isEmpty && finished.all (·.isEmpty) && !finished.isEmpty then node finished current
    else node (finished ++ [current]) []
  | b :: bs, node finished current => node finished (change b (add bs) current)

def isLeaf : LiteralTree → Bool
  | node finished current => current.isEmpty && finished.all (·.isEmpty)

def octetsSize (count : Nat) : Nat :=
  if count = 0 then 0
  else if count = 1 then stateSize
  else stateSize + count * rangeSize

mutual
def size : LiteralTree → Nat
  | node finished current =>
    stateSize + groupsSize finished + groupSize current + octetsSize current.length +
      choiceSize * (finished.length + (if current.isEmpty then 0 else 1))

def groupsSize : List (List (UInt8 × LiteralTree)) → Nat
  | [] => 0
  | group :: groups =>
    groupSize group + octetsSize group.length + (if group.isEmpty then 0 else choiceSize) +
      groupsSize groups

def groupSize : List (UInt8 × LiteralTree) → Nat
  | [] => 0
  | (_, t) :: ts => (if t.isLeaf then 0 else size t) + groupSize ts
end

end LiteralTree

def literal? : Pattern → Option Text
  | literal t => some t
  | _ => none

def literalsSize (m : Machine) (ts : List Text) : Nat :=
  stateSize + (ts.foldl (fun tree t => tree.add (m.octets t)) LiteralTree.leaf).size

mutual
def minLength? : Pattern → Option Nat
  | empty => some 0
  | literal t => some t.size
  | one s => s.ranges.head?.map fun r => (Char.ofNat r.first).utf8Size
  | look _ => some 0
  | capture p => minLength? p
  | repeated least _ p => (minLength? p).map (least * ·)
  | sequence ps => (minLengths? ps).map List.sum
  | choice ps => (minLengths? ps).bind List.min?

def minLengths? : List Pattern → Option (List Nat)
  | [] => some []
  | p :: ps => do return (← minLength? p) :: (← minLengths? ps)
end

def repetitionSize (least : Nat) (most : Option Nat) (isFilled : Bool) (inner : Nat) : Nat :=
  match most with
  | none =>
    if least = 0 then
      if isFilled then forkSize + inner else inner + 2 * forkSize + stateSize
    else least * inner + forkSize
  | some limit =>
    if least = 0 ∧ limit = 1 then forkSize + inner + stateSize
    else if least = limit then least * inner
    else (if least = 0 then stateSize else least * inner) + stateSize +
      (limit - least) * (forkSize + inner)

mutual
def size (m : Machine) : Pattern → Nat
  | empty => stateSize
  | literal t => t.size * stateSize
  | one s => m.setSize s
  | look _ => stateSize
  | capture p => size m p + m.captureSize
  | repeated least most p =>
    repetitionSize least most (p.minLength?.any (0 < ·)) (size m p)
  | sequence ps => sizeOfAll m ps
  | choice ps => match ps.mapM literal? with
    | some ts => literalsSize m ts
    | none => 2 * stateSize + ps.length * choiceSize + sizeOfAll m ps

def sizeOfAll (m : Machine) : List Pattern → Nat
  | [] => 0
  | p :: ps => size m p + sizeOfAll m ps
end

mutual
def startsWith (l : Look) : Pattern → Bool
  | look k => k = l
  | capture p => startsWith l p
  | repeated least _ p => 0 < least && startsWith l p
  | sequence ps => someStartsWith l ps
  | choice ps => allStartWith l ps
  | _ => false

def someStartsWith (l : Look) : List Pattern → Bool
  | [] => false
  | p :: ps => startsWith l p || (p.isVoid && someStartsWith l ps)

def allStartWith (l : Look) : List Pattern → Bool
  | [] => true
  | p :: ps => startsWith l p && allStartWith l ps
end

mutual
def endsWith (l : Look) : Pattern → Bool
  | look k => k = l
  | capture p => endsWith l p
  | repeated least _ p => 0 < least && endsWith l p
  | sequence ps => someEndsWith l ps
  | choice ps => allEndWith l ps
  | _ => false

def someEndsWith (l : Look) : List Pattern → Bool
  | [] => false
  | p :: ps => (endsWith l p && areVoid ps) || someEndsWith l ps

def allEndWith (l : Look) : List Pattern → Bool
  | [] => true
  | p :: ps => endsWith l p && allEndWith l ps
end

/-- The states around a pattern: a loop that skips what is before a match, unless a match can only
be at the end where reading begins, then the pattern as the outermost capture, and a last state. -/
def wholeSize (m : Machine) (isAnchored : Bool) (p : Pattern) : Nat :=
  (if isAnchored then stateSize else forkSize + 2 * stateSize + rangeSize) +
    (size m p + m.captureSize) + stateSize

def maxSize : Nat := 10 * 1024 * 1024

def fits (p : Pattern) : Bool :=
  p.wholeSize backward (p.endsWith .textEnd) ≤ maxSize &&
    (p.wholeSize loose (p.startsWith .textStart) ≤ maxSize ||
      p.wholeSize forward (p.startsWith .textStart) ≤ maxSize)

end ScriptLint.Pattern
