/-!
Sets of characters as sorted tables of runs.

A run lists every code point from `first` to `last` in steps of `step`, so that an alphabet in
which capitals and small letters alternate is one entry.
-/
namespace ScriptLint

structure CharRun where
  first : Nat
  last : Nat
  step : Nat

namespace CharRun

def contains (r : CharRun) (n : Nat) : Bool :=
  r.first ≤ n && n ≤ r.last && (n - r.first) % r.step == 0

end CharRun

def inRuns (runs : Array CharRun) (c : Char) : Bool := runs.any (·.contains c.toNat)

/-- A run whose characters all move by one distance: upward when `up` is set, else downward. -/
structure ShiftRun where
  first : Nat
  last : Nat
  step : Nat
  up : Bool
  distance : Nat

namespace ShiftRun

def contains (r : ShiftRun) (n : Nat) : Bool :=
  r.first ≤ n && n ≤ r.last && (n - r.first) % r.step == 0

def apply (r : ShiftRun) (n : Nat) : Char :=
  Char.ofNat (if r.up then n + r.distance else n - r.distance)

end ShiftRun

def shift? (runs : Array ShiftRun) (c : Char) : Option Char :=
  (runs.find? (·.contains c.toNat)).map (·.apply c.toNat)

end ScriptLint
