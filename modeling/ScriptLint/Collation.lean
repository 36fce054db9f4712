import ScriptLint.Text.Lowercase

/-!
The order of names.

Plain order compares UTF-8 bytes. With `ignoreCase` the lower case of both names is compared
instead. With `natural` a run of digits counts as the number it writes, so that `key5` comes before
`key10`, and plain order decides between names that are then still equal.
-/
namespace ScriptLint

structure Collation where
  ignoreCase : Bool := false
  natural : Bool := false
  deriving DecidableEq, Repr

namespace Collation

def isDigitByte (b : UInt8) : Bool := 48 ≤ b && b ≤ 57

def plain : List UInt8 → List UInt8 → Ordering
  | [], [] => .eq
  | [], _ :: _ => .lt
  | _ :: _, [] => .gt
  | a :: as, b :: bs => (compare a b).then (plain as bs)

def stripZeros (run : List UInt8) : List UInt8 := run.dropWhile (· == 48)

/-- Of two runs of digits without leading zeros the longer one writes the larger number. -/
def compareRuns (a b : List UInt8) : Ordering :=
  let a := stripZeros a
  let b := stripZeros b
  (compare a.length b.length).then (plain a b)

def naturalOrder : List UInt8 → List UInt8 → Ordering
  | [], [] => .eq
  | [], _ :: _ => .lt
  | _ :: _, [] => .gt
  | a :: as, b :: bs =>
    if isDigitByte a && isDigitByte b then
      (compareRuns (a :: as.takeWhile isDigitByte) (b :: bs.takeWhile isDigitByte)).then
        (naturalOrder (as.dropWhile isDigitByte) (bs.dropWhile isDigitByte))
    else (compare a b).then (naturalOrder as bs)
termination_by as => as.length
decreasing_by
  · have := (List.dropWhile_suffix isDigitByte (l := as)).length_le
    simp only [List.length_cons]
    omega
  · simp only [List.length_cons]
    omega

def compareFolded (natural : Bool) (a b : Text) : Ordering :=
  if natural then (naturalOrder a.bytes b.bytes).then (plain a.bytes b.bytes)
  else plain a.bytes b.bytes

protected def compare (c : Collation) (a b : Text) : Ordering :=
  if c.ignoreCase then compareFolded c.natural a.lowercase b.lowercase
  else compareFolded c.natural a b

def isAfter (c : Collation) (a b : Text) : Bool := c.compare a b == .gt

end Collation

end ScriptLint
