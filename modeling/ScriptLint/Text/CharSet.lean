import ScriptLint.Text.Digits

/-!
Sets of characters as ranges of code points.

The ranges of a set ascend, there is a gap between neighbours, and no surrogate is in them. A table
of ranges is written in hexadecimal words: `41-5A` from end to end, `AA` alone, and `100-12E/2` in
steps.
-/
namespace ScriptLint

structure CharRange where
  first : Nat
  last : Nat
  deriving DecidableEq, Repr

structure CharSet where
  ranges : List CharRange
  deriving DecidableEq, Repr

namespace CharSet

def empty : CharSet := ⟨[]⟩

def isEmpty (s : CharSet) : Bool := s.ranges.isEmpty

def inRanges (n : Nat) : List CharRange → Bool
  | [] => false
  | r :: rs => r.first ≤ n && (n ≤ r.last || inRanges n rs)

def contains (s : CharSet) (c : Char) : Bool := inRanges c.toNat s.ranges

def joinFrom (r : CharRange) : List CharRange → List CharRange
  | [] => [r]
  | q :: rs =>
    if q.first ≤ r.last + 1 then joinFrom ⟨r.first, max r.last q.last⟩ rs
    else r :: joinFrom q rs

def ofRanges (rs : List CharRange) : CharSet :=
  match rs.mergeSort fun r q => r.first ≤ q.first with
  | [] => empty
  | r :: rs => ⟨joinFrom r rs⟩

def lastChar : Nat := 0x10FFFF

def gapsFrom (next : Nat) : List CharRange → List CharRange
  | [] => if next ≤ lastChar then [⟨next, lastChar⟩] else []
  | r :: rs =>
    if next < r.first then ⟨next, r.first - 1⟩ :: gapsFrom (r.last + 1) rs
    else gapsFrom (r.last + 1) rs

def surrogates : CharRange := ⟨0xD800, 0xDFFF⟩

def compl (s : CharSet) : CharSet := ⟨gapsFrom 0 (ofRanges (surrogates :: s.ranges)).ranges⟩

def all : CharSet := empty.compl

def union (s t : CharSet) : CharSet := ofRanges (s.ranges ++ t.ranges)

def inter (s t : CharSet) : CharSet := (s.compl.union t.compl).compl

def diff (s t : CharSet) : CharSet := (s.compl.union t).compl

def symmDiff (s t : CharSet) : CharSet := (s.union t).diff (s.inter t)

def unions (sets : List CharSet) : CharSet := ofRanges (sets.flatMap (·.ranges))

def ofRange (first last : Char) : CharSet := all.inter ⟨[⟨first.toNat, last.toNat⟩]⟩

def singleton (c : Char) : CharSet := ⟨[⟨c.toNat, c.toNat⟩]⟩

def ofChars (cs : List Char) : CharSet := ofRanges (cs.map fun c => ⟨c.toNat, c.toNat⟩)

def single? (s : CharSet) : Option Char :=
  match s.ranges with
  | [r] => if r.first = r.last then some (Char.ofNat r.first) else none
  | _ => none

def isAscii (s : CharSet) : Bool := s.ranges.all (·.last < 0x80)

def stepped (first last step : Nat) : List CharRange :=
  (List.range ((last - first) / step + 1)).map fun i => ⟨first + i * step, first + i * step⟩

def tableRanges (word : Text) : List CharRange :=
  let code (digits : Text) : Nat := (Text.number? 16 digits).getD 0
  match Text.splitOn '/' word with
  | [run] => match Text.splitOn '-' run with
    | [first, last] => [⟨code first, code last⟩]
    | _ => [⟨code run, code run⟩]
  | [run, step] => match Text.splitOn '-' run with
    | [first, last] => stepped (code first) (code last) (code step)
    | _ => []
  | _ => []

def ofTable (lines : List String) : CharSet :=
  ofRanges (lines.flatMap fun line => (Text.splitOn ' ' line.toList).flatMap tableRanges)

end CharSet

end ScriptLint
