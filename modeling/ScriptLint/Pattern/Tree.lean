import ScriptLint.Text.CharSet

/-!
A regular expression as it is written, before flags give it a meaning.

Trees that are deeper than `PatternTree.maxDepth` are refused. Depth counts repetitions, groups,
brackets, and lists of two things or more.
-/
namespace ScriptLint

/-- A character in a pattern. One that is written by two digits after `\x` can stand for a byte. -/
structure WrittenChar where
  char : Char
  isByte : Bool := false
  deriving DecidableEq, Repr

inductive PatternFlag where
  | ignoreCase
  | multiLine
  | dotAll
  | swapGreed
  | unicode
  | crlf
  /-- Blanks and comments are skipped. -/
  | spaced
  deriving DecidableEq, Repr

abbrev FlagChanges := List (PatternFlag × Bool)

inductive CharKind where
  | digit
  | blank
  | word
  deriving DecidableEq, Repr

inductive CharQuery where
  | named (name : Text)
  | valued (property value : Text)
  deriving DecidableEq, Repr

inductive Assertion where
  | lineStart
  | lineEnd
  | textStart
  | textEnd
  | wordEdge
  | noWordEdge
  | wordStart
  | wordEnd
  | noWordBefore
  | noWordAfter
  deriving DecidableEq, Repr

inductive ClassOperator where
  | inter
  | diff
  | symmDiff
  deriving DecidableEq, Repr

inductive ClassTree where
  | char (c : WrittenChar)
  | range (first last : WrittenChar)
  | ascii (members : CharSet) (negated : Bool)
  | kind (k : CharKind) (negated : Bool)
  | property (q : CharQuery) (negated : Bool)
  | brackets (negated : Bool) (inner : ClassTree)
  | union (items : List ClassTree)
  | operation (o : ClassOperator) (left right : ClassTree)

inductive PatternTree where
  | empty
  | flags (changes : FlagChanges)
  | char (c : WrittenChar)
  | dot
  | assertion (a : Assertion)
  | kind (k : CharKind) (negated : Bool)
  | property (q : CharQuery) (negated : Bool)
  | brackets (negated : Bool) (inner : ClassTree)
  /-- At least `least` times, and at most `most` times when there is such a limit. -/
  | repeated (least : Nat) (most : Option Nat) (inner : PatternTree)
  | group (captures : Bool) (changes : FlagChanges) (inner : PatternTree)
  | concat (items : List PatternTree)
  | alternation (branches : List PatternTree)

namespace ClassTree

def ofItems : List ClassTree → ClassTree
  | [item] => item
  | items => union items

mutual
def depth : ClassTree → Nat
  | union [] => 0
  | union items => 1 + depthOfAll items
  | brackets _ inner => 1 + depth inner
  | operation _ left right => 1 + max (depth left) (depth right)
  | _ => 0

def depthOfAll : List ClassTree → Nat
  | [] => 0
  | item :: items => max (depth item) (depthOfAll items)
end

end ClassTree

namespace PatternTree

def maxDepth : Nat := 250

def ofItems : List PatternTree → PatternTree
  | [] => empty
  | [item] => item
  | items => concat items

def ofBranches : List PatternTree → PatternTree
  | [branch] => branch
  | branches => alternation branches

mutual
def depth : PatternTree → Nat
  | brackets _ inner => 1 + inner.depth
  | repeated _ _ inner => 1 + depth inner
  | group _ _ inner => 1 + depth inner
  | concat items => 1 + depthOfAll items
  | alternation branches => 1 + depthOfAll branches
  | _ => 0

def depthOfAll : List PatternTree → Nat
  | [] => 0
  | item :: items => max (depth item) (depthOfAll items)
end

def withinDepth? (t : PatternTree) : Option PatternTree :=
  if t.depth ≤ maxDepth then some t else none

end PatternTree

end ScriptLint
