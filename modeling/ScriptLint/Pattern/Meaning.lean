import ScriptLint.Pattern.Normal
import ScriptLint.Pattern.Tree
import ScriptLint.Text.Fold

/-!
What a regular expression means under the flags that are set where it stands.

Without the flag for Unicode a pattern may only speak of ASCII characters, apart from literals.
-/
namespace ScriptLint

structure PatternMode where
  ignoreCase : Bool := false
  multiLine : Bool := false
  dotAll : Bool := false
  unicode : Bool := true
  crlf : Bool := false
  deriving DecidableEq, Repr

namespace PatternMode

def set (m : PatternMode) : PatternFlag × Bool → PatternMode
  | (.ignoreCase, b) => { m with ignoreCase := b }
  | (.multiLine, b) => { m with multiLine := b }
  | (.dotAll, b) => { m with dotAll := b }
  | (.unicode, b) => { m with unicode := b }
  | (.crlf, b) => { m with crlf := b }
  | (.swapGreed, _) | (.spaced, _) => m

def change (m : PatternMode) (changes : FlagChanges) : PatternMode := changes.foldl set m

def fold (m : PatternMode) (s : CharSet) : CharSet :=
  if !m.ignoreCase then s else if m.unicode then s.foldCase else s.foldAsciiCase

def allow? (m : PatternMode) (s : CharSet) : Option CharSet :=
  if m.unicode || s.isAscii then some s else none

/-- Negate a set. Differences in case are leveled before that. -/
def finish? (m : PatternMode) (negated : Bool) (s : CharSet) : Option CharSet :=
  let s := m.fold s
  m.allow? (if negated then s.compl else s)

def char? (m : PatternMode) (c : WrittenChar) : Option Char :=
  if !m.unicode && c.isByte && 0x80 ≤ c.char.toNat then none else some c.char

def member? (m : PatternMode) (c : WrittenChar) : Option Char :=
  (m.char? c).filter fun c => m.unicode || c.toNat < 0x80

def kind? (m : PatternMode) (k : CharKind) (negated : Bool) : Option CharSet :=
  let s := match k, m.unicode with
    | .digit, true => CharSet.digits
    | .digit, false => .ofTable ["30-39"]
    | .blank, true => CharSet.blanks
    | .blank, false => .ofTable ["9-D 20"]
    | .word, true => CharSet.wordChars
    | .word, false => .ofTable ["30-39 41-5A 5F 61-7A"]
  m.allow? (if negated then s.compl else s)

def query? (m : PatternMode) (q : CharQuery) (negated : Bool) : Option CharSet :=
  if !m.unicode then none
  else
    let s := match q with
      | .named name => CharSet.named? name
      | .valued property value => CharSet.valued? property value
    s.bind (m.finish? negated)

def dot? (m : PatternMode) : Option CharSet :=
  if !m.unicode then none
  else if m.dotAll then some .all
  else some (CharSet.ofChars (if m.crlf then ['\r', '\n'] else ['\n'])).compl

def look (m : PatternMode) : Assertion → Look
  | .lineStart => if m.multiLine then .lineStart m.crlf else .textStart
  | .lineEnd => if m.multiLine then .lineEnd m.crlf else .textEnd
  | .textStart => .textStart
  | .textEnd => .textEnd
  | .wordEdge => .wordEdge !m.unicode
  | .noWordEdge => .noWordEdge !m.unicode
  | .wordStart => .wordStart !m.unicode
  | .wordEnd => .wordEnd !m.unicode
  | .noWordBefore => .noWordBefore !m.unicode
  | .noWordAfter => .noWordAfter !m.unicode

end PatternMode

def ClassOperator.apply : ClassOperator → CharSet → CharSet → CharSet
  | inter => CharSet.inter
  | diff => CharSet.diff
  | symmDiff => CharSet.symmDiff

namespace ClassTree

mutual
def set? (m : PatternMode) : ClassTree → Option CharSet
  | char c => (m.member? c).map .singleton
  | range first last => do return .ofRange (← m.member? first) (← m.member? last)
  | ascii members negated => m.finish? negated members
  | kind k negated => m.kind? k negated
  | property q negated => m.query? q negated
  | brackets negated inner => (set? m inner).bind (m.finish? negated)
  | union items => (sets? m items).map .unions
  | operation o left right => do
    return o.apply (m.fold (← set? m left)) (m.fold (← set? m right))

def sets? (m : PatternMode) : List ClassTree → Option (List CharSet)
  | [] => some []
  | item :: items => do return (← set? m item) :: (← sets? m items)
end

end ClassTree

namespace PatternTree

def charPattern (m : PatternMode) (c : Char) : Pattern :=
  if m.ignoreCase then .ofSet (m.fold (.singleton c)) else .literal [c]

mutual
/-- The meaning of a tree, with the mode for what follows it. Flags hold up to the end of the group
that they stand in. -/
def meaning? (m : PatternMode) : PatternTree → Option (Pattern × PatternMode)
  | empty => some (.empty, m)
  | flags changes => some (.empty, m.change changes)
  | char c => (m.char? c).map fun c => (charPattern m c, m)
  | dot => m.dot?.map fun s => (.ofSet s, m)
  | assertion a => some (.look (m.look a), m)
  | kind k negated => (m.kind? k negated).map fun s => (.ofSet s, m)
  | property q negated => (m.query? q negated).map fun s => (.ofSet s, m)
  | brackets negated inner =>
    ((inner.set? m).bind (m.finish? negated)).map fun s => (.ofSet s, m)
  | repeated least most inner =>
    (meaning? m inner).map fun (p, m) => (.ofRepetition least most p, m)
  | group captures changes inner =>
    (meaning? (m.change changes) inner).map fun (p, _) => (if captures then .capture p else p, m)
  | concat items => (meanings? m items).map fun (ps, m) => (.ofSequence ps, m)
  | alternation branches => (meanings? m branches).map fun (ps, m) => (.ofChoice ps, m)

def meanings? (m : PatternMode) : List PatternTree → Option (List Pattern × PatternMode)
  | [] => some ([], m)
  | item :: items => match meaning? m item with
    | none => none
    | some (p, m) => (meanings? m items).map fun (ps, m) => (p :: ps, m)
end

end PatternTree

end ScriptLint
