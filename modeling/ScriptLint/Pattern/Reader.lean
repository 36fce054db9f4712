import ScriptLint.Pattern.Brackets
import ScriptLint.Text.Letters
import ScriptLint.Text.Numeric

/-!
How a regular expression is written.

There are literals, `.`, `^`, `$`, alternatives, classes in brackets, groups, flags as in `(?i)`,
repetitions and escapes. Look-around and references back to a group are refused.
-/
namespace ScriptLint.PatternReader

def number (spaced : Bool) : Nat → Option Nat → Text → Option Nat × Text
  | n + 1, value, c :: t =>
    if c.isDigit then
      number spaced n (some (10 * value.getD 0 + (c.toNat - '0'.toNat))) (skip spaced t)
    else (value, (c :: t).dropWhile Text.isBlank)
  | _, value, t => (value, t)

def count? (spaced : Bool) (t : Text) : Option Nat × Text :=
  let t := t.dropWhile Text.isBlank
  let (n, rest) := number spaced (t.length + 1) none t
  (n.filter (· < UInt32.size), rest)

structure Times where
  least : Nat
  most : Option Nat

def times? (spaced : Bool) (t : Text) : Option (Times × Text) :=
  match (next? spaced t).map (count? spaced) with
  | some (least, ',' :: t) => match next? spaced t with
    | none => none
    | some ('\x7d' :: t) => least.map fun n => (⟨n, none⟩, t)
    | some t => match least, count? spaced t with
      | some n, (some m, '\x7d' :: t) => if n ≤ m then some (⟨n, some m⟩, t) else none
      | _, _ => none
  | some (least, '\x7d' :: t) => least.map fun n => (⟨n, some n⟩, t)
  | _ => none

def dropPreference : Text → Text
  | '?' :: t => t
  | t => t

def repeatLast? (times : Times) : List PatternTree → Option (List PatternTree)
  | [] | .empty :: _ | .flags _ :: _ => none
  | item :: items =>
    (PatternTree.repeated times.least times.most item).withinDepth?.map (· :: items)

def flag? : Char → Option PatternFlag
  | 'i' => some .ignoreCase
  | 'm' => some .multiLine
  | 's' => some .dotAll
  | 'U' => some .swapGreed
  | 'u' => some .unicode
  | 'R' => some .crlf
  | 'x' => some .spaced
  | _ => none

def flags? (value : Bool) (changes : FlagChanges) : Text → Option (FlagChanges × Text)
  | [] => none
  | '-' :: t => match t with
    | ':' :: _ | ')' :: _ => none
    | t => if value then flags? false changes t else none
  | c :: t =>
    if c = ':' ∨ c = ')' then some (changes.reverse, c :: t)
    else match flag? c with
      | some f =>
        if changes.any (·.1 == f) then none else flags? value ((f, value) :: changes) t
      | none => none

def isNameStart (c : Char) : Bool := c == '_' || Text.isAlphabetic c

def isNameChar (c : Char) : Bool :=
  isNameStart c || Text.isNumeric c || c == '.' || c == '[' || c == ']'

def name? (t : Text) : Option (Text × Text) :=
  let name := t.takeWhile (· != '>')
  match t.dropWhile (· != '>') with
  | _ :: rest =>
    if name.head?.any isNameStart && name.all isNameChar then some (name, rest) else none
  | [] => none

inductive Opening where
  | flags (changes : FlagChanges)
  | group (captures : Bool) (name : Option Text) (changes : FlagChanges)

def opening? (spaced : Bool) (t : Text) : Option (Opening × Text) :=
  match skip spaced t with
  | '?' :: '=' :: _ | '?' :: '!' :: _ | '?' :: '<' :: '=' :: _ | '?' :: '<' :: '!' :: _ => none
  | '?' :: 'P' :: '<' :: t => (name? t).map fun (name, t) => (.group true (some name) [], t)
  | '?' :: '<' :: t => (name? t).map fun (name, t) => (.group true (some name) [], t)
  | '?' :: t => match flags? true [] t with
    | some (changes, ')' :: t) => if changes.isEmpty then none else some (.flags changes, t)
    | some (changes, _ :: t) => some (.group false none changes, t)
    | _ => none
  | t => some (.group true none [], t)

def atom? (spaced : Bool) : Text → Option (PatternTree × Text)
  | [] => none
  | '\\' :: t => (escape? spaced t).map fun (a, t) => (match a with
    | .char c => .char c
    | .assertion a => .assertion a
    | .kind k negated => .kind k negated
    | .property q negated => .property q negated, t)
  | '.' :: t => some (.dot, t)
  | '^' :: t => some (.assertion .lineStart, t)
  | '$' :: t => some (.assertion .lineEnd, t)
  | c :: t => some (.char ⟨c, false⟩, t)

/-- What has been read of a group: the finished branches and the items of the one being read, the
last one first, and the names of all groups so far. -/
structure Draft where
  spaced : Bool
  names : List Text
  branches : List PatternTree := []
  items : List PatternTree := []

namespace Draft

def branch (d : Draft) : PatternTree := .ofItems d.items.reverse

def nextBranch (d : Draft) : Draft := { d with branches := d.branch :: d.branches, items := [] }

def push (d : Draft) (item : PatternTree) : Draft := { d with items := item :: d.items }

def whole (d : Draft) : PatternTree := .ofBranches (d.branch :: d.branches).reverse

def addName? (d : Draft) : Option Text → Option (List Text)
  | none => some d.names
  | some name => if d.names.contains name then none else some (name :: d.names)

def repeatLast? (d : Draft) (times : Times) : Option Draft :=
  (PatternReader.repeatLast? times d.items).map fun items => { d with items }

end Draft

/-- Read up to the end of the group or of the pattern. Groups can stand in it `room` deep. -/
def read? : Nat → Nat → Draft → Text → Option (Draft × Text)
  | 0, _, _, _ => none
  | n + 1, room, d, t => match skip d.spaced t with
    | [] => some (d, [])
    | ')' :: t => some (d, ')' :: t)
    | '|' :: t => read? n room d.nextBranch t
    | '?' :: t => (d.repeatLast? ⟨0, some 1⟩).bind fun d => read? n room d (dropPreference t)
    | '*' :: t => (d.repeatLast? ⟨0, none⟩).bind fun d => read? n room d (dropPreference t)
    | '+' :: t => (d.repeatLast? ⟨1, none⟩).bind fun d => read? n room d (dropPreference t)
    | '\x7b' :: t => match times? d.spaced t with
      | some (times, t) => (d.repeatLast? times).bind fun d' =>
        read? n room d' (dropPreference (skip d.spaced t))
      | none => none
    | '[' :: t => match brackets? d.spaced t with
      | some (item, t) => read? n room (d.push item) t
      | none => none
    | '(' :: t => match opening? d.spaced t with
      | none => none
      | some (.flags changes, t) =>
        let spaced := (changes.lookup .spaced).getD d.spaced
        read? n room { d.push (.flags changes) with spaced } t
      | some (.group captures name changes, t) => match room, d.addName? name with
        | room + 1, some names =>
          let inner : Draft := ⟨(changes.lookup .spaced).getD d.spaced, names, [], []⟩
          match read? n room inner t with
          | some (inner, ')' :: t) =>
            (PatternTree.group captures changes inner.whole).withinDepth?.bind fun item =>
              read? n (room + 1) { d.push item with names := inner.names } t
          | _ => none
        | _, _ => none
    | t => match atom? d.spaced t with
      | some (item, t) => read? n room (d.push item) t
      | none => none

def tree? (t : Text) : Option PatternTree :=
  match read? (t.length + 1) PatternTree.maxDepth ⟨false, [], [], []⟩ t with
  | some (d, []) => d.whole.withinDepth?
  | _ => none

end ScriptLint.PatternReader
