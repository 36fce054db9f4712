import ScriptLint.Pattern.Tree
import ScriptLint.Text.Blank

/-!
What a backslash can stand before in a pattern.

In a spaced pattern blanks may stand between almost any two characters, and a comment goes from `#`
to the end of its line.
-/
namespace ScriptLint.PatternReader

def skipBlanks (inComment : Bool) : Text → Text
  | [] => []
  | c :: t =>
    if inComment then skipBlanks (c != '\n') t
    else if Text.isBlank c then skipBlanks false t
    else if c = '#' then skipBlanks true t
    else c :: t

def skip (spaced : Bool) (t : Text) : Text := if spaced then skipBlanks false t else t

def next? (spaced : Bool) (t : Text) : Option Text :=
  match skip spaced t with
  | [] => none
  | t => some t

inductive Atom where
  | char (c : WrittenChar)
  | assertion (a : Assertion)
  | kind (k : CharKind) (negated : Bool)
  | property (q : CharQuery) (negated : Bool)

def isHexDigit (c : Char) : Bool := (Text.digitValue? c).isSome

def hexDigits? (spaced : Bool) : Nat → Text → Option (Text × Text)
  | 0, t => some ([], t)
  | n + 1, c :: t =>
    if isHexDigit c then
      (hexDigits? spaced n (skip spaced t)).map fun (digits, t) => (c :: digits, t)
    else none
  | _ + 1, [] => none

def braced? (spaced : Bool) : Nat → Text → Option (Text × Text)
  | 0, _ => none
  | _ + 1, [] => none
  | _ + 1, '\x7d' :: t => some ([], t)
  | n + 1, c :: t => (braced? spaced n (skip spaced t)).map fun (cs, t) => (c :: cs, t)

def coded? (spaced : Bool) (width : Nat) (t : Text) : Option (WrittenChar × Text) :=
  match next? spaced t with
  | some ('\x7b' :: t) => match braced? spaced (t.length + 1) (skip spaced t) with
    | some (digits, t) =>
      if digits.isEmpty || !digits.all isHexDigit then none
      else (Text.codedChar? digits).map fun c => (⟨c, false⟩, skip spaced t)
    | none => none
  | some t => match hexDigits? spaced width t with
    | some (digits, t) => (Text.codedChar? digits).map fun c => (⟨c, width == 2⟩, t)
    | none => none
  | none => none

def divideAt? (mark : Text) : Text → Option (Text × Text)
  | [] => none
  | c :: t => match Text.stripPrefix? mark (c :: t) with
    | some rest => some ([], rest)
    | none => (divideAt? mark t).map fun (before, after) => (c :: before, after)

def queryOf (t : Text) : CharQuery × Bool :=
  match divideAt? ['!', '='] t with
  | some (property, value) => (.valued property value, true)
  | none => match (divideAt? [':'] t).or (divideAt? ['='] t) with
    | some (property, value) => (.valued property value, false)
    | none => (.named t, false)

def query? (spaced negated : Bool) (t : Text) : Option (Atom × Text) :=
  match next? spaced t with
  | some ('\x7b' :: t) => (braced? spaced (t.length + 1) (skip spaced t)).map fun (name, t) =>
    let (q, differs) := queryOf name
    (.property q (negated != differs), t)
  | some ('\\' :: _) => none
  | some (c :: t) => some (.property (.named [c]) negated, skip spaced t)
  | _ => none

def isEdgeLetter (c : Char) : Bool := c.isAlpha || c == '-'

def edgeLetters (spaced : Bool) : Nat → Text → Text × Text
  | n + 1, c :: t =>
    if isEdgeLetter c then
      let (letters, rest) := edgeLetters spaced n (skip spaced t)
      (c :: letters, rest)
    else ([], c :: t)
  | _, t => ([], t)

def edge? (letters : Text) : Option Assertion :=
  match String.ofList letters with
  | "start" => some .wordStart
  | "end" => some .wordEnd
  | "start-half" => some .noWordBefore
  | "end-half" => some .noWordAfter
  | _ => none

/-- What follows `\b`. Braces with a name make it a special edge; other braces are left for a
repetition. -/
def wordEdge? (spaced : Bool) : Text → Option (Assertion × Text)
  | '\x7b' :: t => match next? spaced t with
    | some (c :: rest) =>
      if isEdgeLetter c then
        match edgeLetters spaced (t.length + 1) (c :: rest) with
        | (letters, '\x7d' :: t) => (edge? letters).map fun a => (a, t)
        | _ => none
      else some (.wordEdge, '\x7b' :: t)
    | _ => none
  | t => some (.wordEdge, t)

def isEscapable (c : Char) : Bool :=
  c.toNat < 0x80 && !c.isAlphanum && c != '<' && c != '>'

def escape? (spaced : Bool) : Text → Option (Atom × Text)
  | [] => none
  | 'x' :: t => (coded? spaced 2 t).map fun (c, t) => (.char c, t)
  | 'u' :: t => (coded? spaced 4 t).map fun (c, t) => (.char c, t)
  | 'U' :: t => (coded? spaced 8 t).map fun (c, t) => (.char c, t)
  | 'p' :: t => query? spaced false t
  | 'P' :: t => query? spaced true t
  | 'd' :: t => some (.kind .digit false, t)
  | 'D' :: t => some (.kind .digit true, t)
  | 's' :: t => some (.kind .blank false, t)
  | 'S' :: t => some (.kind .blank true, t)
  | 'w' :: t => some (.kind .word false, t)
  | 'W' :: t => some (.kind .word true, t)
  | 'a' :: t => some (.char ⟨'\x07', false⟩, t)
  | 'f' :: t => some (.char ⟨'\x0c', false⟩, t)
  | 't' :: t => some (.char ⟨'\t', false⟩, t)
  | 'n' :: t => some (.char ⟨'\n', false⟩, t)
  | 'r' :: t => some (.char ⟨'\r', false⟩, t)
  | 'v' :: t => some (.char ⟨'\x0b', false⟩, t)
  | 'A' :: t => some (.assertion .textStart, t)
  | 'z' :: t => some (.assertion .textEnd, t)
  | 'b' :: t => (wordEdge? spaced t).map fun (a, t) => (.assertion a, t)
  | 'B' :: t => some (.assertion .noWordEdge, t)
  | '<' :: t => some (.assertion .wordStart, t)
  | '>' :: t => some (.assertion .wordEnd, t)
  | c :: t => if isEscapable c then some (.char ⟨c, false⟩, t) else none

end ScriptLint.PatternReader
