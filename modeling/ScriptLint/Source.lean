import ScriptLint.BinarySearch
import ScriptLint.Syntax.Lowering.Program
import ScriptLint.Syntax.Scope
import ScriptLint.Syntax.Token

/-!
A source file: its text with the tree, tokens, comments and scopes found in it.

Tokens, comments and the starts of lines are sorted, and every question about the neighbourhood of
a place is answered by binary search.
-/
namespace ScriptLint

/-- Line and column, both counted from 1; a column counts characters. -/
structure Position where
  row : Nat
  column : Nat
  deriving DecidableEq, Repr

def laterLineStarts (offset : Nat) : Text → List Nat
  | [] => []
  | c :: t =>
    let next := offset + c.utf8Size
    if c = '\n' then next :: laterLineStarts next t else laterLineStarts next t

structure SourceFile where
  text : Text
  tree : Tree
  tokens : Array Token
  comments : Array Comment
  scopes : ScopeTable
  lineStarts : Array Nat

namespace SourceFile

def ofParts (text : Text) (tree : Tree) (tokens : List Token) (comments : List Comment)
    (globals : List Text) : SourceFile :=
  { text
    tree
    tokens := (tokens.mergeSort fun a b => a.span.start ≤ b.span.start).toArray
    comments := (comments.mergeSort fun a b => a.span.start ≤ b.span.start).toArray
    scopes := .ofTree tree globals
    lineStarts := (0 :: laterLineStarts 0 text).toArray }

def ofConcrete (text : Text) (root : Concrete) (globals : List Text) : SourceFile :=
  ofParts text (root.toTree text) root.tokens (root.comments text) globals

def slice (f : SourceFile) (s : Span) : Text := f.text.slice s

def lineOf (f : SourceFile) (offset : Nat) : Nat := partitionPoint f.lineStarts (· ≤ offset)

/-- An offset past the end counts as the end. Inside a character the column counts bytes. -/
def position (f : SourceFile) (offset : Nat) : Position :=
  let row := f.lineOf offset
  let lineStart := (f.lineStarts[row - 1]?).getD 0
  let stop := min offset f.text.size
  let width := match f.text.slice? ⟨lineStart, stop⟩ with
    | some line => line.length
    | none => stop - lineStart
  ⟨row, width + 1⟩

def tokenText (f : SourceFile) (t : Token) : Text := f.slice t.span

def commentsWithin (f : SourceFile) (start stop : Nat) : List Comment :=
  let first := partitionPoint f.comments (·.span.start < start)
  let last := partitionPoint f.comments (·.span.stop ≤ stop)
  (f.comments.extract first last).toList

def commentsBefore (f : SourceFile) (s : Span) : List Comment :=
  let count := partitionPoint f.tokens (·.span.stop ≤ s.start)
  let floor := if count = 0 then 0 else ((f.tokens[count - 1]?).map (·.span.stop)).getD 0
  f.commentsWithin floor s.start

def commentsAfter (f : SourceFile) (s : Span) : List Comment :=
  let count := partitionPoint f.tokens (·.span.start < s.stop)
  let ceiling := ((f.tokens[count]?).map (·.span.start)).getD f.text.size
  f.commentsWithin s.stop ceiling

def isPunctuator (f : SourceFile) (mark : Text) (t : Token) : Bool :=
  t.kind == .punctuator && f.tokenText t == mark

def tokensFrom (f : SourceFile) (offset : Nat) : List Token :=
  f.tokens.toList.drop (partitionPoint f.tokens (·.span.start < offset))

def punctuatorAfter? (f : SourceFile) (offset : Nat) (mark : Text) : Option Token :=
  (f.tokensFrom offset).find? (f.isPunctuator mark)

def punctuatorBetween? (f : SourceFile) (s : Span) (mark : Text) : Option Token :=
  ((f.tokensFrom s.start).takeWhile (·.span.stop ≤ s.stop)).find? (f.isPunctuator mark)

def hasPunctuatorBetween (f : SourceFile) (s : Span) (mark : Text) : Bool :=
  (f.punctuatorBetween? s mark).isSome

end SourceFile

end ScriptLint
