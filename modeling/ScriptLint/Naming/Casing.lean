import ScriptLint.Naming.Word
import ScriptLint.Text.Lowercase

/-!
Strict camel case: a capital starts a word, and an acronym is written as a word (`xmlHttp`).

`Casing.check` judges a name. With a name that it rejects it may offer another spelling of the same
words, which then differs from the name and is itself accepted.
-/
namespace ScriptLint

/-- Where a word of one capital letter (`getX`) is allowed. -/
inductive OneCharWords where
  | always
  | never
  | last
  deriving DecidableEq, Repr

inductive Verdict where
  | valid
  | invalid (suggestion : Option Text)
  deriving DecidableEq, Repr

def Verdict.isValid : Verdict → Bool
  | valid => true
  | invalid _ => false

structure Casing where
  ignored : List Text := []
  oneCharWords : OneCharWords := .never
  ignoreSingleWords : Bool := false
  deriving DecidableEq, Repr

namespace Casing

open Text

def isSingleCapsWord (name : Text) : Bool := name.all fun c => isUpper c || isDigit c

/-- Snake words in camel case. The first word keeps its case at the front, underscores stay only
at both ends of the name. -/
def camelize (words : List Word) : Text :=
  let last := words.length - 1
  let join (acc : Text × Bool) (entry : Word × Nat) : Text × Bool :=
    let (out, seen) := acc
    let (word, i) := entry
    if word.kind = .underscores then
      (if i = 0 || i = last then out ++ word.text else out, seen)
    else if seen || (word.text.head?.any isUpper) then (out ++ capitalize word.text, true)
    else (out ++ lowercase word.text, true)
  (words.zipIdx.foldl join ([], false)).1

def offer (name fixed : Text) : Option Text :=
  if !fixed.isEmpty && fixed != name then some fixed else none

/-- Whether word `i` of the words may stay: it is no acronym, or a lone capital in a place where
the rules allow one. -/
def accepts (c : Casing) (words : List Word) (i : Nat) (word : Word) : Bool :=
  let last := words.length - 1
  let endsInUnderscores := 2 ≤ words.length && words[last]?.any (·.kind == .underscores)
  word.kind != .allCaps || (word.text.length == 1 &&
    match c.oneCharWords with
    | .always => true
    | .never => false
    | .last => i == last || (endsInUnderscores && i + 1 == last))

def recase (c : Casing) (words : List Word) : Text :=
  words.zipIdx.flatMap fun (word, i) =>
    if c.accepts words i word then word.text else capitalize word.text

def judge (c : Casing) (exempt : Bool) (name : Text) : Verdict :=
  if c.ignored.contains name then .valid
  else if isSingleCapsWord name && (c.ignoreSingleWords || exempt) then .valid
  else if Word.isScreamingSnake name then .valid
  else if Word.isMixedSnake name then .invalid (offer name (camelize (Word.snake name)))
  else
    let words := Word.camel name
    if words.zipIdx.all fun (word, i) => c.accepts words i word then .valid
    else .invalid (offer name (c.recase words))

def check (c : Casing) (exempt : Bool) (name : Text) : Verdict :=
  match c.judge exempt name with
  | .invalid (some fixed) =>
    if (c.judge exempt fixed).isValid then .invalid (some fixed) else .invalid none
  | verdict => verdict

end Casing

end ScriptLint
