import ScriptLint.Config.Toml.Entries
import ScriptLint.Config.Toml.Strings
import ScriptLint.Config.Toml.Words

/-!
A reader for the TOML notation.

A document is a list of lines, each with a table header or with a key and its value.
-/
namespace ScriptLint.Toml

def skipComment : Text → Text
  | '#' :: t => t.dropWhile isPlain
  | t => t

def endLine? (t : Text) : Option Text :=
  match skipComment (skipSpace t) with
  | [] => some []
  | '\n' :: t => some t
  | '\r' :: '\n' :: t => some t
  | _ => none

def skipLines : Nat → Text → Text
  | 0, t => t
  | n + 1, t => match skipComment (skipSpace t) with
    | '\n' :: t => skipLines n t
    | '\r' :: '\n' :: t => skipLines n t
    | t => t

def isKeyChar (c : Char) : Bool := c.isAlphanum || c == '_' || c == '-'

def keyPart? : Text → Option (Text × Text)
  | '\x22' :: t => quoted? (t.length + 1) [] t
  | '\x27' :: t => literal? t
  | t =>
    let key := t.takeWhile isKeyChar
    if key.isEmpty then none else some (key, t.dropWhile isKeyChar)

def key? : Nat → Text → Option (List Text × Text)
  | 0, _ => none
  | n + 1, t => match keyPart? (skipSpace t) with
    | none => none
    | some (part, t) => match skipSpace t with
      | '.' :: t => (key? n t).map fun (parts, t) => (part :: parts, t)
      | t => some ([part], t)

def maxDepth : Nat := 80

mutual
def value? : Nat → Nat → Text → Option (Value × Text)
  | 0, _, _ => none
  | _ + 1, _, '\x22' :: '\x22' :: '\x22' :: t =>
    (quotedLines? (t.length + 1) [] (skipFirstBreak t)).map fun (s, t) => (.text s, t)
  | _ + 1, _, '\x27' :: '\x27' :: '\x27' :: t =>
    (literalLines? (t.length + 1) [] (skipFirstBreak t)).map fun (s, t) => (.text s, t)
  | _ + 1, _, '\x22' :: t => (quoted? (t.length + 1) [] t).map fun (s, t) => (.text s, t)
  | _ + 1, _, '\x27' :: t => (literal? t).map fun (s, t) => (.text s, t)
  | n + 1, room + 1, '[' :: t => (items? n room t).map fun (items, t) => (.list items, t)
  | n + 1, room + 1, '\x7b' :: t =>
    (pairs? n room [] t).map fun (entries, t) => (.table (entriesToValues entries), t)
  | _ + 1, _, t =>
    let (word, rest) := splitWord t
    (word? word).map fun v => (v, rest)

def items? : Nat → Nat → Text → Option (List Value × Text)
  | 0, _, _ => none
  | n + 1, room, t => match skipLines (t.length + 1) t with
    | ']' :: t => some ([], t)
    | t => match value? n room t with
      | none => none
      | some (v, t) => match skipLines (t.length + 1) t with
        | ',' :: t => (items? n room t).map fun (vs, t) => (v :: vs, t)
        | ']' :: t => some ([v], t)
        | _ => none

def pairs? : Nat → Nat → Entries → Text → Option (Entries × Text)
  | 0, _, _, _ => none
  | n + 1, room, entries, t => match skipLines (t.length + 1) t with
    | '\x7d' :: t => some (entries, t)
    | t => match key? (t.length + 1) t with
      | none => none
      | some (key, t) => match skipLines (t.length + 1) t with
        | '=' :: t => match value? n room (skipLines (t.length + 1) t) with
          | none => none
          | some (v, t) => match insert? key v entries with
            | none => none
            | some entries => match skipLines (t.length + 1) t with
              | ',' :: t => pairs? n room entries t
              | '\x7d' :: t => some (entries, t)
              | _ => none
        | _ => none
end

def lines? : Nat → List Text → Entries → Text → Option Entries
  | 0, _, _, _ => none
  | n + 1, header, entries, t => match skipLines (t.length + 1) t with
    | [] => some entries
    | '[' :: '[' :: t => match key? (t.length + 1) t with
      | some (key, ']' :: ']' :: t) => match open? openNext? key entries, endLine? t with
        | some entries, some t => lines? n key entries t
        | _, _ => none
      | _ => none
    | '[' :: t => match key? (t.length + 1) t with
      | some (key, ']' :: t) => match open? openTable? key entries, endLine? t with
        | some entries, some t => lines? n key entries t
        | _, _ => none
      | _ => none
    | t => match key? (t.length + 1) t with
      | some (key, '=' :: t) => match value? (t.length + 1) maxDepth (skipSpace t) with
        | none => none
        | some (v, t) => match update? (insert? key v) header entries, endLine? t with
          | some entries, some t => lines? n header entries t
          | _, _ => none
      | _ => none

def skipMark : Text → Text
  | c :: t => if c.toNat = 0xFEFF then t else c :: t
  | [] => []

def parse? (t : Text) : Option Value :=
  (lines? (t.length + 1) [] [] (skipMark t)).map fun entries => .table (entriesToValues entries)

end ScriptLint.Toml
