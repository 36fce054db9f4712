import ScriptLint.Text.Digits

/-!
Strings in TOML: with escapes in double quotes, and as they stand in single quotes, each on one
line or on several.
-/
namespace ScriptLint.Toml

def isSpace (c : Char) : Bool := c == ' ' || c == '\t'

def skipSpace (t : Text) : Text := t.dropWhile isSpace

def isPlain (c : Char) : Bool := c == '\t' || (0x20 ≤ c.toNat && c != '\x7f')

def coded? (digits : Nat) (t : Text) : Option (Char × Text) :=
  if t.length < digits then none
  else (Text.codedChar? (t.take digits)).map fun c => (c, t.drop digits)

def escape? : Text → Option (Char × Text)
  | 'b' :: t => some ('\x08', t)
  | 't' :: t => some ('\t', t)
  | 'n' :: t => some ('\n', t)
  | 'f' :: t => some ('\x0c', t)
  | 'r' :: t => some ('\r', t)
  | 'e' :: t => some ('\x1b', t)
  | '\x22' :: t => some ('\x22', t)
  | '\\' :: t => some ('\\', t)
  | 'x' :: t => coded? 2 t
  | 'u' :: t => coded? 4 t
  | 'U' :: t => coded? 8 t
  | _ => none

def quoted? : Nat → Text → Text → Option (Text × Text)
  | 0, _, _ => none
  | _ + 1, acc, '\x22' :: t => some (acc.reverse, t)
  | n + 1, acc, '\\' :: t => match escape? t with
    | some (c, t) => quoted? n (c :: acc) t
    | none => none
  | n + 1, acc, c :: t => if isPlain c then quoted? n (c :: acc) t else none
  | _ + 1, _, [] => none

def literal? (t : Text) : Option (Text × Text) :=
  let content := t.takeWhile fun c => isPlain c && c != '\x27'
  match t.dropWhile fun c => isPlain c && c != '\x27' with
  | '\x27' :: t => some (content, t)
  | _ => none

def skipFirstBreak : Text → Text
  | '\n' :: t => t
  | '\r' :: '\n' :: t => t
  | t => t

def afterContinuation? (t : Text) : Option Text :=
  match t.dropWhile isSpace with
  | '\n' :: t => some (t.dropWhile fun c => isSpace c || c == '\n' || c == '\r')
  | '\r' :: '\n' :: t => some (t.dropWhile fun c => isSpace c || c == '\n' || c == '\r')
  | _ => none

/-- Up to two quotes before the closing ones belong to the string. -/
def closing? (quote : Char) (t : Text) : Option (Text × Text) :=
  let quotes := (t.takeWhile (· == quote)).length
  if 3 ≤ quotes ∧ quotes ≤ 5 then some (List.replicate (quotes - 3) quote, t.drop quotes)
  else none

def quotedLines? : Nat → Text → Text → Option (Text × Text)
  | 0, _, _ => none
  | n + 1, acc, '\x22' :: t => match closing? '\x22' ('\x22' :: t) with
    | some (more, t) => some (acc.reverse ++ more, t)
    | none => match t with
      | '\x22' :: '\x22' :: _ => none
      | t => quotedLines? n ('\x22' :: acc) t
  | n + 1, acc, '\\' :: t => match afterContinuation? t with
    | some t => quotedLines? n acc t
    | none => match escape? t with
      | some (c, t) => quotedLines? n (c :: acc) t
      | none => none
  | n + 1, acc, '\n' :: t => quotedLines? n ('\n' :: acc) t
  | n + 1, acc, '\r' :: '\n' :: t => quotedLines? n ('\n' :: '\r' :: acc) t
  | n + 1, acc, c :: t => if isPlain c then quotedLines? n (c :: acc) t else none
  | _ + 1, _, [] => none

def literalLines? : Nat → Text → Text → Option (Text × Text)
  | 0, _, _ => none
  | n + 1, acc, '\x27' :: t => match closing? '\x27' ('\x27' :: t) with
    | some (more, t) => some (acc.reverse ++ more, t)
    | none => match t with
      | '\x27' :: '\x27' :: _ => none
      | t => literalLines? n ('\x27' :: acc) t
  | n + 1, acc, '\n' :: t => literalLines? n ('\n' :: acc) t
  | n + 1, acc, '\r' :: '\n' :: t => literalLines? n ('\n' :: '\r' :: acc) t
  | n + 1, acc, c :: t => if isPlain c then literalLines? n (c :: acc) t else none
  | _ + 1, _, [] => none

end ScriptLint.Toml
