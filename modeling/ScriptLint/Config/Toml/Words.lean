import ScriptLint.Config.Value
import ScriptLint.Text.Digits

/-!
Values in TOML that are written without quotes or brackets: truth values, numbers, dates and times.
-/
namespace ScriptLint.Toml

def withoutUnderscores? : Text → Option Text
  | [] => none
  | [c] => if c = '_' then none else some [c]
  | c :: '_' :: t => if c = '_' then none else (withoutUnderscores? t).map (c :: ·)
  | c :: t => if c = '_' then none else (withoutUnderscores? t).map (c :: ·)

def decimal? (digits : Text) : Option Nat :=
  match withoutUnderscores? digits with
  | some ['0'] => some 0
  | some ('0' :: _) => none
  | some digits => Text.number? 10 digits
  | none => none

def integer? : Text → Option Int
  | '0' :: 'x' :: digits => ((withoutUnderscores? digits).bind (Text.number? 16)).map Int.ofNat
  | '0' :: 'o' :: digits => ((withoutUnderscores? digits).bind (Text.number? 8)).map Int.ofNat
  | '0' :: 'b' :: digits => ((withoutUnderscores? digits).bind (Text.number? 2)).map Int.ofNat
  | '+' :: digits => (decimal? digits).map Int.ofNat
  | '-' :: digits => (decimal? digits).map fun n => -Int.ofNat n
  | digits => (decimal? digits).map Int.ofNat

def dropSign : Text → Text
  | '+' :: t => t
  | '-' :: t => t
  | t => t

def areDigits (t : Text) : Bool := ((withoutUnderscores? t).bind (Text.number? 10)).isSome

def isTail (isRight : Text → Bool) : Text → Bool
  | [] => true
  | _ :: t => isRight t

def isFraction (word : Text) : Bool :=
  let word := dropSign word
  let isExponent (c : Char) : Bool := c == 'e' || c == 'E'
  let front := word.takeWhile (!isExponent ·)
  let exponent := word.dropWhile (!isExponent ·)
  word = "inf".toList || word = "nan".toList ||
    ((decimal? (front.takeWhile (· != '.'))).isSome &&
      isTail areDigits (front.dropWhile (· != '.')) &&
      isTail (fun t => areDigits (dropSign t)) exponent)

def digits? (count : Nat) (t : Text) : Option (Nat × Text) :=
  let digits := t.takeWhile Char.isDigit
  if digits.length = count then (Text.number? 10 digits).map fun n => (n, t.drop count) else none

def daysInMonth (year month : Nat) : Nat :=
  if month = 2 then
    if year % 4 = 0 ∧ (year % 100 ≠ 0 ∨ year % 400 = 0) then 29 else 28
  else if month = 4 ∨ month = 6 ∨ month = 9 ∨ month = 11 then 30
  else 31

def afterDate? (t : Text) : Option Text :=
  match digits? 4 t with
  | some (year, '-' :: t) => match digits? 2 t with
    | some (month, '-' :: t) => match digits? 2 t with
      | some (day, t) =>
        if 1 ≤ month ∧ month ≤ 12 ∧ 1 ≤ day ∧ day ≤ daysInMonth year month then some t else none
      | none => none
    | _ => none
  | _ => none

def afterClock? (t : Text) : Option Text :=
  match digits? 2 t with
  | some (hour, ':' :: t) => match digits? 2 t with
    | some (minute, t) => if hour ≤ 23 ∧ minute ≤ 59 then some t else none
    | none => none
  | _ => none

def afterTime? (t : Text) : Option Text :=
  match afterClock? t with
  | some (':' :: t) => match digits? 2 t with
    | some (second, t) =>
      if 60 < second then none
      else match t with
        | '.' :: t => if (t.takeWhile Char.isDigit).isEmpty then none
          else some (t.dropWhile Char.isDigit)
        | t => some t
    | none => none
  | rest => rest

def isOffset : Text → Bool
  | [] => true
  | ['Z'] | ['z'] => true
  | '+' :: t | '-' :: t => afterClock? t == some []
  | _ => false

def isMoment (word : Text) : Bool :=
  match afterDate? word with
  | some [] => true
  | some (c :: t) => (c == 'T' || c == 't' || c == ' ') && (afterTime? t).any isOffset
  | none => afterTime? word == some []

def word? (word : Text) : Option Value :=
  if word = "true".toList then some (.bool true)
  else if word = "false".toList then some (.bool false)
  else if let some n := integer? word then some (.integer n)
  else if isFraction word then some .fraction
  else if isMoment word then some .moment
  else none

def isWordChar (c : Char) : Bool :=
  c.isAlphanum || c == '_' || c == '+' || c == '-' || c == '.' || c == ':'

def splitWord (t : Text) : Text × Text :=
  let word := t.takeWhile isWordChar
  match t.dropWhile isWordChar with
  | ' ' :: rest =>
    let more := rest.takeWhile isWordChar
    if afterDate? word == some [] && !more.isEmpty then
      (word ++ ' ' :: more, rest.dropWhile isWordChar)
    else (word, ' ' :: rest)
  | rest => (word, rest)

end ScriptLint.Toml
