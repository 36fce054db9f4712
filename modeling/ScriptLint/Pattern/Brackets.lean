import ScriptLint.Pattern.Escape

/-!
Classes of characters in brackets.

Brackets can stand in brackets, and what stands side by side is united. The operators `&&`, `--` and
`~~` bind less than that and are taken from left to right.
-/
namespace ScriptLint.PatternReader

def asciiClass? (name : Text) : Option CharSet :=
  let table := match String.ofList name with
    | "alnum" => "30-39 41-5A 61-7A"
    | "alpha" => "41-5A 61-7A"
    | "ascii" => "0-7F"
    | "blank" => "9 20"
    | "cntrl" => "0-1F 7F"
    | "digit" => "30-39"
    | "graph" => "21-7E"
    | "lower" => "61-7A"
    | "print" => "20-7E"
    | "punct" => "21-2F 3A-40 5B-60 7B-7E"
    | "space" => "9-D 20"
    | "upper" => "41-5A"
    | "word" => "30-39 41-5A 5F 61-7A"
    | "xdigit" => "30-39 41-46 61-66"
    | _ => ""
  if table.isEmpty then none else some (.ofTable [table])

def namedClass? : Text → Option (ClassTree × Text)
  | ':' :: t =>
    let negated := t.head? == some '^'
    let t := if negated then t.drop 1 else t
    match t.dropWhile (· != ':') with
    | ':' :: ']' :: rest =>
      (asciiClass? (t.takeWhile (· != ':'))).map fun s => (.ascii s negated, rest)
    | _ => none
  | _ => none

def firstUnblank? (inComment : Bool) : Text → Option Char
  | [] => none
  | c :: t =>
    if Text.isBlank c then firstUnblank? inComment t
    else if !inComment && c == '#' then firstUnblank? true t
    else some c

def peek? (spaced : Bool) (t : Text) : Option Char :=
  if spaced then (firstUnblank? false t).or t.head? else t.head?

def classAtom? (spaced : Bool) : Text → Option (Atom × Text)
  | [] => none
  | '\\' :: t => escape? spaced t
  | c :: t => some (.char ⟨c, false⟩, t)

def Atom.toClass? : Atom → Option ClassTree
  | char c => some (.char c)
  | kind k negated => some (.kind k negated)
  | property q negated => some (.property q negated)
  | assertion _ => none

def classItem? (spaced : Bool) (t : Text) : Option (ClassTree × Text) :=
  match classAtom? spaced t with
  | none => none
  | some (first, t) => match next? spaced t with
    | none => none
    | some ('-' :: rest) =>
      if peek? spaced rest == some ']' || peek? spaced rest == some '-' then
        first.toClass?.map fun item => (item, '-' :: rest)
      else match first, (next? spaced rest).bind (classAtom? spaced) with
        | .char a, some (.char b, t) => if a.char ≤ b.char then some (.range a b, t) else none
        | _, _ => none
    | some t => first.toClass?.map fun item => (item, t)

def leadingDashes? (spaced : Bool) : Nat → Text → Option (List ClassTree × Text)
  | 0, _ => none
  | n + 1, '-' :: t => match next? spaced t with
    | some t => (leadingDashes? spaced n t).map fun (items, t) => (.char ⟨'-', false⟩ :: items, t)
    | none => none
  | _ + 1, t => some ([], t)

/-- What follows an opening bracket: whether the class is negated, and its first items. A bracket
that would close the class at once stands for itself. -/
def openBrackets? (spaced : Bool) (t : Text) : Option (Bool × List ClassTree × Text) :=
  match next? spaced t with
  | none => none
  | some t =>
    let negated := t.head? == some '^'
    match if negated then next? spaced (t.drop 1) else some t with
    | none => none
    | some t => match leadingDashes? spaced (t.length + 1) t with
      | some ([], ']' :: t) =>
        (next? spaced t).map fun t => (negated, [.char ⟨']', false⟩], t)
      | some (items, t) => some (negated, items, t)
      | none => none

structure OpenOperation where
  operator : ClassOperator
  left : ClassTree

def close? (waiting : Option OpenOperation) (items : List ClassTree) : Option ClassTree :=
  let right := ClassTree.ofItems items.reverse
  let whole := match waiting with
    | some w => .operation w.operator w.left right
    | none => right
  if whole.depth ≤ PatternTree.maxDepth then some whole else none

def operator? : Text → Option (ClassOperator × Text)
  | '&' :: '&' :: t => some (.inter, t)
  | '-' :: '-' :: t => some (.diff, t)
  | '~' :: '~' :: t => some (.symmDiff, t)
  | _ => none

/-- The items of brackets up to the closing one, the last one first. Brackets can stand in them
`room` deep. -/
def classItems? (spaced : Bool) :
    Nat → Nat → Option OpenOperation → List ClassTree → Text → Option (ClassTree × Text)
  | 0, _, _, _, _ => none
  | n + 1, room, waiting, items, t => match skip spaced t with
    | [] => none
    | ']' :: t => (close? waiting items).map fun whole => (whole, t)
    | '[' :: t => match namedClass? t, room with
      | some (item, t), _ => classItems? spaced n room waiting (item :: items) t
      | none, 0 => none
      | none, room + 1 => match openBrackets? spaced t with
        | none => none
        | some (negated, first, t) => match classItems? spaced n room none first.reverse t with
          | some (inner, t) =>
            classItems? spaced n (room + 1) waiting (.brackets negated inner :: items) t
          | none => none
    | t => match operator? t with
      | some (operator, t) => match close? waiting items with
        | some left => classItems? spaced n room (some ⟨operator, left⟩) [] t
        | none => none
      | none => match classItem? spaced t with
        | some (item, t) => classItems? spaced n room waiting (item :: items) t
        | none => none

def brackets? (spaced : Bool) (t : Text) : Option (PatternTree × Text) :=
  match openBrackets? spaced t with
  | none => none
  | some (negated, first, t) =>
    (classItems? spaced (t.length + 1) PatternTree.maxDepth none first.reverse t).map
      fun (inner, t) => (.brackets negated inner, t)

end ScriptLint.PatternReader
