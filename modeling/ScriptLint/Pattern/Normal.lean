import ScriptLint.Pattern.Basic

/-!
Patterns put together in a plain form: literals side by side are one literal, lists are not nested,
and choices between single characters are sets.
-/
namespace ScriptLint.Pattern

mutual
def isVoid : Pattern → Bool
  | empty => true
  | look _ => true
  | capture p => isVoid p
  | repeated _ most p => most.isSome && isVoid p
  | sequence ps => areVoid ps
  | choice ps => areVoid ps
  | _ => false

def areVoid : List Pattern → Bool
  | [] => true
  | p :: ps => isVoid p && areVoid ps
end

def ofSet (s : CharSet) : Pattern :=
  match s.single? with
  | some c => literal [c]
  | none => one s

def joinLiterals : List Pattern → List Pattern
  | [] => []
  | literal s :: ps => match joinLiterals ps with
    | literal t :: ps => literal (s ++ t) :: ps
    | ps => literal s :: ps
  | p :: ps => p :: joinLiterals ps

def parts : Pattern → List Pattern
  | empty => []
  | sequence ps => ps
  | p => [p]

def ofSequence (ps : List Pattern) : Pattern :=
  match joinLiterals (ps.flatMap parts) with
  | [] => empty
  | [p] => p
  | ps => sequence ps

def branches : Pattern → List Pattern
  | choice ps => ps
  | p => [p]

def char? : Pattern → Option Char
  | literal [c] => some c
  | _ => none

def set? : Pattern → Option CharSet
  | one s => some s
  | _ => none

def ofChoice (ps : List Pattern) : Pattern :=
  match ps.flatMap branches with
  | [p] => p
  | ps => match ps.mapM char?, ps.mapM set? with
    | some cs, _ => ofSet (.ofChars cs)
    | none, some sets => ofSet (.unions sets)
    | none, none => choice ps

def ofRepetition (least : Nat) (most : Option Nat) (p : Pattern) : Pattern :=
  let least := if p.isVoid then min least 1 else least
  let most := if p.isVoid then some (min (most.getD 1) 1) else most
  if most = some 0 then empty
  else if least = 1 ∧ most = some 1 then p
  else repeated least most p

end ScriptLint.Pattern
