import ScriptLint.Text.Basic

/-!
Numbers written with digits.
-/
namespace ScriptLint.Text

def digitValue? (c : Char) : Option Nat :=
  if '0' ≤ c ∧ c ≤ '9' then some (c.toNat - '0'.toNat)
  else if 'a' ≤ c ∧ c ≤ 'f' then some (c.toNat - 'a'.toNat + 10)
  else if 'A' ≤ c ∧ c ≤ 'F' then some (c.toNat - 'A'.toNat + 10)
  else none

def number? (base : Nat) (digits : Text) : Option Nat :=
  digits.foldlM (fun n c => match digitValue? c with
    | some d => if d < base then some (base * n + d) else none
    | none => none) 0

def ofNat (n : Nat) : Text := Nat.toDigits 10 n

def codedChar? (digits : Text) : Option Char :=
  match number? 16 digits with
  | some n => if n.isValidChar then some (Char.ofNat n) else none
  | none => none

end ScriptLint.Text
