import ScriptLint.Text.Basic

/-!
Texts read from bytes.

Bytes that are no text can be shown all the same. Where no character stands, the bytes that could
have started one are shown as a single replacement character.
-/
namespace ScriptLint.Text

def ofBytes? (bytes : List UInt8) : Option Text :=
  (String.fromUTF8? bytes.toByteArray).map String.toList

def firstChar? (bytes : List UInt8) : Option Char := bytes.toByteArray.utf8DecodeChar? 0

def isContinuation (b : UInt8) : Bool := 0x80 ≤ b && b ≤ 0xbf

def startsLong (lead second : UInt8) : Bool :=
  if lead = 0xe0 then 0xa0 ≤ second && second ≤ 0xbf
  else if lead = 0xed then 0x80 ≤ second && second ≤ 0x9f
  else if lead = 0xf0 then 0x90 ≤ second && second ≤ 0xbf
  else if lead = 0xf4 then 0x80 ≤ second && second ≤ 0x8f
  else 0xe1 ≤ lead && lead ≤ 0xf3 && isContinuation second

/-- How many bytes are shown as one where no character is at the front. -/
def brokenSize : List UInt8 → Nat
  | lead :: second :: rest =>
    if !startsLong lead second then 1
    else if 0xf0 ≤ lead && rest.head?.any isContinuation then 3
    else 2
  | _ => 1

def shownFrom : Nat → List UInt8 → Text
  | _, [] => []
  | passed + 1, _ :: bytes => shownFrom passed bytes
  | 0, byte :: bytes => match firstChar? (byte :: bytes) with
    | some c => c :: shownFrom (c.utf8Size - 1) bytes
    | none => '�' :: shownFrom (brokenSize (byte :: bytes) - 1) bytes

def shown (bytes : List UInt8) : Text := shownFrom 0 bytes

end ScriptLint.Text
