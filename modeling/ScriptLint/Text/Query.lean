import ScriptLint.Text.Age
import ScriptLint.Text.Breaks
import ScriptLint.Text.Script

/-!
Sets of characters by the names of their properties.
-/
namespace ScriptLint.CharSet

def dropIs : Text → Text
  | c :: d :: t => if (c == 'i' || c == 'I') && (d == 's' || d == 'S') then t else c :: d :: t
  | t => t

def plainName (name : Text) : String :=
  let isKept (c : Char) : Bool := c.toNat < 0x80 && c != ' ' && c != '_' && c != '-'
  let letters := ((dropIs name).filter isKept).map Char.toLower
  if letters = ['c'] ∧ dropIs name ≠ name then "isc" else String.ofList letters

def named? (name : Text) : Option CharSet :=
  let name := plainName name
  (CharProperty.find? CharProperty.binary name).or
    ((CharCategory.find? name).or (CharScript.find? name))

def valued? (property value : Text) : Option CharSet :=
  let value := plainName value
  match plainName property with
  | "gc" | "generalcategory" => CharCategory.find? value
  | "sc" | "script" => CharScript.find? value
  | "scx" | "scriptextensions" => CharScript.findShared? value
  | "age" => CharAge.find? value
  | "gcb" | "graphemeclusterbreak" => CharProperty.find? CharProperty.graphemeBreaks value
  | "wb" | "wordbreak" => CharProperty.find? CharProperty.wordBreaks value
  | "sb" | "sentencebreak" => CharProperty.find? CharProperty.sentenceBreaks value
  | _ => none

def digits : CharSet := (CharCategory.find? "nd").getD empty

def blanks : CharSet := (CharProperty.find? CharProperty.binary "whitespace").getD empty

def wordChars : CharSet :=
  .unions (["alphabetic", "m", "nd", "pc", "joincontrol"].filterMap fun name => named? name.toList)

end ScriptLint.CharSet
