import ScriptLint.Text.Basic
import ScriptLint.Text.Blank

/-!
Message templates.

A placeholder is a key between double braces, with blanks allowed on both sides of the key. A key
has no braces and no blanks. Rendering goes through the template once, so a brace in a value is
never read as part of a placeholder.
-/
namespace ScriptLint.Template

open Text

def isKeyChar (c : Char) : Bool := c != '\x7b' && c != '\x7d' && !isBlank c

def keyAfterBraces? (t : Text) : Option (Text × Text) :=
  let inner := t.dropWhile isBlank
  let key := inner.takeWhile isKeyChar
  if key.isEmpty then none
  else match (inner.dropWhile isKeyChar).dropWhile isBlank with
    | '\x7d' :: '\x7d' :: rest => some (key, rest)
    | _ => none

theorem keyAfterBraces?_shorter {t key rest : Text} (h : keyAfterBraces? t = some (key, rest)) :
    rest.length < t.length := by
  simp only [keyAfterBraces?] at h
  split at h
  · simp at h
  · split at h
    · rename_i r heq
      have h1 := (List.dropWhile_suffix isBlank (l := t)).length_le
      have h2 := (List.dropWhile_suffix isKeyChar (l := t.dropWhile isBlank)).length_le
      have h3 := (List.dropWhile_suffix isBlank
        (l := (t.dropWhile isBlank).dropWhile isKeyChar)).length_le
      rw [heq] at h3
      simp only [Option.some.injEq, Prod.mk.injEq] at h
      simp only [List.length_cons] at h3
      obtain ⟨_, rfl⟩ := h
      omega
    · simp at h

def written (t rest : Text) : Text := t.take (t.length - rest.length)

def valueOf (data : List (Text × Text)) (key : Text) : Option Text :=
  (data.find? (·.1 == key)).map Prod.snd

/-- The template with every placeholder replaced by the first value listed for its key. A
placeholder without a value stays as it is. -/
def render (data : List (Text × Text)) : Text → Text
  | '\x7b' :: '\x7b' :: t =>
    match _found : keyAfterBraces? t with
    | some (key, rest) =>
      (valueOf data key).getD ('\x7b' :: '\x7b' :: written t rest) ++ render data rest
    | none => '\x7b' :: render data ('\x7b' :: t)
  | c :: t => c :: render data t
  | [] => []
termination_by t => t.length
decreasing_by
  · have := keyAfterBraces?_shorter _found
    simp only [List.length_cons]
    omega
  · simp
  · simp

end ScriptLint.Template
