import Mathlib
import ScriptLint.Template

/-!
Templates are filled in one pass.

A template made of literals and placeholders is rendered piece by piece: literals stay, and each
placeholder is replaced by its value or left as it is written. No value is looked at again.
-/
namespace ScriptLint.Template

open Text

structure Placeholder where
  front : Text
  key : Text
  back : Text
  blankFront : ∀ c ∈ front, isBlank c = true
  blankBack : ∀ c ∈ back, isBlank c = true
  named : key ≠ []
  plain : ∀ c ∈ key, c ≠ '\x7b' ∧ c ≠ '\x7d' ∧ isBlank c = false

inductive Part where
  | literal (text : Text) (plain : ∀ c ∈ text, c ≠ '\x7b' ∧ c ≠ '\x7d')
  | placeholder (p : Placeholder)

namespace Part

def asWritten : Part → Text
  | literal text _ => text
  | placeholder p => "\x7b\x7b".toList ++ p.front ++ p.key ++ p.back ++ "\x7d\x7d".toList

/-- What a piece becomes: only a placeholder whose key is listed changes. -/
def filled (data : List (Text × Text)) : Part → Text
  | literal text _ => text
  | placeholder p => (data.lookup p.key).getD (placeholder p).asWritten

end Part

theorem valueOf_eq_lookup (data : List (Text × Text)) (key : Text) :
    valueOf data key = data.lookup key := by
  induction data with
  | nil => rfl
  | cons entry data ih =>
    obtain ⟨k, v⟩ := entry
    rw [valueOf, List.find?_cons, List.lookup_cons, ← ih]
    by_cases same : k = key
    · simp [same]
    · rw [beq_false_of_ne same, beq_false_of_ne (Ne.symm same)]
      rfl

theorem render_cons (data : List (Text × Text)) {c : Char} (t : Text) (other : c ≠ '\x7b') :
    render data (c :: t) = c :: render data t := by
  rw [render]
  intro _ same
  exact absurd same other

theorem render_literal (data : List (Text × Text)) {text : Text} (rest : Text)
    (plain : ∀ c ∈ text, c ≠ '\x7b' ∧ c ≠ '\x7d') :
    render data (text ++ rest) = text ++ render data rest := by
  induction text with
  | nil => rfl
  | cons c text ih =>
    obtain ⟨first, others⟩ := List.forall_mem_cons.mp plain
    rw [List.cons_append, render_cons data _ first.1, ih others, List.cons_append]

theorem render_braces (data : List (Text × Text)) {t key rest : Text}
    (found : keyAfterBraces? t = some (key, rest)) :
    render data ('\x7b' :: '\x7b' :: t) =
      (valueOf data key).getD ('\x7b' :: '\x7b' :: written t rest) ++ render data rest := by
  rw [render]
  split
  · rename_i same
    rw [found] at same
    cases same
    rfl
  · rename_i none
    rw [found] at none
    cases none

theorem written_append (front rest : Text) : written (front ++ rest) rest = front := by
  simp [written]

namespace Placeholder

variable (p : Placeholder) (rest : Text)

theorem keyChar {c : Char} (member : c ∈ p.key) : isKeyChar c = true ∧ isBlank c = false := by
  obtain ⟨opening, closing, blank⟩ := p.plain c member
  exact ⟨by simp [isKeyChar, opening, closing, blank], blank⟩

/-- Neither a blank nor a brace belongs to a key, so the key ends where the blanks behind it or the
closing braces start. -/
theorem key_ends :
    ∃ c t, p.back ++ '\x7d' :: '\x7d' :: rest = c :: t ∧ isKeyChar c = false := by
  cases back : p.back with
  | nil => exact ⟨_, _, rfl, rfl⟩
  | cons c cs =>
    have blank := p.blankBack c (by rw [back]; exact List.mem_cons_self)
    exact ⟨c, _, rfl, by simp [isKeyChar, blank]⟩

theorem keyAfterBraces?_eq :
    keyAfterBraces? (p.front ++ (p.key ++ (p.back ++ '\x7d' :: '\x7d' :: rest))) =
      some (p.key, rest) := by
  have start : (p.front ++ (p.key ++ (p.back ++ '\x7d' :: '\x7d' :: rest))).dropWhile isBlank =
      p.key ++ (p.back ++ '\x7d' :: '\x7d' :: rest) := by
    obtain ⟨c, cs, key⟩ := List.exists_cons_of_ne_nil p.named
    have first := (p.keyChar (by rw [key]; exact List.mem_cons_self : c ∈ p.key)).2
    rw [List.dropWhile_append_of_pos p.blankFront, key, List.cons_append,
      List.dropWhile_cons_of_neg (by simp [first])]
  have close : (p.back ++ '\x7d' :: '\x7d' :: rest).dropWhile isBlank = '\x7d' :: '\x7d' :: rest := by
    have brace : isBlank '\x7d' = false := by cbv
    rw [List.dropWhile_append_of_pos p.blankBack, List.dropWhile_cons_of_neg (by simp [brace])]
  have letters : ∀ c ∈ p.key, isKeyChar c = true := fun c member => (p.keyChar member).1
  obtain ⟨c, t, tail, ends⟩ := p.key_ends rest
  rw [tail] at start close
  simp only [keyAfterBraces?, tail, start]
  rw [List.takeWhile_append_of_pos letters, List.takeWhile_cons_of_neg (by simp [ends]),
    List.append_nil, List.dropWhile_append_of_pos letters, List.dropWhile_cons_of_neg (by simp [ends]),
    close, List.isEmpty_eq_false_iff.mpr p.named]
  rfl

theorem render_written (data : List (Text × Text)) :
    render data ((Part.placeholder p).asWritten ++ rest) =
      (Part.placeholder p).filled data ++ render data rest := by
  have opened : (Part.placeholder p).asWritten ++ rest = '\x7b' :: '\x7b' ::
      (p.front ++ (p.key ++ (p.back ++ '\x7d' :: '\x7d' :: rest))) := by
    simp [Part.asWritten]
  have inner : p.front ++ (p.key ++ (p.back ++ '\x7d' :: '\x7d' :: rest)) =
      p.front ++ p.key ++ p.back ++ "\x7d\x7d".toList ++ rest := by
    simp
  have kept : '\x7b' :: '\x7b' :: written
      (p.front ++ (p.key ++ (p.back ++ '\x7d' :: '\x7d' :: rest))) rest =
      (Part.placeholder p).asWritten := by
    rw [inner, written_append]
    simp [Part.asWritten]
  rw [opened, render_braces data (p.keyAfterBraces?_eq rest), valueOf_eq_lookup, kept]
  rfl

end Placeholder

/-- Literals stay as they are, and each placeholder becomes the first value listed for its key, or
stays as it is written when its key is not listed. -/
theorem render_fills_parts (data : List (Text × Text)) (parts : List Part) :
    render data (parts.flatMap Part.asWritten) = parts.flatMap (Part.filled data) := by
  induction parts with
  | nil => rw [List.flatMap_nil, List.flatMap_nil, render]
  | cons part parts ih =>
    rw [List.flatMap_cons, List.flatMap_cons, ← ih]
    cases part with
    | literal text plain => exact render_literal data _ plain
    | placeholder p => exact p.render_written _ data

end ScriptLint.Template
