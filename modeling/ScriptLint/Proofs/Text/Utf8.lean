import Mathlib
import ScriptLint.Text.Utf8

/-!
Texts as bytes, and bytes shown as texts.

A text is shown as it is, so bytes that are different texts are shown differently. Other bytes are
shown with replacement characters, and those bring no byte below 128 that was not there.
-/
namespace ScriptLint.Text

theorem bytes_injective : Function.Injective bytes := by
  intro s t same
  have encoded : (String.ofList s).toByteArray = (String.ofList t).toByteArray := by
    rw [String.toByteArray_ofList, String.toByteArray_ofList, List.utf8Encode, List.utf8Encode]
    exact congrArg List.toByteArray same
  exact String.ofList_injective (String.toByteArray_inj.mp encoded)

@[simp]
theorem bytes_cons (c : Char) (t : Text) : bytes (c :: t) = String.utf8EncodeChar c ++ bytes t :=
  List.flatMap_cons

@[simp]
theorem bytes_append (s t : Text) : bytes (s ++ t) = bytes s ++ bytes t := List.flatMap_append

theorem firstChar?_append (c : Char) (bytes : List UInt8) :
    firstChar? (String.utf8EncodeChar c ++ bytes) = some c := by
  unfold firstChar?
  rw [List.toByteArray_append]
  exact ByteArray.utf8DecodeChar?_utf8EncodeChar_append

theorem prefix_of_firstChar? {c : Char} {bytes : List UInt8} (first : firstChar? bytes = some c) :
    String.utf8EncodeChar c <+: bytes := by
  obtain ⟨rest, whole⟩ := ByteArray.exists_of_utf8DecodeChar?_eq_some first
  refine ⟨rest.data.toList, ?_⟩
  have data := congrArg (fun b : ByteArray => b.data.toList) whole
  simpa using data.symm

theorem shownFrom_append (passed bytes : List UInt8) :
    shownFrom passed.length (passed ++ bytes) = shown bytes := by
  induction passed with
  | nil => rfl
  | cons byte passed ih => exact ih

theorem shown_bytes (t : Text) : shown (bytes t) = t := by
  induction t with
  | nil => rfl
  | cons c t ih =>
    have first := firstChar?_append c (bytes t)
    have size := String.length_utf8EncodeChar c
    rw [bytes_cons]
    cases encoded : String.utf8EncodeChar c with
    | nil =>
      rw [encoded] at size
      exact absurd size.symm (Nat.ne_of_gt c.utf8Size_pos)
    | cons byte others =>
      rw [encoded] at first size
      rw [List.cons_append] at first ⊢
      rw [shown, shownFrom, first]
      dsimp only
      rw [← size, List.length_cons, Nat.add_sub_cancel, shownFrom_append, ih]

theorem bytes_of_ofBytes? {bytes : List UInt8} {t : Text} (valid : ofBytes? bytes = some t) :
    Text.bytes t = bytes := by
  obtain ⟨s, decoded, rfl⟩ := Option.map_eq_some_iff.mp valid
  unfold String.fromUTF8? at decoded
  split at decoded
  · have encoded : s.toByteArray = bytes.toByteArray := by
      rw [← Option.some.inj decoded]
      rfl
    rw [← String.ofList_toList (s := s), String.toByteArray_ofList, List.utf8Encode] at encoded
    have data := congrArg (fun b : ByteArray => b.data.toList) encoded
    simpa [Text.bytes] using data
  · cases decoded

theorem shown_eq_nil {bytes : List UInt8} (empty : shown bytes = []) : bytes = [] := by
  cases bytes with
  | nil => rfl
  | cons byte bytes =>
    rw [shown, shownFrom] at empty
    split at empty <;> cases empty

theorem le_of_mem_replacement : ∀ b ∈ String.utf8EncodeChar '�', 128 ≤ b := by
  have encoded : String.utf8EncodeChar '�' = [0xef, 0xbf, 0xbd] := by cbv
  simp [encoded]

theorem mem_bytes_shown {bytes : List UInt8} {b : UInt8} (member : b ∈ Text.bytes (shown bytes)) :
    b ∈ bytes ∨ 128 ≤ b := by
  unfold shown at member
  generalize 0 = passed at member
  fun_induction shownFrom passed bytes with
  | case1 => cases member
  | case2 passed byte bytes ih => exact (ih member).imp_left (List.mem_cons_of_mem byte)
  | case3 byte bytes c first ih =>
    rw [bytes_cons] at member
    rcases List.mem_append.mp member with inside | later
    · exact Or.inl ((prefix_of_firstChar? first).subset inside)
    · exact (ih later).imp_left (List.mem_cons_of_mem byte)
  | case4 byte bytes first ih =>
    rw [bytes_cons] at member
    rcases List.mem_append.mp member with inside | later
    · exact Or.inr (le_of_mem_replacement b inside)
    · exact (ih later).imp_left (List.mem_cons_of_mem byte)

end ScriptLint.Text
