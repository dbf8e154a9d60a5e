import Mailroom.Bytes
import Mathlib.Data.List.Basic
import Mathlib.Data.String.Basic

/-!
Texts and their bytes: a text is written in one way, and only the bytes that write it are read as
it.
-/

namespace Mailroom.Bytes

theorem loop_toList (array : ByteArray) (index : Nat) (before : Bytes) :
    ByteArray.toList.loop array index before =
      before.reverse ++ array.data.toList.drop index := by
  fun_induction ByteArray.toList.loop array index before with
  | case1 index before inside ih =>
      have bound : index < array.data.toList.length := by simpa using inside
      rw [ih, List.drop_eq_getElem_cons bound]
      simp [ByteArray.get!, inside]
  | case2 index before outside =>
      rw [List.drop_eq_nil_of_le (by simpa using Nat.le_of_not_lt outside), List.append_nil]

theorem toList_eq (array : ByteArray) : array.toList = array.data.toList := by
  rw [ByteArray.toList, loop_toList]
  rfl

theorem ofText_eq (text : String) : ofText text = text.toList.flatMap String.utf8EncodeChar := by
  have encoded : text.toByteArray = text.toList.utf8Encode := by
    rw [← String.toByteArray_ofList, String.ofList_toList]
  simp [ofText, String.toUTF8, toList_eq, encoded, List.utf8Encode]

/-- Bytes are the text that they write, or no text at all. -/
theorem text_iff {bytes : Bytes} {words : String} :
    text? bytes = some words ↔ ofText words = bytes := by
  rw [text?, String.fromUTF8?, ofText, String.toUTF8, toList_eq]
  constructor
  · intro read
    split at read
    · cases read
      rfl
    · cases read
  · rintro rfl
    exact dif_pos words.isValidUTF8

end Mailroom.Bytes
