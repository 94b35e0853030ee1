import Mathlib.Data.List.Basic

/-! The bytes of a `ByteArray` as a list, and the round trip of text through its UTF-8
bytes. -/

namespace Lib

/-- `ByteArray.toList`'s loop from position `i`, with the bytes before it reversed in
`r`, ends with them and the bytes from `i` on. -/
theorem byteArray_toList_loop (bytes : ByteArray) (i : Nat) (r : List UInt8) :
    ByteArray.toList.loop bytes i r = r.reverse ++ bytes.data.toList.drop i := by
  induction i, r using ByteArray.toList.loop.induct bytes with
  | case1 i r inside ih =>
    rw [ByteArray.toList.loop, if_pos inside, ih]
    have bound : i < bytes.data.toList.length := by simpa using inside
    have read : bytes.get! i = bytes.data.toList[i] := by
      simp only [ByteArray.get!, Array.getElem_toList]
      exact getElem!_pos bytes.data i (by simpa using inside)
    rw [List.drop_eq_getElem_cons bound, read]
    simp
  | case2 i r past =>
    rw [ByteArray.toList.loop, if_neg past]
    have done : bytes.data.toList.length ≤ i := by simpa using past
    simp [List.drop_eq_nil_of_le done]

theorem byteArray_toList_eq (bytes : ByteArray) : bytes.toList = bytes.data.toList := by
  rw [ByteArray.toList, byteArray_toList_loop]
  simp

/-- A byte array is rebuilt from its list of bytes. -/
theorem byteArray_mk_toList (bytes : ByteArray) : ByteArray.mk bytes.toList.toArray = bytes := by
  rw [byteArray_toList_eq, Array.toArray_toList]

/-- The UTF-8 bytes of a string decode back to it. -/
theorem fromUTF8?_toUTF8 (text : String) : String.fromUTF8? text.toUTF8 = some text := by
  have valid : text.toUTF8.IsValidUTF8 := by
    rw [String.toUTF8_eq_toByteArray]
    exact text.isValidUTF8
  rw [String.fromUTF8?, dif_pos valid]
  rfl

end Lib
