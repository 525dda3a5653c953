import Livecast.Bytes

/-!
# Texts and their UTF-8 forms

The UTF-8 form of a text is put together character by character, and no two texts share one.

## Main Statements

* `Bytes.ofText_eq` - the UTF-8 form of a text is that of its characters
* `Bytes.text?_ofText` - a text is read from its UTF-8 form
-/

namespace Livecast.Bytes

theorem toList_loop (b : ByteArray) (i : Nat) (read : List UInt8) :
    ByteArray.toList.loop b i read = read.reverse ++ b.data.toList.drop i := by
  fun_induction ByteArray.toList.loop b i read with
  | case1 i read inside ih =>
      have bound : i < b.data.toList.length := by simpa using inside
      have byte : b.get! i = b.data.toList[i] := getElem!_pos b.data i (by simpa using inside)
      rw [ih, List.drop_eq_getElem_cons bound, byte, List.reverse_cons, List.append_assoc,
        List.singleton_append]
  | case2 i read outside =>
      have nothing : b.data.toList.drop i = [] := List.drop_eq_nil_of_le (by simpa using outside)
      rw [nothing, List.append_nil]

theorem ofText_eq_data (s : String) : ofText s = s.toByteArray.data.toList :=
  toList_loop s.toByteArray 0 []

/-- The UTF-8 form of a text is that of its characters, one after the other. -/
theorem ofText_eq (s : String) : ofText s = s.toList.flatMap String.utf8EncodeChar := by
  rw [ofText_eq_data, ← String.utf8Encode_toList, List.utf8Encode, List.data_toByteArray]

/-- **A text is read from its UTF-8 form.** -/
theorem text?_ofText (s : String) : text? (ofText s) = some s := by
  have bytes : (⟨(ofText s).toArray⟩ : ByteArray) = s.toByteArray := by
    rw [ofText_eq_data]
  rw [text?, bytes]
  exact dif_pos s.isValidUTF8

end Livecast.Bytes
