import Mathlib

/-!
# ShuffleFabric.Lib.Text

Strings and the bytes of their UTF-8 encoding.

Nothing here mentions the repository.
-/

namespace Lib

theorem toList_loop (bytes : ByteArray) (i : Nat) (read : List UInt8) :
    ByteArray.toList.loop bytes i read = read.reverse ++ bytes.data.toList.drop i := by
  fun_induction ByteArray.toList.loop bytes i read with
  | case1 i read hlt ih =>
      have hdata : i < bytes.data.toList.length := hlt
      have hget : bytes.get! i = bytes.data.toList[i] := by
        simpa [ByteArray.get!] using getElem!_pos bytes.data i hlt
      rw [ih, List.drop_eq_getElem_cons hdata, hget]
      simp
  | case2 i read hge =>
      have hend : bytes.data.toList.length ≤ i := not_lt.mp hge
      rw [List.drop_eq_nil_of_le hend, List.append_nil]

theorem toList_eq_data (bytes : ByteArray) : bytes.toList = bytes.data.toList := by
  rw [ByteArray.toList, toList_loop]
  rfl

/-- The bytes of a string are the encodings of its characters. -/
theorem toUTF8_toList (text : String) :
    ∃ chars : List Char, text.toUTF8.toList = chars.flatMap String.utf8EncodeChar := by
  obtain ⟨chars, hchars⟩ := text.isValidUTF8
  refine ⟨chars, ?_⟩
  rw [toList_eq_data, show text.toUTF8 = chars.utf8Encode from hchars, List.utf8Encode,
    List.data_toByteArray]

/-- A string is read back from its bytes. -/
theorem fromUTF8?_toUTF8 (text : String) :
    String.fromUTF8? text.toUTF8.toList.toByteArray = some text := by
  have hbytes : text.toUTF8.toList.toByteArray = text.toUTF8 := by
    rw [toList_eq_data]
    apply ByteArray.ext
    rw [List.data_toByteArray]
  have hvalid : text.toUTF8.IsValidUTF8 := text.isValidUTF8
  rw [hbytes, String.fromUTF8?, dif_pos hvalid]
  rfl

end Lib
