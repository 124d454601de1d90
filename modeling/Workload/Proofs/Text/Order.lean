import Mathlib.Order.Defs.LinearOrder
import Workload.Text.Utf8

/-!
# Texts are ordered as their bytes

UTF-8 keeps the order of code points: of two characters the greater one has the greater byte where
their bytes first differ, and neither begins with the other. So to compare texts character by
character is to compare their bytes.
-/

namespace Workload.Text

/-! ## The bytes of a text -/

theorem toList_loop (bytes : ByteArray) (index : Nat) (read : List UInt8) :
    ByteArray.toList.loop bytes index read = read.reverse ++ bytes.data.toList.drop index := by
  fun_induction ByteArray.toList.loop bytes index read with
  | case1 index read inside hypothesis =>
      have present : index < bytes.data.toList.length := by simpa using inside
      rw [hypothesis, List.drop_eq_getElem_cons present]
      simp [ByteArray.get!, inside]
  | case2 index read outside =>
      rw [List.drop_eq_nil_of_le (by simpa using Nat.le_of_not_lt outside), List.append_nil]

theorem encode_eq (text : String) : encode text = text.toList.flatMap String.utf8EncodeChar := by
  rw [encode, ByteArray.toList, toList_loop, String.toUTF8, ← String.utf8Encode_toList,
    List.utf8Encode, List.data_toByteArray]
  rfl

/-! ## The order of characters -/

theorem ofNat_lt_ofNat {first second : Nat} (firstByte : first < 256) (secondByte : second < 256) :
    UInt8.ofNat first < UInt8.ofNat second ↔ first < second := by
  rw [UInt8.lt_iff_toNat_lt, UInt8.toNat_ofNat', UInt8.toNat_ofNat', Nat.mod_eq_of_lt firstByte,
    Nat.mod_eq_of_lt secondByte]

theorem ofNat_eq_ofNat {first second : Nat} (firstByte : first < 256) (secondByte : second < 256) :
    UInt8.ofNat first = UInt8.ofNat second ↔ first = second := by
  rw [← UInt8.toNat_inj, UInt8.toNat_ofNat', UInt8.toNat_ofNat', Nat.mod_eq_of_lt firstByte,
    Nat.mod_eq_of_lt secondByte]

/-- The greater character has the greater byte where the bytes of two characters first differ. -/
theorem utf8EncodeChar_lt {first second : Char} (less : first < second) (after later : List UInt8) :
    String.utf8EncodeChar first ++ after < String.utf8EncodeChar second ++ later := by
  have codes : first.val.toNat < second.val.toNat := less
  have bound : second.val.toNat < 0x110000 := by
    have valid := second.valid
    unfold UInt32.isValidChar Nat.isValidChar at valid
    omega
  simp only [String.utf8EncodeChar]
  generalize first.val.toNat = low at *
  generalize second.val.toNat = high at *
  -- The two characters take one to four bytes each.
  split_ifs <;>
    simp (disch := omega) only [List.cons_append, List.nil_append, List.cons_lt_cons_iff,
      ofNat_lt_ofNat, ofNat_eq_ofNat, Nat.mod_def, Nat.div_div_eq_div_mul] <;>
    omega

theorem flatMap_utf8EncodeChar_lt {first second : List Char} (less : first < second) :
    first.flatMap String.utf8EncodeChar < second.flatMap String.utf8EncodeChar := by
  induction less with
  | @nil char rest =>
      have some := Char.utf8Size_pos char
      rw [← String.length_utf8EncodeChar] at some
      rw [List.flatMap_cons]
      cases bytes : String.utf8EncodeChar char with
      | nil => simp [bytes] at some
      | cons => exact List.nil_lt_cons ..
  | rel less => exact utf8EncodeChar_lt less ..
  | cons _ hypothesis => exact List.append_left_lt hypothesis

theorem encode_lt_encode {first second : String} (less : first < second) :
    encode first < encode second := by
  rw [encode_eq, encode_eq]
  exact flatMap_utf8EncodeChar_lt less

/-- Texts are ordered as their bytes. -/
theorem encode_le_encode_iff {first second : String} :
    encode first ≤ encode second ↔ first ≤ second := by
  rw [← List.not_lt, ← String.not_lt]
  apply not_congr
  refine ⟨?_, encode_lt_encode⟩
  intro less
  by_contra notLess
  by_cases greater : first < second
  · exact List.lt_asymm less (encode_lt_encode greater)
  · have same : first = second :=
      String.le_antisymm (String.not_lt.mp notLess) (String.not_lt.mp greater)
    exact List.lt_irrefl _ (same ▸ less)

end Workload.Text
