import Mathlib.Data.List.Basic
import Mathlib.Tactic.Common

/-! Texts as bytes, and bytes as texts. -/

set_option autoImplicit false

namespace Skimasque.Library.Encoding

/-- The UTF-8 bytes of a text. -/
def utf8 (text : String) : List UInt8 := text.toList.flatMap String.utf8EncodeChar

/-- `String::from_utf8`. -/
def fromUtf8 (bytes : List UInt8) : Option String := String.fromUTF8? ⟨bytes.toArray⟩

/-- `char::from_digit` for the digits of a byte. -/
def hexDigit (digit : Nat) : Char := if digit < 10 then Char.ofNat (48 + digit) else Char.ofNat (87 + digit)

def hexByte (byte : UInt8) : List Char := [hexDigit (byte >>> 4).toNat, hexDigit (byte &&& 0x0f).toNat]

/-- Lowercase hexadecimal, two digits a byte. -/
def hex (bytes : List UInt8) : String := String.ofList (bytes.flatMap hexByte)

theorem utf8_injective : Function.Injective utf8 := by
  intro left right same
  rw [← String.toByteArray_inj, ← String.utf8Encode_toList, ← String.utf8Encode_toList]
  unfold List.utf8Encode
  exact congrArg List.toByteArray same

theorem fromUTF8_utf8 (text : String) : String.fromUTF8? ⟨(utf8 text).toArray⟩ = some text := by
  have bytes : (⟨(utf8 text).toArray⟩ : ByteArray) = text.toByteArray := by
    rw [← String.utf8Encode_toList, List.utf8Encode, utf8]
    exact ByteArray.ext (by simp)
  rw [bytes, String.fromUTF8?, dif_pos text.isValidUTF8]
  rfl

theorem utf8_of_fromUTF8 {bytes : List UInt8} {name : String} (read : String.fromUTF8? ⟨bytes.toArray⟩ = some name) :
    utf8 name = bytes := by
  unfold String.fromUTF8? at read
  split at read
  · have whole : name.toByteArray = ⟨bytes.toArray⟩ := by
      rw [← Option.some.inj read]
      rfl
    rw [← String.utf8Encode_toList] at whole
    have data := congrArg (fun array : ByteArray => array.data.toList) whole
    simpa [List.utf8Encode, utf8] using data
  · cases read

theorem fromUtf8_eq_some_iff {bytes : List UInt8} {text : String} : fromUtf8 bytes = some text ↔ utf8 text = bytes := by
  constructor
  · exact utf8_of_fromUTF8
  · rintro rfl
    exact fromUTF8_utf8 text

theorem encodeChar_ascii {c : Char} (ascii : c.toNat < 128) : String.utf8EncodeChar c = [UInt8.ofNat c.toNat] := by
  have single : c.utf8Size = 1 := by
    rw [Char.utf8Size, if_pos]
    exact UInt32.le_iff_toNat_le.mpr (Nat.le_of_lt_succ ascii)
  rw [String.utf8EncodeChar_eq_singleton single, ← UInt8.ofNat_uInt32ToNat]
  rfl

/-- Outside ASCII every byte has its high bit set. -/
theorem encodeChar_high {c : Char} (high : 128 ≤ c.toNat) : ∀ byte ∈ String.utf8EncodeChar c, 128 ≤ byte.toNat := by
  have marked (byte mark : UInt8) (large : 128 ≤ mark.toNat) : 128 ≤ (byte ||| mark).toNat := by
    rw [UInt8.toNat_or]
    exact Nat.le_trans large Nat.right_le_or
  intro byte member
  rw [String.utf8EncodeChar_eq_utf8EncodeCharFast, String.utf8EncodeCharFast] at member
  split at member
  · rename_i small
    exact absurd (UInt32.le_iff_toNat_le.mp small) (Nat.not_le.mpr high)
  · repeat' split at member
    all_goals
      simp only [List.mem_cons, List.not_mem_nil, or_false] at member
      rcases member with rfl | rfl | rfl | rfl <;> exact marked _ _ (by decide)

theorem hexDigit_injOn : ∀ left < 16, ∀ right < 16, hexDigit left = hexDigit right → left = right := by decide

theorem digits_lt (byte : UInt8) : (byte >>> 4).toNat < 16 ∧ (byte &&& 0x0f).toNat < 16 := by
  have below := byte.toNat_lt
  rw [UInt8.toNat_shiftRight, UInt8.toNat_and, Nat.shiftRight_eq_div_pow]
  exact ⟨Nat.div_lt_of_lt_mul below, Nat.lt_of_le_of_lt Nat.and_le_right (by decide)⟩

/-- A byte is its two digits. -/
theorem toNat_eq_digits (byte : UInt8) : byte.toNat = (byte >>> 4).toNat * 16 + (byte &&& 0x0f).toNat := by
  have low : byte.toNat &&& 15 = byte.toNat % 16 := Nat.and_two_pow_sub_one_eq_mod byte.toNat 4
  rw [UInt8.toNat_shiftRight, UInt8.toNat_and, Nat.shiftRight_eq_div_pow]
  change byte.toNat = byte.toNat / 16 * 16 + (byte.toNat &&& 15)
  rw [low]
  omega

theorem hexByte_injective : Function.Injective hexByte := by
  intro left right same
  simp only [hexByte, List.cons.injEq, and_true] at same
  have high := hexDigit_injOn _ (digits_lt left).1 _ (digits_lt right).1 same.1
  have low := hexDigit_injOn _ (digits_lt left).2 _ (digits_lt right).2 same.2
  rw [← UInt8.toNat_inj, toNat_eq_digits left, toNat_eq_digits right, high, low]

theorem hex_injective : Function.Injective hex := by
  intro left right same
  unfold hex at same
  rw [String.ofList_inj] at same
  induction left generalizing right with
  | nil =>
    cases right with
    | nil => rfl
    | cons byte rest => cases same
  | cons byte rest ih =>
    cases right with
    | nil => cases same
    | cons other more =>
      rw [List.flatMap_cons, List.flatMap_cons] at same
      obtain ⟨first, later⟩ := List.append_inj same rfl
      rw [hexByte_injective first, ih later]

theorem utf8_hexDigit : ∀ digit < 16, (String.utf8EncodeChar (hexDigit digit)).length = 1 := by decide

/-- Every digit is one byte long. -/
theorem utf8_hex_length (bytes : List UInt8) : (utf8 (hex bytes)).length = 2 * bytes.length := by
  unfold utf8 hex
  rw [String.toList_ofList]
  induction bytes with
  | nil => rfl
  | cons byte rest ih =>
    have digits := digits_lt byte
    rw [List.flatMap_cons, List.flatMap_append, List.length_append, ih]
    simp only [hexByte, List.flatMap_cons, List.flatMap_nil, List.length_append, List.length_nil, List.length_cons,
      utf8_hexDigit _ digits.1, utf8_hexDigit _ digits.2]
    omega

end Skimasque.Library.Encoding
