import Skimasque.Library.Encoding
import Skimasque.Library.AddressText
import Mathlib.Data.List.Infix

/-! Percent-encoding of template values.

Encoding leaves the unreserved characters and escapes every other byte. Decoding reads the two bytes after
a `%` with the number parser of the standard library, which also takes a sign.
-/

set_option autoImplicit false

namespace Skimasque.Core
open Library Library.AddressText

def isUnreserved (byte : UInt8) : Bool :=
  Text.isAsciiAlphanumeric (Char.ofNat byte.toNat) || ['-', '.', '_', '~'].contains (Char.ofNat byte.toNat)

/-- What can stand in an expanded simple expression: the unreserved set and the escapes. -/
def isExpansionSafe (c : Char) : Bool := Text.isAsciiAlphanumeric c || ['-', '.', '_', '~', '%'].contains c

/-- A digit as `{:X}` writes it. -/
def upperHexDigit (digit : Nat) : Char := if digit < 10 then Char.ofNat (48 + digit) else Char.ofNat (55 + digit)

def pctEncodeByte (byte : UInt8) : List Char :=
  if isUnreserved byte then [Char.ofNat byte.toNat]
  else ['%', upperHexDigit (byte.toNat / 16), upperHexDigit (byte.toNat % 16)]

/-- Keep the unreserved set, escape everything else. -/
def pctEncode (value : String) : String := String.ofList ((Encoding.utf8 value).flatMap pctEncodeByte)

/-- `u8::from_str_radix`: one `+` is allowed in front of the digits. -/
def u8FromStrRadix (text : String) (radix : Nat) : Option UInt8 :=
  let digits := match text.toList with
    | '+' :: rest => rest
    | all => all
  if digits.isEmpty then none
  else
    (digits.foldlM (fun value c => (toDigit radix c).bind fun digit =>
      if value * radix + digit < 256 then some (value * radix + digit) else none) 0).map UInt8.ofNat

/-- The loop of `pctDecode` over the bytes. -/
def decodeBytes : List UInt8 → Option (List UInt8)
  | [] => some []
  | byte :: rest =>
    if byte = 0x25 then
      match rest with
      | high :: low :: rest => do
        let hex ← Encoding.fromUtf8 [high, low]
        let value ← u8FromStrRadix hex 16
        let out ← decodeBytes rest
        some (value :: out)
      | _ => none
    else do
      let out ← decodeBytes rest
      some (byte :: out)

def pctDecode (value : String) : Option String := (decodeBytes (Encoding.utf8 value)).bind Encoding.fromUtf8

/-! ## The grammar of escapes -/

def isHexDigit (c : Char) : Bool := (toDigit 16 c).isSome

/-- Every `%` is followed by a character that may come first and a hexadecimal digit. -/
def Escaped (first : Char → Bool) (text : List Char) : Prop :=
  ∀ front rest, text = front ++ '%' :: rest →
    ∃ high low after, rest = high :: low :: after ∧ first high = true ∧ isHexDigit low = true

/-- Every `%` is followed by two hexadecimal digits. -/
abbrev WellFormed (text : List Char) : Prop := Escaped isHexDigit text

/-- As `WellFormed`, but a `+` may stand for the first digit. -/
abbrev LooselyFormed (text : List Char) : Prop := Escaped (fun c => isHexDigit c || c == '+') text

def hexValue (c : Char) : Nat := (toDigit 16 c).getD 0

/-- The bytes a text stands for. -/
def unescape : List Char → List UInt8
  | '%' :: high :: low :: rest => UInt8.ofNat (hexValue high * 16 + hexValue low) :: unescape rest
  | c :: rest => String.utf8EncodeChar c ++ unescape rest
  | [] => []

section
variable {first : Char → Bool} {c high low : Char} {rest : List Char}

theorem escaped_nil : Escaped first [] := by
  intro front rest same
  simp at same

theorem escaped_cons (plain : c ≠ '%') : Escaped first (c :: rest) ↔ Escaped first rest := by
  constructor
  · intro whole front after same
    exact whole (c :: front) after (by rw [same, List.cons_append])
  · intro tail front after same
    cases front with
    | nil => exact absurd (List.cons.inj same).1 plain
    | cons head front => exact tail front after (List.cons.inj same).2

theorem escaped_escape (plain : first '%' = false) : Escaped first ('%' :: high :: low :: rest) ↔
    first high = true ∧ isHexDigit low = true ∧ Escaped first rest := by
  have digit : isHexDigit '%' = false := by decide
  constructor
  · intro whole
    obtain ⟨high', low', after, same, firstHigh, lowDigit⟩ := whole [] _ rfl
    cases same
    refine ⟨firstHigh, lowDigit, ?_⟩
    intro front after same
    exact whole ('%' :: high :: low :: front) after (by rw [same]; rfl)
  · rintro ⟨firstHigh, lowDigit, tail⟩
    have highPlain : high ≠ '%' := fun same => by simp [same, plain] at firstHigh
    have lowPlain : low ≠ '%' := fun same => by simp [same, digit] at lowDigit
    intro front after same
    cases front with
    | nil =>
      cases same
      exact ⟨high, low, rest, rfl, firstHigh, lowDigit⟩
    | cons head front =>
      have inner := (List.cons.inj same).2
      have tail := ((escaped_cons highPlain).mpr ((escaped_cons lowPlain).mpr tail))
      exact tail front after inner

end

theorem Escaped.mono {first second : Char → Bool} (le : ∀ c, first c = true → second c = true) {text : List Char}
    (escaped : Escaped first text) : Escaped second text := by
  intro front rest same
  obtain ⟨high, low, after, same, firstHigh, lowDigit⟩ := escaped front rest same
  exact ⟨high, low, after, same, le high firstHigh, lowDigit⟩

/-! ## What decoding accepts -/

theorem ascii_of_isHexDigit {c : Char} (digit : isHexDigit c = true) : c.toNat < 128 := by
  have le_iff (left right : Char) : left ≤ right ↔ left.toNat ≤ right.toNat := UInt32.le_iff_toNat_le
  unfold isHexDigit toDigit at digit
  simp only [le_iff, Char.reduceToNat] at digit
  split_ifs at digit <;> first | omega | simp at digit

theorem toDigit_of_isHexDigit {c : Char} (digit : isHexDigit c = true) : toDigit 16 c = some (hexValue c) ∧ hexValue c < 16 := by
  obtain ⟨value, found⟩ := Option.isSome_iff_exists.mp digit
  have small : value < 16 := by
    unfold toDigit at found
    simpa using (Option.filter_eq_some_iff.mp found).2
  rw [hexValue, found]
  exact ⟨rfl, small⟩

theorem ascii_of_mem_pair {c : Char} (fits : (isHexDigit c || c == '+') = true) : c.toNat < 128 := by
  cases Bool.or_eq_true_iff.mp fits with
  | inl digit => exact ascii_of_isHexDigit digit
  | inr plus =>
    rw [eq_of_beq plus]
    decide

/-- Two bytes are read as a number when they are two digits, or a `+` and a digit. -/
theorem u8FromStrRadix_eq_some_iff {hex : String} (two : (Encoding.utf8 hex).length = 2) {value : UInt8} :
    u8FromStrRadix hex 16 = some value ↔ ∃ high low, hex.toList = [high, low] ∧ (isHexDigit high || high == '+') = true ∧
      isHexDigit low = true ∧ UInt8.ofNat (hexValue high * 16 + hexValue low) = value := by
  have none_of {c : Char} (other : ¬isHexDigit c = true) : toDigit 16 c = none := by simpa [isHexDigit] using other
  unfold Encoding.utf8 at two
  unfold u8FromStrRadix
  match chars : hex.toList with
  | [] => simp
  | [only] =>
    have wide : ¬only.toNat < 128 := by
      intro ascii
      rw [chars, List.flatMap_cons, Encoding.encodeChar_ascii ascii] at two
      simp at two
    have other : ¬isHexDigit only = true := fun digit => wide (ascii_of_isHexDigit digit)
    by_cases plus : only = '+'
    · simp [plus]
    · simp [plus, none_of other]
  | [high, low] =>
    simp only [List.cons.injEq, and_true]
    by_cases plus : high = '+'
    · subst plus
      by_cases digit : isHexDigit low = true
      · obtain ⟨found, small⟩ := toDigit_of_isHexDigit digit
        have fits : hexValue low < 256 := by omega
        have zero : hexValue '+' = 0 := rfl
        simp [found, fits, digit, zero]
      · simp [none_of digit, digit]
    · by_cases highDigit : isHexDigit high = true
      · obtain ⟨highFound, highSmall⟩ := toDigit_of_isHexDigit highDigit
        by_cases digit : isHexDigit low = true
        · obtain ⟨found, small⟩ := toDigit_of_isHexDigit digit
          have first : hexValue high < 256 := by omega
          have fits : hexValue high * 16 + hexValue low < 256 := by omega
          simp [plus, highFound, found, first, fits, digit, highDigit]
        · have first : hexValue high < 256 := by omega
          simp [plus, highFound, first, none_of digit, digit]
      · simp [plus, none_of highDigit, highDigit]
  | high :: low :: third :: rest =>
    rw [chars] at two
    have some (c : Char) : 0 < (String.utf8EncodeChar c).length := List.length_pos_of_ne_nil String.utf8EncodeChar_ne_nil
    have := some high
    have := some low
    have := some third
    simp only [List.flatMap_cons, List.length_append] at two
    omega

theorem decodeBytes_plain {byte : UInt8} (plain : byte ≠ 0x25) (rest : List UInt8) :
    decodeBytes (byte :: rest) = (decodeBytes rest).map (byte :: ·) := by
  rw [decodeBytes.eq_def]
  simp only [if_neg plain]
  cases decodeBytes rest <;> rfl

theorem decodeBytes_append {front : List UInt8} (plain : ∀ byte ∈ front, byte ≠ 0x25) (rest : List UInt8) :
    decodeBytes (front ++ rest) = (decodeBytes rest).map (front ++ ·) := by
  induction front with
  | nil => simp
  | cons byte front ih =>
    rw [List.forall_mem_cons] at plain
    rw [List.cons_append, decodeBytes_plain plain.1, ih plain.2, Option.map_map]
    rfl

theorem decodeBytes_escape (high low : UInt8) (rest : List UInt8) :
    decodeBytes (0x25 :: high :: low :: rest) = (Encoding.fromUtf8 [high, low]).bind fun hex =>
      (u8FromStrRadix hex 16).bind fun value => (decodeBytes rest).map (value :: ·) := by
  rw [decodeBytes, if_pos rfl]
  cases Encoding.fromUtf8 [high, low] with
  | none => rfl
  | some hex =>
    simp only [bind, Option.bind_some]
    cases u8FromStrRadix hex 16 with
    | none => rfl
    | some value => cases decodeBytes rest <;> rfl

theorem toNat_ofNat_of_ascii {c : Char} (ascii : c.toNat < 128) : (UInt8.ofNat c.toNat).toNat = c.toNat :=
  UInt8.toNat_ofNat_of_lt' (by change c.toNat < 256; omega)

theorem encodeChar_plain {c : Char} (plain : c ≠ '%') : ∀ byte ∈ String.utf8EncodeChar c, byte ≠ 0x25 := by
  intro byte member same
  by_cases ascii : c.toNat < 128
  · rw [Encoding.encodeChar_ascii ascii, List.mem_singleton] at member
    have value := congrArg UInt8.toNat (member.symm.trans same)
    rw [toNat_ofNat_of_ascii ascii] at value
    exact plain (Char.toNat_inj.mp value)
  · have := Encoding.encodeChar_high (Nat.not_lt.mp ascii) byte member
    rw [same] at this
    exact absurd this (by decide)

/-- The first byte of a text is its first character, when it is that of an ASCII character. -/
theorem cons_of_flatMap {c : Char} (ascii : c.toNat < 128) {chars : List Char} {bytes : List UInt8}
    (same : chars.flatMap String.utf8EncodeChar = UInt8.ofNat c.toNat :: bytes) :
    ∃ rest, chars = c :: rest ∧ rest.flatMap String.utf8EncodeChar = bytes := by
  cases chars with
  | nil => cases same
  | cons first rest =>
    rw [List.flatMap_cons] at same
    by_cases firstAscii : first.toNat < 128
    · rw [Encoding.encodeChar_ascii firstAscii, List.singleton_append, List.cons.injEq] at same
      have value := congrArg UInt8.toNat same.1
      rw [toNat_ofNat_of_ascii firstAscii, toNat_ofNat_of_ascii ascii] at value
      rw [Char.toNat_inj.mp value]
      exact ⟨rest, rfl, same.2⟩
    · have high := Encoding.encodeChar_high (Nat.not_lt.mp firstAscii)
      cases encoded : String.utf8EncodeChar first with
      | nil => exact absurd encoded String.utf8EncodeChar_ne_nil
      | cons byte others =>
        rw [encoded, List.cons_append, List.cons.injEq] at same
        have large := high byte (by rw [encoded]; exact List.mem_cons_self ..)
        rw [same.1, toNat_ofNat_of_ascii ascii] at large
        omega

theorem decodeBytes_percent {tail : List Char} {out : List UInt8} :
    decodeBytes (0x25 :: tail.flatMap String.utf8EncodeChar) = some out ↔
      ∃ high low after decoded, tail = high :: low :: after ∧ (isHexDigit high || high == '+') = true ∧
        isHexDigit low = true ∧ decodeBytes (after.flatMap String.utf8EncodeChar) = some decoded ∧
        UInt8.ofNat (hexValue high * 16 + hexValue low) :: decoded = out := by
  have pair {high low : Char} (highAscii : high.toNat < 128) (lowAscii : low.toNat < 128) :
      [high, low].flatMap String.utf8EncodeChar = [UInt8.ofNat high.toNat, UInt8.ofNat low.toNat] := by
    rw [List.flatMap_cons, List.flatMap_cons, Encoding.encodeChar_ascii highAscii, Encoding.encodeChar_ascii lowAscii]
    rfl
  constructor
  · intro decoded
    match bytes : tail.flatMap String.utf8EncodeChar with
    | [] =>
      rw [bytes] at decoded
      cases decoded
    | [only] =>
      rw [bytes] at decoded
      cases decoded
    | highByte :: lowByte :: rest =>
      rw [bytes, decodeBytes_escape] at decoded
      simp only [Option.bind_eq_some_iff, Option.map_eq_some_iff] at decoded
      obtain ⟨hex, isText, value, number, after, read, same⟩ := decoded
      have hexBytes := Encoding.fromUtf8_eq_some_iff.mp isText
      obtain ⟨high, low, chars, highFits, lowDigit, rfl⟩ :=
        (u8FromStrRadix_eq_some_iff (by rw [hexBytes]; rfl)).mp number
      have highAscii := ascii_of_mem_pair highFits
      have lowAscii := ascii_of_isHexDigit lowDigit
      rw [Encoding.utf8, chars, pair highAscii lowAscii] at hexBytes
      cases hexBytes
      obtain ⟨_, rfl, lowBytes⟩ := cons_of_flatMap highAscii bytes
      obtain ⟨_, rfl, afterBytes⟩ := cons_of_flatMap lowAscii lowBytes
      rw [← afterBytes] at read
      exact ⟨high, low, _, after, rfl, highFits, lowDigit, read, same⟩
  · rintro ⟨high, low, after, decoded, rfl, highFits, lowDigit, read, rfl⟩
    have highAscii := ascii_of_mem_pair highFits
    have lowAscii := ascii_of_isHexDigit lowDigit
    have hexBytes : Encoding.utf8 (String.ofList [high, low]) = [UInt8.ofNat high.toNat, UInt8.ofNat low.toNat] := by
      rw [Encoding.utf8, String.toList_ofList, pair highAscii lowAscii]
    have two : (Encoding.utf8 (String.ofList [high, low])).length = 2 := by
      rw [hexBytes]
      rfl
    have number := (u8FromStrRadix_eq_some_iff two).mpr
      ⟨high, low, String.toList_ofList, highFits, lowDigit, rfl⟩
    rw [List.flatMap_cons, List.flatMap_cons, Encoding.encodeChar_ascii highAscii, Encoding.encodeChar_ascii lowAscii,
      List.singleton_append, List.singleton_append, decodeBytes_escape, Encoding.fromUtf8_eq_some_iff.mpr hexBytes,
      Option.bind_some, number, Option.bind_some, read]
    rfl

/-- Decoding takes the texts whose escapes are loosely formed to the bytes they stand for. -/
theorem decodeBytes_eq_some_iff {chars : List Char} {out : List UInt8} :
    decodeBytes (chars.flatMap String.utf8EncodeChar) = some out ↔ LooselyFormed chars ∧ unescape chars = out := by
  have sign : String.utf8EncodeChar '%' = [0x25] := by decide
  induction chars using unescape.induct generalizing out with
  | case1 high low rest ih =>
    have escape : LooselyFormed ('%' :: high :: low :: rest) ↔ _ := escaped_escape (by decide)
    rw [escape, unescape, List.flatMap_cons, sign, List.singleton_append, decodeBytes_percent]
    constructor
    · rintro ⟨_, _, _, decoded, same, highFits, lowDigit, read, rfl⟩
      cases same
      obtain ⟨formed, rfl⟩ := ih.mp read
      exact ⟨⟨highFits, lowDigit, formed⟩, rfl⟩
    · rintro ⟨⟨highFits, lowDigit, formed⟩, rfl⟩
      exact ⟨high, low, rest, _, rfl, highFits, lowDigit, ih.mpr ⟨formed, rfl⟩, rfl⟩
  | case2 c rest notEscape ih =>
    by_cases plain : c = '%'
    · subst plain
      rw [List.flatMap_cons, sign, List.singleton_append, decodeBytes_percent]
      constructor
      · rintro ⟨high, low, after, _, same, _⟩
        exact (notEscape high low after rfl same).elim
      · rintro ⟨formed, _⟩
        obtain ⟨high, low, after, same, _⟩ := formed [] rest rfl
        exact (notEscape high low after rfl same).elim
    · have read : unescape (c :: rest) = String.utf8EncodeChar c ++ unescape rest := by
        rw [unescape]
        exact notEscape
      have tail : LooselyFormed (c :: rest) ↔ _ := escaped_cons plain
      rw [List.flatMap_cons, decodeBytes_append (encodeChar_plain plain), tail, read, Option.map_eq_some_iff]
      constructor
      · rintro ⟨decoded, found, rfl⟩
        obtain ⟨formed, rfl⟩ := ih.mp found
        exact ⟨formed, rfl⟩
      · rintro ⟨formed, rfl⟩
        exact ⟨_, ih.mpr ⟨formed, rfl⟩, rfl⟩
  | case3 => simp [decodeBytes, unescape, escaped_nil]

theorem pctDecode_eq_some_iff {value decoded : String} :
    pctDecode value = some decoded ↔ LooselyFormed value.toList ∧ Encoding.utf8 decoded = unescape value.toList := by
  rw [pctDecode, Option.bind_eq_some_iff]
  constructor
  · rintro ⟨bytes, found, text⟩
    obtain ⟨formed, rfl⟩ := decodeBytes_eq_some_iff.mp found
    exact ⟨formed, Encoding.fromUtf8_eq_some_iff.mp text⟩
  · rintro ⟨formed, bytes⟩
    exact ⟨_, decodeBytes_eq_some_iff.mpr ⟨formed, rfl⟩, Encoding.fromUtf8_eq_some_iff.mpr bytes⟩

theorem unescape_plain {chars : List Char} (absent : '%' ∉ chars) : unescape chars = chars.flatMap String.utf8EncodeChar := by
  induction chars with
  | nil => rfl
  | cons c rest ih =>
    rw [List.mem_cons, not_or] at absent
    rw [unescape, ih absent.2, List.flatMap_cons]
    exact fun _ _ _ same => (absent.1 same.symm).elim

theorem pctDecode_plain {value : String} (absent : '%' ∉ value.toList) : pctDecode value = some value := by
  refine pctDecode_eq_some_iff.mpr ⟨?_, (unescape_plain absent).symm⟩
  intro front rest same
  rw [same] at absent
  exact absurd (List.mem_append_right _ (List.mem_cons_self ..)) absent

theorem length_unescape {chars : List Char} (formed : LooselyFormed chars) :
    (unescape chars).length + chars.count '%' ≤ (chars.flatMap String.utf8EncodeChar).length := by
  have some (c : Char) : 0 < (String.utf8EncodeChar c).length := List.length_pos_of_ne_nil String.utf8EncodeChar_ne_nil
  induction chars using unescape.induct with
  | case1 high low rest ih =>
    have escape : LooselyFormed ('%' :: high :: low :: rest) ↔ _ := escaped_escape (by decide)
    obtain ⟨highFits, lowDigit, tail⟩ := escape.mp formed
    have highPlain : high ≠ '%' := fun same => by simp [same, isHexDigit, AddressText.toDigit] at highFits
    have lowPlain : low ≠ '%' := fun same => by simp [same, isHexDigit, AddressText.toDigit] at lowDigit
    have := ih tail
    have := some '%'
    have := some high
    have := some low
    simp only [unescape, List.length_cons, List.count_cons, List.flatMap_cons, List.length_append, beq_iff_eq, highPlain,
      lowPlain, if_true, if_false]
    omega
  | case2 c rest notEscape ih =>
    have plain : c ≠ '%' := by
      rintro rfl
      obtain ⟨high, low, after, same, _⟩ := formed [] rest rfl
      exact notEscape high low after rfl same
    have tail : LooselyFormed (c :: rest) ↔ _ := escaped_cons plain
    have := ih (tail.mp formed)
    rw [unescape]
    · simp only [List.length_append, List.count_cons, List.flatMap_cons, beq_iff_eq, plain, if_false]
      omega
    · exact notEscape
  | case3 => simp [unescape]

/-- Decoding never lengthens a text, and one with an escape gets shorter. -/
theorem pctDecode_shrinks {value decoded : String} (read : pctDecode value = some decoded) :
    (Encoding.utf8 decoded).length ≤ (Encoding.utf8 value).length ∧
      ((Encoding.utf8 decoded).length = (Encoding.utf8 value).length → '%' ∉ value.toList ∧ decoded = value) := by
  obtain ⟨formed, bytes⟩ := pctDecode_eq_some_iff.mp read
  have bound := length_unescape formed
  rw [← bytes] at bound
  change _ ≤ (Encoding.utf8 value).length at bound
  refine ⟨by omega, fun same => ?_⟩
  have absent : '%' ∉ value.toList := List.count_eq_zero.mp (by omega)
  rw [pctDecode_plain absent] at read
  exact ⟨absent, (Option.some.inj read).symm⟩

/-! ## What encoding writes -/

theorem isUnreserved_spec : ∀ n < 256, isUnreserved (UInt8.ofNat n) = true →
    n < 128 ∧ Char.ofNat n ≠ '%' ∧ isExpansionSafe (Char.ofNat n) = true := by
  decide +kernel

theorem upperHexDigit_spec : ∀ digit < 16, isHexDigit (upperHexDigit digit) = true ∧
    hexValue (upperHexDigit digit) = digit ∧ isExpansionSafe (upperHexDigit digit) = true := by
  decide

/-- An encoded byte is one unreserved character or an escape. -/
theorem pctEncodeByte_cases (byte : UInt8) :
    (∃ c, pctEncodeByte byte = [c] ∧ c ≠ '%' ∧ isExpansionSafe c = true ∧ String.utf8EncodeChar c = [byte]) ∨
    (∃ high low, pctEncodeByte byte = ['%', high, low] ∧ isHexDigit high = true ∧ isHexDigit low = true ∧
      isExpansionSafe high = true ∧ isExpansionSafe low = true ∧ UInt8.ofNat (hexValue high * 16 + hexValue low) = byte) := by
  have below := byte.toNat_lt
  unfold pctEncodeByte
  split
  · rename_i unreserved
    obtain ⟨ascii, plain, safe⟩ := isUnreserved_spec byte.toNat below (by rw [UInt8.ofNat_toNat]; exact unreserved)
    have value : (Char.ofNat byte.toNat).toNat = byte.toNat := by
      rw [Char.ofNat, dif_pos (.inl (by omega))]
      rfl
    refine .inl ⟨_, rfl, plain, safe, ?_⟩
    rw [Encoding.encodeChar_ascii (by omega), value, UInt8.ofNat_toNat]
  · obtain ⟨highDigit, highValue, highSafe⟩ := upperHexDigit_spec (byte.toNat / 16) (by omega)
    obtain ⟨lowDigit, lowValue, lowSafe⟩ := upperHexDigit_spec (byte.toNat % 16) (by omega)
    refine .inr ⟨_, _, rfl, highDigit, lowDigit, highSafe, lowSafe, ?_⟩
    rw [highValue, lowValue, Nat.div_add_mod', UInt8.ofNat_toNat]

theorem unescape_encoded (bytes : List UInt8) (rest : List Char) :
    unescape (bytes.flatMap pctEncodeByte ++ rest) = bytes ++ unescape rest := by
  induction bytes with
  | nil => rfl
  | cons byte bytes ih =>
    rw [List.flatMap_cons]
    obtain ⟨c, written, plain, _, encoded⟩ | ⟨high, low, written, _, _, _, _, value⟩ := pctEncodeByte_cases byte
    · rw [written, List.append_assoc, List.singleton_append, unescape, ih, encoded]
      · rfl
      · exact fun _ _ _ same => (plain same).elim
    · rw [written, List.append_assoc]
      simp only [List.cons_append, List.nil_append, unescape, ih, value]

theorem escaped_encoded {first : Char → Bool} (plain : first '%' = false) (digits : ∀ c, isHexDigit c = true → first c = true)
    (bytes : List UInt8) (rest : List Char) : Escaped first (bytes.flatMap pctEncodeByte ++ rest) ↔ Escaped first rest := by
  induction bytes with
  | nil => rfl
  | cons byte bytes ih =>
    rw [List.flatMap_cons]
    obtain ⟨c, written, other, _, _⟩ | ⟨high, low, written, highDigit, lowDigit, _⟩ := pctEncodeByte_cases byte
    · rw [written, List.append_assoc, List.singleton_append, escaped_cons other, ih]
    · rw [written, List.append_assoc]
      simp only [List.cons_append, List.nil_append, escaped_escape plain, ih, digits high highDigit, lowDigit, true_and]

theorem pctEncode_wellFormed (value : String) : WellFormed (pctEncode value).toList := by
  have whole := (escaped_encoded (by decide) (fun _ digit => digit) (Encoding.utf8 value) []).mpr escaped_nil
  rw [List.append_nil] at whole
  rw [pctEncode, String.toList_ofList]
  exact whole

theorem WellFormed.loosely {text : List Char} (formed : WellFormed text) : LooselyFormed text :=
  Escaped.mono (fun c digit => by simp [digit]) formed

theorem pctDecode_pctEncode (value : String) : pctDecode (pctEncode value) = some value := by
  refine pctDecode_eq_some_iff.mpr ⟨(pctEncode_wellFormed value).loosely, ?_⟩
  rw [pctEncode, String.toList_ofList, ← List.append_nil (List.flatMap ..), unescape_encoded]
  simp [unescape]

theorem isExpansionSafe_of_mem_pctEncode {value : String} {c : Char} (member : c ∈ (pctEncode value).toList) :
    isExpansionSafe c = true := by
  rw [pctEncode, String.toList_ofList, List.mem_flatMap] at member
  obtain ⟨byte, _, inside⟩ := member
  obtain ⟨_, written, _, safe, _⟩ | ⟨_, _, written, _, _, highSafe, lowSafe, _⟩ := pctEncodeByte_cases byte
  · rw [written, List.mem_singleton] at inside
    rw [inside, safe]
  · rw [written] at inside
    simp only [List.mem_cons, List.not_mem_nil, or_false] at inside
    rcases inside with rfl | rfl | rfl
    · decide
    · exact highSafe
    · exact lowSafe

theorem pctEncode_ne_nil {value : String} (filled : value ≠ "") : (pctEncode value).toList ≠ [] := by
  intro empty
  apply filled
  have same := pctDecode_pctEncode value
  rw [← String.ofList_toList (s := pctEncode value), empty] at same
  exact (Option.some.inj same).symm

end Skimasque.Core
