import Skimasque.Library.BigEndian
import Skimasque.Library.Result

/-! QUIC variable-length integers: the two top bits of the first byte give the length. -/

set_option autoImplicit false

namespace Skimasque.Core.Varint

open Library

/-- The largest value a QUIC varint can carry. -/
def maxValue : Nat := 2 ^ 62 - 1

inductive Error where
  | overflow (value : Nat)
  | unexpectedEnd
  deriving DecidableEq, Repr

def encodedLen (value : Nat) : Nat :=
  if value < 2 ^ 6 then 1
  else if value < 2 ^ 14 then 2
  else if value < 2 ^ 30 then 4
  else 8

/-- Append `value` to `out`; an overflow leaves `out` as it was. -/
def encode (value : Nat) (out : List UInt8) : Except Error (List UInt8) :=
  if maxValue < value then .error (.overflow value)
  else .ok (out ++
    match encodedLen value with
    | 1 => BigEndian.put 1 value
    | 2 => BigEndian.put 2 (value ||| (0b01 <<< 14))
    | 4 => BigEndian.put 4 (value ||| (0b10 <<< 30))
    | _ => BigEndian.put 8 (value ||| (0b11 <<< 62)))

/-- The varint at the head of `input`, with its length; a partial one is `unexpectedEnd`. -/
def decodeSlice (input : List UInt8) : Except Error (Nat × Nat) :=
  match input.head? with
  | none => .error .unexpectedEnd
  | some first =>
    let len := 1 <<< (first >>> 6).toNat
    -- A length the tag promises but the input does not have is a partial integer, not an error in it.
    if input.length < len then .error .unexpectedEnd
    else .ok (BigEndian.shiftIn (first &&& 0x3f).toNat ((input.take len).drop 1), len)

/-- The varint at the front of `buf`, and what comes after it. -/
def take (buf : List UInt8) : Except Error (Nat × List UInt8) :=
  (decodeSlice buf).map fun found => (found.1, buf.drop found.2)

theorem tag_toNat (first : UInt8) : (first >>> 6).toNat = first.toNat / 64 := by
  rw [UInt8.toNat_shiftRight, Nat.shiftRight_eq_div_pow]
  rfl

theorem payload_toNat (first : UInt8) : (first &&& 0x3f).toNat = first.toNat % 64 := by
  rw [UInt8.toNat_and]
  exact Nat.and_two_pow_sub_one_eq_mod first.toNat 6

theorem len_le (first : UInt8) : 1 <<< (first >>> 6).toNat ≤ 8 := by
  have below := first.toNat_lt
  rw [tag_toNat, Nat.shiftLeft_eq, Nat.one_mul]
  calc
    2 ^ (first.toNat / 64) ≤ 2 ^ 3 := Nat.pow_le_pow_right (by decide) (by omega)
    _ = 8 := rfl

theorem len_pos (first : UInt8) : 0 < 1 <<< (first >>> 6).toNat := by
  rw [Nat.shiftLeft_eq, Nat.one_mul]
  exact Nat.two_pow_pos _

theorem decodeSlice_ok {input : List UInt8} {value len : Nat}
    (decoded : decodeSlice input = .ok (value, len)) :
    0 < len ∧ len ≤ input.length ∧ value ≤ maxValue := by
  unfold decodeSlice at decoded
  cases input with
  | nil => simp at decoded
  | cons first rest =>
    simp only [List.head?_cons] at decoded
    split at decoded
    · cases decoded
    rename_i fits
    simp only [Except.ok.injEq, Prod.mk.injEq] at decoded
    obtain ⟨rfl, rfl⟩ := decoded
    refine ⟨len_pos first, Nat.not_lt.mp fits, ?_⟩
    generalize held : ((first :: rest).take (1 <<< (first >>> 6).toNat)).drop 1 = bytes
    have short : bytes.length ≤ 7 := by
      have := len_le first
      rw [← held, List.length_drop, List.length_take]
      omega
    have payload : (first &&& 0x3f).toNat + 1 ≤ 64 := by
      rw [payload_toNat]
      omega
    have bound := calc
      BigEndian.shiftIn (first &&& 0x3f).toNat bytes < ((first &&& 0x3f).toNat + 1) * 256 ^ bytes.length :=
        BigEndian.shiftIn_lt _ _
      _ ≤ 64 * 256 ^ 7 := Nat.mul_le_mul payload (Nat.pow_le_pow_right (by decide) short)
    unfold maxValue
    omega

/-- Input that follows a decoded varint does not change it. -/
theorem decodeSlice_append {input : List UInt8} {found : Nat × Nat}
    (decoded : decodeSlice input = .ok found)
    (more : List UInt8) : decodeSlice (input ++ more) = .ok found := by
  unfold decodeSlice at decoded ⊢
  cases input with
  | nil => simp at decoded
  | cons first rest =>
    simp only [List.head?_cons, List.cons_append] at decoded ⊢
    split at decoded
    · cases decoded
    rename_i fits
    have fits' : ¬ (first :: (rest ++ more)).length < 1 <<< (first >>> 6).toNat := by
      simp only [List.length_cons, List.length_append] at fits ⊢
      omega
    rw [if_neg fits', ← decoded, ← List.cons_append, List.take_append_of_le_length (Nat.not_lt.mp fits)]

/-- An integer written in `2 ^ tag` bytes, tagged with `tag` in its two top bits, reads back. -/
theorem decodeSlice_tagged (tag value : Nat) (more : List UInt8) (small : tag < 4)
    (fits : value < 2 ^ (8 * 2 ^ tag - 2)) :
    decodeSlice (BigEndian.put (2 ^ tag) (value ||| (tag <<< (8 * 2 ^ tag - 2))) ++ more) = .ok (value, 2 ^ tag) := by
  obtain ⟨m, width⟩ : ∃ m, 2 ^ tag = m + 1 := ⟨2 ^ tag - 1, by have := Nat.two_pow_pos tag; omega⟩
  have scale : 2 ^ (8 * 2 ^ tag - 2) = 64 * 256 ^ m := by
    rw [width, show 8 * (m + 1) - 2 = 6 + 8 * m by omega, Nat.pow_add, Nat.pow_mul]
  generalize whole : value ||| (tag <<< (8 * 2 ^ tag - 2)) = tagged
  have split : tagged = tag * 64 * 256 ^ m + value := by
    rw [← whole, Nat.or_comm, ← Nat.shiftLeft_add_eq_or_of_lt fits, Nat.shiftLeft_eq, scale, Nat.mul_assoc]
  -- The first byte holds the tag and the top six bits of the value; the m bytes after it hold the rest.
  have base : 0 < 256 ^ m := Nat.pow_pos (by decide)
  have high : value / 256 ^ m < 64 := by
    rw [Nat.div_lt_iff_lt_mul base, ← scale]
    exact fits
  have split_top : (tag * 64 + value / 256 ^ m) / 64 = tag ∧
    (tag * 64 + value / 256 ^ m) % 64 = value / 256 ^ m ∧
      (value / 256 ^ m + tag * 64) % 256 = tag * 64 + value / 256 ^ m := by
    generalize value / 256 ^ m = top at high ⊢
    omega
  have first : (UInt8.ofNat (tagged >>> (8 * m))).toNat = tag * 64 + value / 256 ^ m := by
    rw [UInt8.toNat_ofNat', Nat.shiftRight_eq_div_pow, Nat.pow_mul, split, Nat.add_comm,
      Nat.add_mul_div_right _ _ base]
    exact split_top.2.2
  have len : 1 <<< (UInt8.ofNat (tagged >>> (8 * m)) >>> 6).toNat = m + 1 := by
    rw [tag_toNat, first, Nat.shiftLeft_eq, Nat.one_mul, split_top.1, width]
  rw [width]
  unfold decodeSlice
  simp only [BigEndian.put, List.cons_append, List.head?_cons, len]
  rw [if_neg (by simp), List.take_succ_cons, List.take_left' (BigEndian.put_length m tagged), List.drop_succ_cons,
    List.drop_zero, BigEndian.shiftIn_put, payload_toNat, first]
  congr 2
  have low : tagged % 256 ^ m = value % 256 ^ m := by
    rw [split, Nat.add_comm, Nat.add_mul_mod_self_right]
  rw [low, split_top.2.1]
  exact Nat.div_add_mod' _ _

/-- What `encode` appends reads back from the front of any input that starts with it. -/
theorem decodeSlice_encode {value : Nat} (fits : value ≤ maxValue) :
    ∃ bytes, (∀ out, encode value out = .ok (out ++ bytes)) ∧
      ∀ more, decodeSlice (bytes ++ more) = .ok (value, bytes.length) := by
  have small : ¬ maxValue < value := Nat.not_lt.mpr fits
  have spelled (tag : Nat) (below : tag < 4) (bound : value < 2 ^ (8 * 2 ^ tag - 2))
      (same : ∀ out, encode value out = .ok (out ++ BigEndian.put (2 ^ tag) (value ||| (tag <<< (8 * 2 ^ tag - 2))))) :
      ∃ bytes, (∀ out, encode value out = .ok (out ++ bytes)) ∧
        ∀ more, decodeSlice (bytes ++ more) = .ok (value, bytes.length) := by
    refine ⟨_, same, fun more => ?_⟩
    rw [decodeSlice_tagged tag value more below bound, BigEndian.put_length]
  -- One case per length class, each an instance of the tagged encoding.
  by_cases one : value < 2 ^ 6
  · have len : encodedLen value = 1 := by rw [encodedLen, if_pos one]
    exact spelled 0 (by decide) one (fun out => by simp [encode, small, len])
  by_cases two : value < 2 ^ 14
  · have len : encodedLen value = 2 := by rw [encodedLen, if_neg one, if_pos two]
    exact spelled 1 (by decide) two (fun out => by simp [encode, small, len])
  by_cases four : value < 2 ^ 30
  · have len : encodedLen value = 4 := by rw [encodedLen, if_neg one, if_neg two, if_pos four]
    exact spelled 2 (by decide) four (fun out => by simp [encode, small, len])
  · have len : encodedLen value = 8 := by rw [encodedLen, if_neg one, if_neg two, if_neg four]
    have wide : value < 2 ^ 62 := by unfold maxValue at fits; omega
    exact spelled 3 (by decide) wide (fun out => by simp [encode, small, len])

/-- What is taken is at least one byte, and no more than a varint can carry. -/
theorem take_ok {buf rest : List UInt8} {value : Nat} (taken : take buf = .ok (value, rest)) :
    rest.length < buf.length ∧ value ≤ maxValue := by
  obtain ⟨⟨found, len⟩, decoded, same⟩ := Result.map_eq_ok_iff.mp taken
  cases same
  have facts := decodeSlice_ok decoded
  rw [List.length_drop]
  exact ⟨by omega, facts.2.2⟩

/-- What `encode` appends is taken off the front of any input that starts with it. -/
theorem take_encode {value : Nat} (fits : value ≤ maxValue) :
    ∃ bytes, (∀ out, encode value out = .ok (out ++ bytes)) ∧ ∀ more, take (bytes ++ more) = .ok (value, more) := by
  obtain ⟨bytes, wrote, back⟩ := decodeSlice_encode fits
  refine ⟨bytes, wrote, fun more => ?_⟩
  simp only [take, back, Except.map, List.drop_left]

/-- Only what fits is written. -/
theorem encode_ok {value : Nat} {out wire : List UInt8} (wrote : encode value out = .ok wire) : value ≤ maxValue := by
  unfold encode at wrote
  split at wrote
  · cases wrote
  · omega

/-- The worked examples of RFC 9000, Appendix A.1. -/
example : decodeSlice [0x9d, 0x7f, 0x3e, 0x7d] = .ok (494878333, 4) := by decide
example : encode 15293 [] = .ok [0x7b, 0xbd] := by decide

end Skimasque.Core.Varint
