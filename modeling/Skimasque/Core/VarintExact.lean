import Skimasque.Core.Varint

/-! The encoding of an integer is the shortest of those that are read as it, and no part of it is read. -/

set_option autoImplicit false

namespace Skimasque.Core.Varint
open Library

/-- `encode`, with the buffer it writes to. -/
def encodeInto (value : Nat) (out : List UInt8) : Except Error Unit × List UInt8 :=
  match encode value out with
  | .ok written => (.ok (), written)
  | .error error => (.error error, out)

/-- `take_slice`, with the slice it advances. -/
def takeSlice (input : List UInt8) : Except Error Nat × List UInt8 :=
  match decodeSlice input with
  | .ok (value, len) => (.ok value, input.drop len)
  | .error error => (.error error, input)

/-- `take`, with the buffer it advances. -/
def takeBytes (buf : List UInt8) : Except Error Nat × List UInt8 :=
  match take buf with
  | .ok (value, rest) => (.ok value, rest)
  | .error error => (.error error, buf)

variable {value len : Nat} {input bytes : List UInt8}

theorem encodedLen_cases (value : Nat) :
    encodedLen value = 1 ∨ encodedLen value = 2 ∨ encodedLen value = 4 ∨ encodedLen value = 8 := by
  unfold encodedLen
  split
  · exact .inl rfl
  split
  · exact .inr (.inl rfl)
  split
  · exact .inr (.inr (.inl rfl))
  · exact .inr (.inr (.inr rfl))

theorem encode_length {out : List UInt8} (wrote : encode value out = .ok bytes) :
    bytes.length = out.length + encodedLen value := by
  unfold encode at wrote
  split at wrote
  · cases wrote
  · cases wrote
    rw [List.length_append]
    rcases encodedLen_cases value with one | two | four | eight
    · simp [one]
    · simp [two]
    · simp [four]
    · simp [eight]

theorem decodeSlice_error {error : Error} (failed : decodeSlice input = .error error) : error = .unexpectedEnd := by
  unfold decodeSlice at failed
  split at failed
  · cases failed
    rfl
  · dsimp only at failed
    split at failed
    · cases failed
      rfl
    · cases failed

/-- What is decoded spans a power of two bytes, and fits in the bits that the tag leaves of them. -/
theorem decodeSlice_shape (decoded : decodeSlice input = .ok (value, len)) :
    ∃ first rest, input = first :: rest ∧ len = 2 ^ (first.toNat / 64) ∧ first.toNat / 64 < 4 ∧
      len ≤ input.length ∧ value = BigEndian.shiftIn (first.toNat % 64) (rest.take (len - 1)) := by
  unfold decodeSlice at decoded
  cases input with
  | nil => cases decoded
  | cons first rest =>
    have below := first.toNat_lt
    simp only [List.head?_cons] at decoded
    split at decoded
    · cases decoded
    · rename_i fits
      simp only [Except.ok.injEq, Prod.mk.injEq] at decoded
      obtain ⟨rfl, rfl⟩ := decoded
      have long : 1 <<< (first >>> 6).toNat = 2 ^ (first.toNat / 64) := by
        rw [tag_toNat, Nat.shiftLeft_eq, Nat.one_mul]
      obtain ⟨less, positive⟩ : ∃ less, 2 ^ (first.toNat / 64) = less + 1 :=
        ⟨2 ^ (first.toNat / 64) - 1, by have := Nat.two_pow_pos (first.toNat / 64); omega⟩
      refine ⟨first, rest, rfl, long, by omega, Nat.not_lt.mp fits, ?_⟩
      rw [payload_toNat, long, positive, List.take_succ_cons, List.drop_succ_cons, List.drop_zero, Nat.add_sub_cancel]

theorem encodedLen_le (decoded : decodeSlice input = .ok (value, len)) : encodedLen value ≤ len := by
  obtain ⟨first, rest, rfl, long, small, -, same⟩ := decodeSlice_shape decoded
  have short : (rest.take (len - 1)).length ≤ len - 1 := List.length_take_le ..
  have bound := calc
    value = BigEndian.shiftIn (first.toNat % 64) (rest.take (len - 1)) := same
    _ < (first.toNat % 64 + 1) * 256 ^ (rest.take (len - 1)).length := BigEndian.shiftIn_lt _ _
    _ ≤ 64 * 256 ^ (len - 1) := Nat.mul_le_mul (by omega) (Nat.pow_le_pow_right (by decide) short)
  -- The bound is the largest value of each length in turn.
  generalize first.toNat / 64 = tag at long small
  unfold encodedLen
  subst long
  have tags : tag = 0 ∨ tag = 1 ∨ tag = 2 ∨ tag = 3 := by omega
  rcases tags with rfl | rfl | rfl | rfl
  · grind
  · grind
  · grind
  · grind

/-- Two encodings of one length that are read as one integer are the same. -/
theorem decodeSlice_injective {other : List UInt8} (decoded : decodeSlice bytes = .ok (value, bytes.length))
    (otherDecoded : decodeSlice other = .ok (value, other.length)) (long : bytes.length = other.length) :
    bytes = other := by
  obtain ⟨first, rest, rfl, size, -, -, read⟩ := decodeSlice_shape decoded
  obtain ⟨otherFirst, otherRest, rfl, otherSize, -, -, otherRead⟩ := decodeSlice_shape otherDecoded
  simp only [List.length_cons, Nat.add_sub_cancel, List.take_length] at read otherRead
  -- One length is one tag; what is left of the first byte and the rest are the value.
  have tags : first.toNat / 64 = otherFirst.toNat / 64 := by
    rw [size, otherSize] at long
    exact Nat.pow_right_injective (Nat.le_refl 2) long
  have both := BigEndian.shiftIn_injective (by simpa using long) (read.symm.trans otherRead)
  have same : first = otherFirst := by
    rw [← UInt8.toNat_inj]
    omega
  rw [same, both.2]

/-- A strict prefix of an encoding is not read as anything. -/
theorem decodeSlice_of_prefix {front : List UInt8} (decoded : decodeSlice bytes = .ok (value, bytes.length))
    (shorter : front <+: bytes) (strict : front ≠ bytes) : decodeSlice front = .error .unexpectedEnd := by
  cases read : decodeSlice front with
  | error error => rw [decodeSlice_error read]
  | ok found =>
    -- What a prefix is read as, the whole is read as too, with nothing left to be missing.
    obtain ⟨more, rfl⟩ := shorter
    have again := decodeSlice_append read more
    rw [decoded] at again
    cases again
    have within := (decodeSlice_ok read).2.1
    rw [List.length_append] at within
    have none : more = [] := List.eq_nil_of_length_eq_zero (by omega)
    rw [none, List.append_nil] at strict
    exact absurd rfl strict

/-- An integer of up to 62 bits is read back from its encoding whatever follows it, and from no part of it; no other
bytes that are as few are read as it. A larger one is not written, and not read. -/
theorem integers_are_exact :
    (∀ value ≤ maxValue, ∃ bytes, (∀ out, encodeInto value out = (.ok (), out ++ bytes)) ∧
      (∀ suffix, decodeSlice (bytes ++ suffix) = .ok (value, encodedLen value)) ∧
      (∀ front, front <+: bytes → front ≠ bytes → decodeSlice front = .error .unexpectedEnd ∧
        takeSlice front = (.error .unexpectedEnd, front) ∧ takeBytes front = (.error .unexpectedEnd, front)) ∧
      ∀ other len, decodeSlice other = .ok (value, len) → other = bytes ∨ bytes.length < other.length) ∧
    (∀ value, maxValue < value → ∀ out, encodeInto value out = (.error (.overflow value), out)) ∧
    ∀ input value len, decodeSlice input = .ok (value, len) → value ≤ maxValue := by
  refine ⟨?_, ?_, ?_⟩
  · intro value fits
    obtain ⟨bytes, wrote, back⟩ := decodeSlice_encode fits
    have long : bytes.length = encodedLen value := by simpa using encode_length (wrote [])
    have whole : decodeSlice bytes = .ok (value, bytes.length) := by simpa using back []
    refine ⟨bytes, ?_, ?_, ?_, ?_⟩
    · intro out
      rw [encodeInto, wrote]
    · intro suffix
      rw [back, long]
    · intro front shorter strict
      have ended := decodeSlice_of_prefix whole shorter strict
      simp only [takeSlice, takeBytes, take, ended, Except.map, and_self]
    · intro other len decoded
      have most := encodedLen_le decoded
      have within := (decodeSlice_ok decoded).2.1
      by_cases longer : bytes.length < other.length
      · exact .inr longer
      · have size : len = other.length := by omega
        rw [size] at decoded
        exact .inl (decodeSlice_injective decoded whole (by omega))
  · intro value large out
    rw [encodeInto, encode, if_pos large]
  · intro input value len decoded
    exact (decodeSlice_ok decoded).2.2

end Skimasque.Core.Varint
