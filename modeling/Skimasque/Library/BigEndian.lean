import Mathlib.Algebra.Order.Group.Nat
import Mathlib.Tactic.Common
import Mathlib.Tactic.Ring

/-! Fixed-width big-endian byte strings, written and read with shifts as byte buffers do it. -/

set_option autoImplicit false

namespace Skimasque.Library.BigEndian

/-- The `count` low bytes of `value`, most significant first. -/
def put : Nat → Nat → List UInt8
  | 0, _ => []
  | count + 1, value => UInt8.ofNat (value >>> (8 * count)) :: put count value

/-- Shift the bytes in from the right, onto `start`. -/
def shiftIn (start : Nat) (bytes : List UInt8) : Nat :=
  bytes.foldl (fun value byte => (value <<< 8) ||| byte.toNat) start

@[simp] theorem put_length (count value : Nat) : (put count value).length = count := by
  induction count with
  | zero => rfl
  | succ count ih => simp [put, ih]

theorem shift_or_byte (value : Nat) (byte : UInt8) :
    (value <<< 8) ||| byte.toNat = value * 256 + byte.toNat := by
  rw [← Nat.shiftLeft_add_eq_or_of_lt byte.toNat_lt, Nat.shiftLeft_eq]

theorem shiftIn_put (start count value : Nat) :
    shiftIn start (put count value) = start * 256 ^ count + value % 256 ^ count := by
  induction count generalizing start with
  | zero => simp [shiftIn, put, Nat.mod_one]
  | succ count ih =>
    have byte : (UInt8.ofNat (value >>> (8 * count))).toNat = value / 256 ^ count % 256 := by
      rw [UInt8.toNat_ofNat', Nat.shiftRight_eq_div_pow, Nat.pow_mul]
    unfold shiftIn at ih ⊢
    simp only [put, List.foldl_cons]
    rw [ih, shift_or_byte, byte, Nat.pow_succ, Nat.mod_mul]
    ring

/-- The bytes shifted in are the positional value, whatever they are. -/
theorem shiftIn_lt (start : Nat) (bytes : List UInt8) :
    shiftIn start bytes < (start + 1) * 256 ^ bytes.length := by
  induction bytes generalizing start with
  | nil => simp [shiftIn]
  | cons byte rest ih =>
    have step : shiftIn start (byte :: rest) = shiftIn (start * 256 + byte.toNat) rest := by
      simp only [shiftIn, List.foldl_cons, shift_or_byte]
    have below := byte.toNat_lt
    calc
      shiftIn start (byte :: rest) = shiftIn (start * 256 + byte.toNat) rest := step
      _ < (start * 256 + byte.toNat + 1) * 256 ^ rest.length := ih _
      _ ≤ ((start + 1) * 256) * 256 ^ rest.length := Nat.mul_le_mul_right _ (by omega)
      _ = (start + 1) * 256 ^ (byte :: rest).length := by rw [List.length_cons, Nat.pow_succ]; ring

/-- Only the low bytes are written. -/
theorem put_mod (count value : Nat) : put count (value % 256 ^ count) = put count value := by
  induction count generalizing value with
  | zero => rfl
  | succ count ih =>
    have first : UInt8.ofNat ((value % 256 ^ (count + 1)) >>> (8 * count)) = UInt8.ofNat (value >>> (8 * count)) := by
      rw [← UInt8.toNat_inj, UInt8.toNat_ofNat', UInt8.toNat_ofNat', Nat.shiftRight_eq_div_pow, Nat.shiftRight_eq_div_pow,
        Nat.pow_mul, Nat.pow_succ]
      change value % (256 ^ count * 256) / 256 ^ count % 256 = value / 256 ^ count % 256
      rw [Nat.mod_mul_right_div_self, Nat.mod_mod]
    have later : put count (value % 256 ^ (count + 1)) = put count value := by
      rw [← ih, Nat.mod_mod_of_dvd _ (Nat.pow_dvd_pow 256 (Nat.le_succ count)), ih]
    rw [put, put, first, later]

theorem shiftIn_cons (start : Nat) (byte : UInt8) (rest : List UInt8) :
    shiftIn start (byte :: rest) = shiftIn (start * 256 + byte.toNat) rest := by
  simp only [shiftIn, List.foldl_cons, shift_or_byte]

/-- What was there before is shifted to the front. -/
theorem shiftIn_start (start : Nat) (bytes : List UInt8) :
    shiftIn start bytes = start * 256 ^ bytes.length + shiftIn 0 bytes := by
  induction bytes generalizing start with
  | nil => simp [shiftIn]
  | cons byte rest ih =>
    rw [shiftIn_cons, ih, shiftIn_cons, ih (0 * 256 + byte.toNat), List.length_cons, Nat.pow_succ]
    ring

/-- Bytes that were read are written again. -/
theorem put_shiftIn (bytes : List UInt8) : put bytes.length (shiftIn 0 bytes) = bytes := by
  induction bytes with
  | nil => rfl
  | cons byte rest ih =>
    have low : shiftIn 0 rest < 256 ^ rest.length := by simpa using shiftIn_lt 0 rest
    have whole : shiftIn 0 (byte :: rest) = byte.toNat * 256 ^ rest.length + shiftIn 0 rest := by
      rw [shiftIn_cons, shiftIn_start, Nat.zero_mul, Nat.zero_add]
    have first : UInt8.ofNat (shiftIn 0 (byte :: rest) >>> (8 * rest.length)) = byte := by
      rw [whole, Nat.shiftRight_eq_div_pow, Nat.pow_mul, Nat.add_comm,
        Nat.add_mul_div_right _ _ (Nat.pow_pos (by decide)), Nat.div_eq_of_lt low, Nat.zero_add, UInt8.ofNat_toNat]
    have later : put rest.length (shiftIn 0 (byte :: rest)) = put rest.length (shiftIn 0 rest) := by
      rw [← put_mod, whole, Nat.mul_add_mod_self_right, put_mod]
    rw [List.length_cons, put, first, later, ih]

/-- Bytes of one length are told apart by what is read from them. -/
theorem shiftIn_injective {start other : Nat} {bytes others : List UInt8} (long : bytes.length = others.length)
    (same : shiftIn start bytes = shiftIn other others) : start = other ∧ bytes = others := by
  have low : shiftIn 0 bytes < 256 ^ bytes.length := by simpa using shiftIn_lt 0 bytes
  have otherLow : shiftIn 0 others < 256 ^ bytes.length := by
    rw [long]
    simpa using shiftIn_lt 0 others
  have positive : 0 < 256 ^ bytes.length := Nat.pow_pos (by decide)
  rw [shiftIn_start, shiftIn_start other, ← long] at same
  have front : start = other := by
    have divided := congrArg (fun value => value / 256 ^ bytes.length) same
    rwa [Nat.add_comm, Nat.add_mul_div_right _ _ positive, Nat.div_eq_of_lt low, Nat.add_comm (other * _),
      Nat.add_mul_div_right _ _ positive, Nat.div_eq_of_lt otherLow, Nat.zero_add, Nat.zero_add] at divided
  subst front
  have back := Nat.add_left_cancel same
  refine ⟨rfl, ?_⟩
  rw [← put_shiftIn bytes, back, long, put_shiftIn]

end Skimasque.Library.BigEndian
