import Mathlib.Algebra.Order.Round
import Mathlib.Data.Int.Log
import Mathlib.Data.Nat.Factorization.Basic
import Mathlib.Data.Rat.Floor
import Mathlib.Tactic.Linarith
import Mathlib.Tactic.Positivity

/-! Binary64 numbers that are not negative, as the rationals they stand for.

A result is the exact value brought to the nearest number of 53 binary digits. Large values have no
bound here: whoever compares with a bound below 2^1024 cannot tell an infinity from them.
-/

set_option autoImplicit false

namespace Skimasque.Library.Binary64

/-- To the nearest integer, from the middle to the even one. -/
def roundEven (x : ℚ) : ℤ :=
  if x - ⌊x⌋ < 1 / 2 then ⌊x⌋
  else if 1 / 2 < x - ⌊x⌋ then ⌊x⌋ + 1
  else if 2 ∣ ⌊x⌋ then ⌊x⌋
  else ⌊x⌋ + 1

/-- The exponent of the last of the 53 places, which ends where the subnormal numbers do. -/
def lastPlace (x : ℚ) : ℤ := max (Int.log 2 x - 52) (-1074)

/-- The value that an operation gives whose exact result is `x`. -/
def round (x : ℚ) : ℚ := roundEven (x / 2 ^ lastPlace x) * 2 ^ lastPlace x

/-- To the nearest integer, from the middle upwards. -/
def nearest (x : ℚ) : ℕ := ⌊x + 1 / 2⌋₊

/-- An integer that is one of the numbers. -/
def Whole (n : ℕ) : Prop := ∃ digits place : ℕ, digits < 2 ^ 53 ∧ n = digits * 2 ^ place

theorem roundEven_intCast (n : ℤ) : roundEven n = n := by
  simp [roundEven]

theorem roundEven_mono_int {x : ℚ} {n : ℤ} (le : x ≤ n) : roundEven x ≤ n := by
  rcases le.lt_or_eq with less | rfl
  · have below : ⌊x⌋ < n := Int.floor_lt.mpr less
    unfold roundEven
    split_ifs <;> omega
  · rw [roundEven_intCast]

theorem roundEven_nonneg {x : ℚ} (nonneg : 0 ≤ x) : 0 ≤ roundEven x := by
  have below : 0 ≤ ⌊x⌋ := Int.floor_nonneg.mpr nonneg
  unfold roundEven
  split_ifs <;> omega

theorem whole_of_le {n : ℕ} (le : n ≤ 2 ^ 53) : Whole n := by
  rcases le.lt_or_eq with less | rfl
  · exact ⟨n, 0, less, by simp⟩
  · exact ⟨1, 53, by norm_num, by simp⟩

theorem whole_mul_two_pow {n : ℕ} (whole : Whole n) (place : ℕ) : Whole (n * 2 ^ place) := by
  obtain ⟨digits, first, less, rfl⟩ := whole
  exact ⟨digits, first + place, less, by rw [mul_assoc, pow_add]⟩

/-- A number whose tenfolds are binary64 numbers is one itself: the odd part only shrinks. -/
theorem whole_of_mul_ten_pow {n power : ℕ} (whole : Whole (n * 10 ^ power)) : Whole n := by
  rcases Nat.eq_zero_or_pos n with rfl | positive
  · exact whole_of_le (by norm_num)
  · obtain ⟨digits, place, less, same⟩ := whole
    obtain ⟨twos, odd, isOdd, rfl⟩ := Nat.exists_eq_two_pow_mul_odd positive.ne'
    have dvd : odd * 5 ^ power ∣ digits * 2 ^ place := by
      refine ⟨2 ^ (twos + power), ?_⟩
      rw [← same, show 10 = 2 * 5 from rfl, mul_pow, pow_add]
      ring
    have coprime : (odd * 5 ^ power).Coprime (2 ^ place) := by
      refine Nat.Coprime.pow_right place (Nat.Coprime.mul_left ?_ (Nat.Coprime.pow_left power (by decide)))
      exact Nat.coprime_two_right.mpr isOdd
    have within := coprime.dvd_of_dvd_mul_right dvd
    have nonzero : digits ≠ 0 := by
      rintro rfl
      rw [zero_mul] at same
      exact absurd same (by positivity)
    have small : odd ≤ digits :=
      (Nat.le_mul_of_pos_right odd (by positivity)).trans (Nat.le_of_dvd (Nat.pos_of_ne_zero nonzero) within)
    exact ⟨odd, twos, small.trans_lt less, by rw [mul_comm]⟩

theorem lastPlace_natCast (n : ℕ) : lastPlace n = (Nat.log 2 n : ℤ) - 52 := by
  rw [lastPlace, Int.log_natCast]
  omega

/-- A binary64 integer is a multiple of its last place. -/
theorem exists_multiple_of_whole {n : ℕ} (whole : Whole n) : ∃ k : ℤ, (n : ℚ) = k * 2 ^ lastPlace n := by
  obtain ⟨digits, place, less, rfl⟩ := whole
  rcases Nat.eq_zero_or_pos (digits * 2 ^ place) with zero | positive
  · exact ⟨0, by rw [zero]; simp⟩
  rw [lastPlace_natCast]
  set log := Nat.log 2 (digits * 2 ^ place) with isLog
  rcases Nat.le_total log 52 with small | large
  · refine ⟨digits * 2 ^ place * 2 ^ (52 - log), ?_⟩
    have exponent : (log : ℤ) - 52 = -((52 - log : ℕ) : ℤ) := by omega
    rw [exponent, zpow_neg, zpow_natCast]
    push_cast
    field_simp
  · have bound : log < 53 + place := by
      have below : 2 ^ log ≤ digits * 2 ^ place := Nat.pow_log_le_self 2 positive.ne'
      have above : digits * 2 ^ place < 2 ^ (53 + place) := by
        rw [pow_add]
        exact Nat.mul_lt_mul_of_pos_right less (by positivity)
      exact (Nat.pow_lt_pow_iff_right (by norm_num)).mp (below.trans_lt above)
    refine ⟨digits * 2 ^ (place - (log - 52)), ?_⟩
    have exponent : (log : ℤ) - 52 = ((log - 52 : ℕ) : ℤ) := by omega
    have split : place = place - (log - 52) + (log - 52) := by omega
    rw [exponent, zpow_natCast]
    push_cast
    rw [mul_assoc, ← pow_add, ← split]

theorem round_whole {n : ℕ} (whole : Whole n) : round n = n := by
  obtain ⟨k, same⟩ := exists_multiple_of_whole whole
  have scale : (2 : ℚ) ^ lastPlace n ≠ 0 := zpow_ne_zero _ (by norm_num)
  have quotient : (n : ℚ) / 2 ^ lastPlace n = k := by
    rw [div_eq_iff scale]
    exact same
  rw [round, quotient, roundEven_intCast, ← same]

/-- What is rounded lies below 2^53 or is an integer. -/
theorem round_cases {x : ℚ} (nonneg : 0 ≤ x) : round x < 2 ^ 53 ∨ ∃ n, Whole n ∧ round x = n := by
  have scale : (0 : ℚ) < 2 ^ lastPlace x := zpow_pos (by norm_num) _
  have digits : x / 2 ^ lastPlace x ≤ ((2 ^ 53 : ℤ) : ℚ) := by
    rw [div_le_iff₀ scale]
    have above : x < 2 ^ (Int.log 2 x + 1) := by exact_mod_cast Int.lt_zpow_succ_log_self (by norm_num) x
    have exponent : Int.log 2 x + 1 ≤ 53 + lastPlace x := by
      unfold lastPlace
      omega
    calc x ≤ 2 ^ (Int.log 2 x + 1) := above.le
      _ ≤ 2 ^ (53 + lastPlace x) := zpow_le_zpow_right₀ (by norm_num) exponent
      _ = ((2 ^ 53 : ℤ) : ℚ) * 2 ^ lastPlace x := by
        rw [zpow_add₀ (by norm_num)]
        norm_num
  have most := roundEven_mono_int digits
  have least : 0 ≤ roundEven (x / 2 ^ lastPlace x) := roundEven_nonneg (div_nonneg nonneg scale.le)
  rcases lt_or_ge (lastPlace x) 0 with fraction | whole
  · left
    have half : (2 : ℚ) ^ lastPlace x ≤ 2 ^ (-1 : ℤ) := zpow_le_zpow_right₀ (by norm_num) (by omega)
    have bounded : ((roundEven (x / 2 ^ lastPlace x) : ℤ) : ℚ) ≤ 2 ^ 53 := by exact_mod_cast most
    calc round x ≤ 2 ^ 53 * 2 ^ (-1 : ℤ) := mul_le_mul bounded half scale.le (by norm_num)
      _ < 2 ^ 53 := by norm_num
  · right
    obtain ⟨place, isPlace⟩ := Int.eq_ofNat_of_zero_le whole
    obtain ⟨count, isCount⟩ := Int.eq_ofNat_of_zero_le least
    refine ⟨count * 2 ^ place, whole_mul_two_pow (whole_of_le ?_) place, ?_⟩
    · rw [isCount] at most
      exact_mod_cast most
    · rw [round, isCount, isPlace]
      push_cast
      rw [zpow_natCast]

theorem round_nonneg {x : ℚ} (nonneg : 0 ≤ x) : 0 ≤ round x := by
  have scale : (0 : ℚ) < 2 ^ lastPlace x := zpow_pos (by norm_num) _
  exact mul_nonneg (by exact_mod_cast roundEven_nonneg (div_nonneg nonneg scale.le)) scale.le

theorem nearest_natCast (n : ℕ) : nearest n = n := by
  rw [nearest, Nat.floor_eq_iff (by positivity)]
  constructor
  · linarith
  · linarith

/-- The integer nearest to a binary64 number is one. -/
theorem whole_nearest_round {x : ℚ} (nonneg : 0 ≤ x) : Whole (nearest (round x)) := by
  rcases round_cases nonneg with small | ⟨n, whole, same⟩
  · refine whole_of_le (Nat.lt_succ_iff.mp ?_)
    rw [nearest, Nat.floor_lt (by linarith [round_nonneg nonneg])]
    push_cast
    linarith
  · rw [same, nearest_natCast]
    exact whole

/-- Rounding to an integer does not reach a bound that a binary64 integer keeps. -/
theorem nearest_round_lt {x : ℚ} (nonneg : 0 ≤ x) {bound : ℕ} (large : 2 ^ 53 < bound) (less : round x < bound) :
    nearest (round x) < bound := by
  rcases round_cases nonneg with small | ⟨n, whole, same⟩
  · rw [nearest, Nat.floor_lt (by linarith [round_nonneg nonneg])]
    have wide : ((2 ^ 53 + 1 : ℕ) : ℚ) ≤ bound := by exact_mod_cast large
    push_cast at wide
    linarith
  · rw [same, nearest_natCast]
    rw [same] at less
    exact_mod_cast less

end Skimasque.Library.Binary64
