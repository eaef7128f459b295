import Mathlib.Data.Nat.Digits.Defs
import Mathlib.Tactic.Common

/-! Decimal numbers of a fixed width. Texts made of them are in the order of the numbers. -/

set_option autoImplicit false

namespace Skimasque.Library.FixedWidth

/-- A number padded with zeros behind its sign: `{value:0width}`. -/
def padded (width : Nat) (value : Int) : String :=
  let digits := Nat.toDigits 10 value.natAbs
  if value < 0 then String.ofList ('-' :: (List.replicate (width - 1 - digits.length) '0' ++ digits))
  else String.ofList (List.replicate (width - digits.length) '0' ++ digits)

/-- The last `width` digits. -/
def digits : Nat → Nat → List Char
  | 0, _ => []
  | width + 1, value => digits width (value / 10) ++ [Nat.digitChar (value % 10)]

@[simp] theorem digits_length (width value : Nat) : (digits width value).length = width := by
  induction width generalizing value with
  | zero => rfl
  | succ width ih => rw [digits, List.length_append, ih, List.length_singleton]

theorem digits_zero (width : Nat) : digits width 0 = List.replicate width '0' := by
  induction width with
  | zero => rfl
  | succ width ih =>
    rw [digits, Nat.zero_div, ih, List.replicate_succ']
    rfl

theorem replicate_toDigits {width value : Nat} (fits : value < 10 ^ (width + 1)) :
    List.replicate (width + 1 - (Nat.toDigits 10 value).length) '0' ++ Nat.toDigits 10 value = digits (width + 1) value := by
  induction width generalizing value with
  | zero =>
    have small : value < 10 := fits
    rw [Nat.toDigits_of_lt_base small, digits, Nat.mod_eq_of_lt small]
    rfl
  | succ width ih =>
    -- One digit leaves the zeros; a longer number is its front and its last digit.
    by_cases small : value < 10
    · rw [Nat.toDigits_of_lt_base small, digits, Nat.mod_eq_of_lt small, Nat.div_eq_of_lt small, digits_zero]
      rfl
    · have short : value / 10 < 10 ^ (width + 1) := by
        rw [Nat.pow_succ] at fits
        omega
      rw [Nat.toDigits_of_base_le (by decide) (by omega), digits, ← ih short, List.length_append, List.length_singleton,
        Nat.add_sub_add_right, List.append_assoc]

theorem padded_toList {width value : Nat} (fits : value < 10 ^ (width + 1)) :
    (padded (width + 1) value).toList = digits (width + 1) value := by
  have positive : ¬(value : Int) < 0 := by omega
  rw [padded, if_neg positive, String.toList_ofList, Int.natAbs_natCast, replicate_toDigits fits]

/-! ## Order -/

theorem append_lt_append_iff {first second : List Char} (long : first.length = second.length) {back other : List Char} :
    first ++ back < second ++ other ↔ first < second ∨ first = second ∧ back < other := by
  induction first generalizing second with
  | nil =>
    have none : second = [] := List.eq_nil_of_length_eq_zero long.symm
    subst none
    simp
  | cons c first ih =>
    cases second with
    | nil => cases long
    | cons d second =>
      rw [List.cons_append, List.cons_append, List.cons_lt_cons_iff, List.cons_lt_cons_iff, ih (Nat.succ.inj long)]
      simp only [List.cons.injEq]
      tauto

theorem digitChar_lt_iff : ∀ first < 10, ∀ second < 10, Nat.digitChar first < Nat.digitChar second ↔ first < second := by
  decide

theorem digits_lt {width first second : Nat} (fits : second < 10 ^ width) (less : first < second) :
    digits width first < digits width second := by
  induction width generalizing first second with
  | zero => exact absurd less (by rw [Nat.lt_one_iff.mp fits]; exact Nat.not_lt_zero first)
  | succ width ih =>
    rw [digits, digits, append_lt_append_iff (by simp)]
    -- All but the last digit decide, where they differ.
    by_cases same : first / 10 = second / 10
    · right
      have last : first % 10 < second % 10 := by omega
      rw [same, List.cons_lt_cons_iff]
      exact ⟨rfl, .inl ((digitChar_lt_iff _ (Nat.mod_lt _ (by decide)) _ (Nat.mod_lt _ (by decide))).mpr last)⟩
    · left
      rw [Nat.pow_succ] at fits
      exact ih (by omega) (by omega)

section
variable {width first second : Nat} (firstFits : first < 10 ^ width) (secondFits : second < 10 ^ width)
include firstFits secondFits

theorem digits_lt_iff : digits width first < digits width second ↔ first < second := by
  constructor
  · intro less
    rcases Nat.lt_trichotomy first second with before | rfl | after
    · exact before
    · exact absurd less (List.lt_irrefl _)
    · exact absurd less (List.lt_asymm (digits_lt firstFits after))
  · exact digits_lt secondFits

theorem digits_inj : digits width first = digits width second ↔ first = second := by
  constructor
  · intro same
    rcases Nat.lt_trichotomy first second with before | equal | after
    · exact absurd (digits_lt secondFits before) (same ▸ List.lt_irrefl _)
    · exact equal
    · exact absurd (digits_lt firstFits after) (same ▸ List.lt_irrefl _)
  · exact congrArg (digits width)

/-- Numbers decide before what follows them does. -/
theorem field_lt_iff {back other : List Char} :
    digits width first ++ back < digits width second ++ other ↔ first < second ∨ first = second ∧ back < other := by
  rw [append_lt_append_iff (by simp), digits_lt_iff firstFits secondFits, digits_inj firstFits secondFits]

end

/-- Numbers with a last digit to the same base. -/
theorem place_lt_iff {first second last other base : Nat} (low : last < base) (otherLow : other < base) :
    first * base + last < second * base + other ↔ first < second ∨ first = second ∧ last < other := by
  rcases Nat.lt_trichotomy first second with before | rfl | after
  · have room : (first + 1) * base ≤ second * base := Nat.mul_le_mul_right base before
    rw [Nat.succ_mul] at room
    omega
  · omega
  · have room : (second + 1) * base ≤ first * base := Nat.mul_le_mul_right base after
    rw [Nat.succ_mul] at room
    omega

theorem place_eq_iff {first second last other base : Nat} (low : last < base) (otherLow : other < base) :
    first * base + last = second * base + other ↔ first = second ∧ last = other := by
  have before := @place_lt_iff first second last other base low otherLow
  have after := @place_lt_iff second first other last base otherLow low
  constructor
  · intro same
    omega
  · rintro ⟨rfl, rfl⟩
    rfl

end Skimasque.Library.FixedWidth
