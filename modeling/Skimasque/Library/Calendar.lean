import Mathlib.Tactic.Common
import Mathlib.Tactic.IntervalCases

/-! The proleptic Gregorian calendar: which dates there are, and how many days came before each. -/

set_option autoImplicit false

namespace Skimasque.Library.Calendar

def isLeap (year : Nat) : Bool := year % 4 == 0 && (year % 100 != 0 || year % 400 == 0)

def yearLength (year : Nat) : Nat := if isLeap year then 366 else 365

def monthLength (year : Nat) : Nat → Nat
  | 2 => if isLeap year then 29 else 28
  | 4 | 6 | 9 | 11 => 30
  | _ => 31

structure Date where
  year : Nat
  month : Nat
  day : Nat
  inYear : 1 ≤ month ∧ month ≤ 12
  inMonth : 1 ≤ day ∧ day ≤ monthLength year month
  deriving DecidableEq, Repr

/-- The days of the years before `year`, from the year 0 on. -/
def daysBeforeYear : Nat → Nat
  | 0 => 0
  | year + 1 => daysBeforeYear year + yearLength year

/-- The days of the months before `month` and after the first `0`, which is none. -/
def daysBeforeMonth (year : Nat) : Nat → Nat
  | 0 => 0
  | 1 => 0
  | month + 2 => daysBeforeMonth year (month + 1) + monthLength year (month + 1)

/-- The days before a date, from the first day of the year 0 on. -/
def Date.number (date : Date) : Nat :=
  daysBeforeYear date.year + daysBeforeMonth date.year date.month + (date.day - 1)

theorem isLeap_iff {year : Nat} : isLeap year = true ↔ year % 4 = 0 ∧ (year % 100 ≠ 0 ∨ year % 400 = 0) := by
  simp [isLeap]

/-- Every fourth year is longer, but for those of each century, and for those of each fourth. -/
theorem daysBeforeYear_eq (year : Nat) :
    daysBeforeYear year + (year + 99) / 100 = 365 * year + (year + 3) / 4 + (year + 399) / 400 := by
  induction year with
  | zero => rfl
  | succ year ih =>
    have fours : (year + 1 + 3) / 4 = (year + 3) / 4 + if year % 4 = 0 then 1 else 0 := by split <;> omega
    have centuries : (year + 1 + 99) / 100 = (year + 99) / 100 + if year % 100 = 0 then 1 else 0 := by split <;> omega
    have eras : (year + 1 + 399) / 400 = (year + 399) / 400 + if year % 400 = 0 then 1 else 0 := by split <;> omega
    have century : year % 400 = 0 → year % 100 = 0 := by omega
    have four : year % 100 = 0 → year % 4 = 0 := by omega
    -- A year after a leap year starts one day later in each of the three counts that it belongs to.
    rw [daysBeforeYear, yearLength, fours, centuries, eras]
    simp only [isLeap_iff]
    split_ifs <;> omega

theorem daysBeforeYear_succ (year : Nat) :
    daysBeforeYear (year + 1) + year / 100 = 365 * year + year / 4 + year / 400 + 366 := by
  have whole := daysBeforeYear_eq (year + 1)
  have fours : (year + 1 + 3) / 4 = year / 4 + 1 := by omega
  have centuries : (year + 1 + 99) / 100 = year / 100 + 1 := by omega
  have eras : (year + 1 + 399) / 400 = year / 400 + 1 := by omega
  omega

/-- The first of March is one more day behind the start of a leap year. -/
theorem daysBefore_march (year : Nat) :
    daysBeforeYear year + daysBeforeMonth year 3 + year / 100 = 365 * year + year / 4 + year / 400 + 60 := by
  have next := daysBeforeYear_succ year
  have months : daysBeforeMonth year 3 = 0 + 31 + if isLeap year then 29 else 28 := rfl
  rw [daysBeforeYear, yearLength] at next
  rw [months]
  split at next
  · rename_i leap
    rw [if_pos leap]
    omega
  · rename_i common
    rw [if_neg common]
    omega

theorem daysBeforeMonth_march {year months : Nat} (bounded : months < 10) :
    daysBeforeMonth year (months + 3) = daysBeforeMonth year 3 + (153 * months + 2) / 5 := by
  interval_cases months
  all_goals
    simp [daysBeforeMonth, monthLength]

theorem monthLength_march (year : Nat) {months : Nat} (bounded : months < 10) :
    (153 * months + 2) / 5 + monthLength year (months + 3) = (153 * (months + 1) + 2) / 5 := by
  interval_cases months
  all_goals rfl

theorem monthLength_le (year month : Nat) : monthLength year month ≤ 31 := by
  unfold monthLength
  split
  · split <;> decide
  all_goals decide

theorem daysBeforeYear_le {first second : Nat} (later : first < second) :
    daysBeforeYear first + yearLength first ≤ daysBeforeYear second := by
  induction later with
  | refl => exact Nat.le_refl _
  | step _ ih => exact Nat.le_trans ih (Nat.le_add_right ..)

theorem daysBeforeMonth_le {year first second : Nat} (positive : 1 ≤ first) (later : first < second) :
    daysBeforeMonth year first + monthLength year first ≤ daysBeforeMonth year second := by
  have next {month : Nat} (positive : 1 ≤ month) :
      daysBeforeMonth year (month + 1) = daysBeforeMonth year month + monthLength year month := by
    obtain ⟨month, rfl⟩ := Nat.exists_eq_add_of_le' positive
    rfl
  induction later with
  | refl => exact Nat.le_of_eq (next positive).symm
  | step later ih =>
    rw [next (Nat.le_of_lt (Nat.lt_of_le_of_lt positive later))]
    exact Nat.le_trans ih (Nat.le_add_right ..)

theorem daysBeforeMonth_all (year : Nat) : daysBeforeMonth year 13 = yearLength year := by
  unfold yearLength
  split
  · rename_i leap
    simp [daysBeforeMonth, monthLength, leap]
  · rename_i common
    simp [daysBeforeMonth, monthLength, common]

namespace Date

/-- In the order of the calendar. -/
def Before (first second : Date) : Prop :=
  first.year < second.year ∨ first.year = second.year ∧
    (first.month < second.month ∨ first.month = second.month ∧ first.day < second.day)

variable {first second : Date}

theorem day_lt (date : Date) : daysBeforeMonth date.year date.month + (date.day - 1) < yearLength date.year := by
  have whole := @daysBeforeMonth_le date.year _ _ date.inYear.1 (Nat.lt_succ_of_le date.inYear.2)
  rw [daysBeforeMonth_all] at whole
  have inside := date.inMonth
  omega

theorem number_lt (before : Before first second) : first.number < second.number := by
  unfold number
  -- A year or a month that is over has all its days behind it.
  rcases before with year | ⟨year, month | ⟨month, day⟩⟩
  · have through := daysBeforeYear_le year
    have inside := first.day_lt
    omega
  · have through := @daysBeforeMonth_le second.year _ _ first.inYear.1 month
    have inside := first.inMonth
    rw [year] at inside ⊢
    omega
  · have inside := first.inMonth
    rw [year, month]
    omega

/-- Counted in years that start in March, a month starts at a place that does not depend on the year. -/
theorem number_of_march {date : Date} {march shifted : Nat} (bounded : shifted < 12)
    (shift : if shifted < 10 then date.year = march ∧ date.month = shifted + 3
      else date.year = march + 1 ∧ date.month = shifted - 9) :
    date.number + march / 100 = 365 * march + march / 4 + march / 400 + (153 * shifted + 2) / 5 + date.day + 59 := by
  have positive := date.inMonth.1
  unfold number
  split at shift
  · rename_i early
    obtain ⟨year, month⟩ := shift
    have spring := daysBefore_march march
    have months := @daysBeforeMonth_march march shifted early
    rw [year, month]
    omega
  · rename_i late
    obtain ⟨year, month⟩ := shift
    have next := daysBeforeYear_succ march
    rw [year, month]
    obtain rfl | rfl : shifted = 10 ∨ shifted = 11 := by omega
    · have months : daysBeforeMonth (march + 1) (10 - 9) = 0 := rfl
      omega
    · have months : daysBeforeMonth (march + 1) (11 - 9) = 31 := rfl
      omega

/-- A date, and what is compared after it, in the order of the fields. -/
theorem before_or_eq_iff {later : Prop} :
    (first.year < second.year ∨ first.year = second.year ∧ (first.month < second.month ∨ first.month = second.month ∧
      (first.day < second.day ∨ first.day = second.day ∧ later))) ↔ Before first second ∨ first = second ∧ later := by
  have same : first = second ↔ first.year = second.year ∧ first.month = second.month ∧ first.day = second.day := by
    cases first
    cases second
    simp
  rw [same, Before]
  tauto

theorem before_or (first second : Date) : Before first second ∨ first = second ∨ Before second first := by
  obtain ⟨year, month, day, _, _⟩ := first
  obtain ⟨otherYear, otherMonth, otherDay, _, _⟩ := second
  simp only [Before, mk.injEq]
  omega

/-- Dates are in the order of the days before them. -/
theorem before_iff : Before first second ↔ first.number < second.number := by
  constructor
  · exact number_lt
  · intro less
    rcases before_or first second with before | rfl | after
    · exact before
    · exact absurd less (Nat.lt_irrefl _)
    · exact absurd (number_lt after) (Nat.lt_asymm less)

theorem number_injective : Function.Injective number := by
  intro first second same
  rcases before_or first second with before | equal | after
  · exact absurd same (Nat.ne_of_lt (number_lt before))
  · exact equal
  · exact absurd same (Nat.ne_of_gt (number_lt after))

/-- The year of a date is not reached before the days before it are over. -/
theorem year_lt {date : Date} {year : Nat} (early : date.number < daysBeforeYear year) : date.year < year := by
  by_contra late
  rcases Nat.lt_or_eq_of_le (Nat.le_of_not_lt late) with after | same
  · have through := daysBeforeYear_le after
    unfold number at early
    omega
  · unfold number at early
    rw [same] at early
    omega

end Date

end Skimasque.Library.Calendar
