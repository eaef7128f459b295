import Skimasque.Library.Calendar
import Skimasque.Library.FixedWidth

/-! The time an audit event is stamped with. -/

set_option autoImplicit false

namespace Skimasque.Audit
open Library Library.Calendar

/-- What a clock reads: whole seconds since the Unix epoch, in 64 bits, and nanoseconds on top of them. -/
structure SystemTime where
  secs : Int
  nanos : Nat
  inRange : -2 ^ 63 ≤ secs ∧ secs < 2 ^ 63
  subsecond : nanos < 1000000000
  deriving DecidableEq, Repr

/-- `duration_since(UNIX_EPOCH)`, or nothing where the time is before it. -/
def SystemTime.sinceEpoch (time : SystemTime) : Nat × Nat :=
  if 0 ≤ time.secs then (time.secs.toNat, time.nanos) else (0, 0)

structure Civil where
  year : Int
  month : Int
  day : Int
  deriving DecidableEq, Repr

/-- Days since 1970-01-01 as a year, month and day, counted in eras of 400 years that start in March. Divisions are
those of `i64`, which round towards zero. -/
def civil (days : Int) : Civil :=
  -- Day 0 of the first era. From a `u64` of seconds there are at most 2 ^ 48 days, so that all of this fits `i64`.
  let z := days + 719468
  let era := (if 0 ≤ z then z else z - 146096).tdiv 146097
  let doe := z - era * 146097
  let yoe := (doe - doe.tdiv 1460 + doe.tdiv 36524 - doe.tdiv 146096).tdiv 365
  let doy := doe - (365 * yoe + yoe.tdiv 4 - yoe.tdiv 100)
  let mp := (5 * doy + 2).tdiv 153
  let day := doy - (153 * mp + 2).tdiv 5 + 1
  let month := if mp < 10 then mp + 3 else mp - 9
  let year := yoe + era * 400 + (if month ≤ 2 then 1 else 0)
  ⟨year, month, day⟩

def rfc3339 (time : SystemTime) : String :=
  -- A time before the epoch is printed as the epoch.
  let (secs, nanos) := time.sinceEpoch
  let millis := nanos / 1000000
  let days := secs / 86400
  let daySecs := secs % 86400
  let hour := daySecs / 3600
  let minute := daySecs % 3600 / 60
  let second := daySecs % 60
  let date := civil days
  FixedWidth.padded 4 date.year ++ "-" ++ FixedWidth.padded 2 date.month ++ "-" ++ FixedWidth.padded 2 date.day ++ "T" ++
    FixedWidth.padded 2 hour ++ ":" ++ FixedWidth.padded 2 minute ++ ":" ++ FixedWidth.padded 2 second ++ "." ++
    FixedWidth.padded 3 millis ++ "Z"

/-- The text of a date and a time of day. -/
def stamp (date : Date) (hour minute second millis : Nat) : String :=
  FixedWidth.padded 4 date.year ++ "-" ++ FixedWidth.padded 2 date.month ++ "-" ++ FixedWidth.padded 2 date.day ++ "T" ++
    FixedWidth.padded 2 hour ++ ":" ++ FixedWidth.padded 2 minute ++ ":" ++ FixedWidth.padded 2 second ++ "." ++
    FixedWidth.padded 3 millis ++ "Z"

example : rfc3339 ⟨1700000000, 482000000, by decide, by decide⟩ = "2023-11-14T22:13:20.482Z" := by decide

/-! ## The date of a day -/

section
variable {doe yoe doy mp : Int}

/-- The days of an era without those that make some of its years longer than 365. -/
def evened (doe : Int) : Int := doe - doe / 1460 + doe / 36524 - doe / 146096

/-- The days of an era before its year `yoe`. -/
def daysOfEra (yoe : Int) : Int := 365 * yoe + yoe / 4 - yoe / 100

theorem evened_mono {first second : Int} (le : first ≤ second) : evened first ≤ evened second := by
  unfold evened
  omega

theorem evened_start (low : 0 ≤ yoe) (high : yoe < 400) : 365 * yoe ≤ evened (daysOfEra yoe) := by
  unfold evened daysOfEra
  have quads : (365 * yoe + yoe / 4 - yoe / 100) / 1460 = yoe / 4 := by omega
  have centuries : (365 * yoe + yoe / 4 - yoe / 100) / 36524 = yoe / 100 := by omega
  have eras : (365 * yoe + yoe / 4 - yoe / 100) / 146096 = 0 := by omega
  omega

/-- The day before a year of the era is counted to the year before. -/
theorem evened_finish (low : 1 ≤ yoe) (high : yoe < 400) : evened (daysOfEra yoe - 1) < 365 * yoe := by
  unfold evened daysOfEra
  -- The day before a year counts one day less to a cycle exactly where the year starts one.
  have quads : yoe / 4 - (if yoe % 4 = 0 then 1 else 0) ≤ (365 * yoe + yoe / 4 - yoe / 100 - 1) / 1460 := by
    split <;> omega
  have centuries : (365 * yoe + yoe / 4 - yoe / 100 - 1) / 36524 ≤ yoe / 100 - (if yoe % 100 = 0 then 1 else 0) := by
    split <;> omega
  have eras : 0 ≤ (365 * yoe + yoe / 4 - yoe / 100 - 1) / 146096 := by omega
  split at quads <;> split at centuries <;> omega

theorem yearOfEra_bounds (low : 0 ≤ doe) (high : doe < 146097) (counted : yoe = evened doe / 365) :
    0 ≤ yoe ∧ yoe ≤ 399 ∧ daysOfEra yoe ≤ doe ∧ doe < daysOfEra (yoe + 1) + (if yoe = 399 then 1 else 0) := by
  have least : evened 0 ≤ evened doe := evened_mono low
  have most : evened doe ≤ evened 146096 := evened_mono (by omega)
  have none : evened 0 = 0 := rfl
  have all : evened 146096 = 145999 := rfl
  have inside : 0 ≤ yoe ∧ yoe ≤ 399 := by omega
  refine ⟨inside.1, inside.2, ?_, ?_⟩
  -- The count grows with the day, and says the year at the first day of each: it cannot say it on an earlier one.
  · by_contra early
    by_cases first : yoe = 0
    · subst first
      exact early low
    · have before : evened doe ≤ evened (daysOfEra yoe - 1) := evened_mono (by omega)
      have counted := @evened_finish yoe (by omega) (by omega)
      omega
  · split
    · rename_i last
      subst last
      exact high
    · by_contra late
      have after : evened (daysOfEra (yoe + 1)) ≤ evened doe := evened_mono (by omega)
      have counted := @evened_start (yoe + 1) (by omega) (by omega)
      omega

/-- A day that makes a year longer than 365 days comes before a leap day's year. -/
theorem dayOfYear_bounds (doeLow : daysOfEra yoe ≤ doe)
    (doeHigh : doe < daysOfEra (yoe + 1) + (if yoe = 399 then 1 else 0)) (counted : doy = doe - daysOfEra yoe) :
    0 ≤ doy ∧ doy ≤ 365 ∧ (doy = 365 → (yoe + 1) % 4 = 0 ∧ ((yoe + 1) % 100 ≠ 0 ∨ (yoe + 1) % 400 = 0)) := by
  unfold daysOfEra at *
  split at doeHigh
  · omega
  · omega

theorem dayOfMonth_bounds (low : 0 ≤ doy) (high : doy ≤ 365) (counted : mp = (5 * doy + 2) / 153) :
    0 ≤ mp ∧ mp ≤ 11 ∧ (153 * mp + 2) / 5 ≤ doy ∧ doy < (153 * (mp + 1) + 2) / 5 := by
  omega

end

def epoch : Date := ⟨1970, 1, 1, by decide, by decide⟩

theorem epoch_number : epoch.number = 719528 := by
  have years := daysBeforeYear_eq 1970
  simp only [Date.number, epoch, daysBeforeMonth]
  omega

/-- What the code computes of a day, of which era, year, day of the year and month are known. -/
theorem civil_of_parts {days era doe yoe doy mp : Int} (low : 0 ≤ era) (day : days + 719468 = era * 146097 + doe)
    (doeLow : 0 ≤ doe) (doeHigh : doe < 146097) (yoeOf : yoe = evened doe / 365) (yoeLow : 0 ≤ yoe)
    (doyOf : doy = doe - daysOfEra yoe) (doyLow : 0 ≤ doy) (mpOf : mp = (5 * doy + 2) / 153) (mpLow : 0 ≤ mp) :
    civil days = ⟨yoe + era * 400 + (if (if mp < 10 then mp + 3 else mp - 9) ≤ 2 then 1 else 0),
      if mp < 10 then mp + 3 else mp - 9, doy - (153 * mp + 2) / 5 + 1⟩ := by
  have eraOf : (if 0 ≤ days + 719468 then days + 719468 else days + 719468 - 146096).tdiv 146097 = era := by
    rw [if_pos (by omega), Int.tdiv_eq_ediv_of_nonneg (by omega)]
    omega
  have rest : days + 719468 - era * 146097 = doe := by omega
  have evenedLow : 0 ≤ doe - doe / 1460 + doe / 36524 - doe / 146096 := by omega
  have year : (doe - doe / 1460 + doe / 36524 - doe / 146096) / 365 = yoe := yoeOf.symm
  have dayOf : doe - (365 * yoe + yoe / 4 - yoe / 100) = doy := doyOf.symm
  unfold civil
  simp only [eraOf, rest, Int.tdiv_eq_ediv_of_nonneg doeLow, Int.tdiv_eq_ediv_of_nonneg evenedLow, year,
    Int.tdiv_eq_ediv_of_nonneg yoeLow, dayOf]
  have monthLow : 0 ≤ 5 * doy + 2 := by omega
  simp only [Int.tdiv_eq_ediv_of_nonneg monthLow, ← mpOf]
  rw [Int.tdiv_eq_ediv_of_nonneg (by omega)]

/-- The code's date of a day is the date with as many days before it. -/
theorem civil_eq (days : Nat) : ∃ date : Date, civil days = ⟨date.year, date.month, date.day⟩ ∧
    date.number = epoch.number + days := by
  obtain ⟨era, doe, day, doeLow, doeHigh⟩ : ∃ era doe : Int, (days : Int) + 719468 = era * 146097 + doe ∧ 0 ≤ doe ∧ doe < 146097 :=
    ⟨((days : Int) + 719468) / 146097, ((days : Int) + 719468) % 146097, by omega, by omega, by omega⟩
  obtain ⟨yoe, yoeOf⟩ : ∃ yoe, yoe = evened doe / 365 := ⟨_, rfl⟩
  obtain ⟨yoeLow, yoeHigh, start, finish⟩ := yearOfEra_bounds doeLow doeHigh yoeOf
  obtain ⟨doy, doyOf⟩ : ∃ doy, doy = doe - daysOfEra yoe := ⟨_, rfl⟩
  obtain ⟨doyLow, doyHigh, leap⟩ := dayOfYear_bounds start finish doyOf
  obtain ⟨mp, mpOf⟩ : ∃ mp, mp = (5 * doy + 2) / 153 := ⟨_, rfl⟩
  obtain ⟨mpLow, mpHigh, first, last⟩ := dayOfMonth_bounds doyLow doyHigh mpOf
  have eraLow : 0 ≤ era := by omega
  rw [civil_of_parts eraLow day doeLow doeHigh yoeOf yoeLow doyOf doyLow mpOf mpLow]
  obtain ⟨march, marchOf⟩ : ∃ march : Nat, (march : Int) = yoe + era * 400 := ⟨(yoe + era * 400).toNat, by omega⟩
  obtain ⟨shifted, rfl⟩ := Int.eq_ofNat_of_zero_le mpLow
  obtain ⟨dayOfMonth, dayOf⟩ : ∃ dayOfMonth : Nat, (dayOfMonth : Int) = doy - (153 * (shifted : Int) + 2) / 5 + 1 :=
    ⟨(doy - (153 * (shifted : Int) + 2) / 5 + 1).toNat, by omega⟩
  -- Both halves of the year count from March of `march`; what is left is to count the same days.
  have counted (date : Date) (same : date.number + march / 100 =
      365 * march + march / 4 + march / 400 + (153 * shifted + 2) / 5 + dayOfMonth + 59) :
      date.number = epoch.number + days := by
    have fours : (march : Int) / 4 = yoe / 4 + 100 * era := by omega
    have centuries : (march : Int) / 100 = yoe / 100 + 4 * era := by omega
    have eras : (march : Int) / 400 = era := by omega
    rw [epoch_number]
    unfold daysOfEra at doyOf
    omega
  -- January and February belong to the year that started in the March before.
  by_cases early : shifted < 10
  · have long : dayOfMonth ≤ monthLength march (shifted + 3) := by
      have month : (153 * (shifted : Int) + 2) / 5 + monthLength march (shifted + 3) = (153 * ((shifted : Int) + 1) + 2) / 5 := by
        exact_mod_cast monthLength_march march early
      omega
    refine ⟨⟨march, shifted + 3, dayOfMonth, by omega, by omega⟩, ?_, counted _ ?_⟩
    · simp [early, marchOf, dayOf]
      omega
    · exact Date.number_of_march (by omega) (by simp [early])
  · have long : dayOfMonth ≤ monthLength (march + 1) (shifted - 9) := by
      obtain rfl | rfl : shifted = 10 ∨ shifted = 11 := by omega
      · change dayOfMonth ≤ 31
        omega
      · change dayOfMonth ≤ if isLeap (march + 1) = true then 29 else 28
        split
        · omega
        · rename_i common
          rw [isLeap_iff] at common
          omega
    refine ⟨⟨march + 1, shifted - 9, dayOfMonth, by omega, by omega⟩, ?_, counted _ ?_⟩
    · simp [early, marchOf, dayOf]
      omega
    · exact Date.number_of_march (by omega) (by simp [early])

/-! ## The time of an event -/

/-- Whole milliseconds since the epoch. -/
def SystemTime.millis (time : SystemTime) : Int := time.secs * 1000 + time.nanos / 1000000

/-- The text of a time since the epoch is a date and a time of day, and these are of that time. -/
theorem rfc3339_eq {time : SystemTime} (since : 0 ≤ time.secs) :
    ∃ date hour minute second millis, rfc3339 time = stamp date hour minute second millis ∧
      date.number = epoch.number + time.secs.toNat / 86400 ∧ hour < 24 ∧ minute < 60 ∧ second < 60 ∧ millis < 1000 ∧
      hour * 3600 + minute * 60 + second = time.secs.toNat % 86400 ∧ millis = time.nanos / 1000000 := by
  obtain ⟨date, shown, number⟩ := civil_eq (time.secs.toNat / 86400)
  have subsecond := time.subsecond
  refine ⟨date, time.secs.toNat % 86400 / 3600, time.secs.toNat % 86400 % 3600 / 60, time.secs.toNat % 86400 % 60,
    time.nanos / 1000000, ?_, number, by omega, by omega, by omega, by omega, by omega, rfl⟩
  have read : time.sinceEpoch = (time.secs.toNat, time.nanos) := if_pos since
  simp only [rfc3339, read, shown, stamp]

theorem stamp_toList {date : Date} {hour minute second millis : Nat} (year : date.year < 10000) (hourFits : hour < 24)
    (minuteFits : minute < 60) (secondFits : second < 60) (millisFits : millis < 1000) :
    (stamp date hour minute second millis).toList =
      FixedWidth.digits 4 date.year ++ '-' :: (FixedWidth.digits 2 date.month ++ '-' :: (FixedWidth.digits 2 date.day ++
        'T' :: (FixedWidth.digits 2 hour ++ ':' :: (FixedWidth.digits 2 minute ++ ':' :: (FixedWidth.digits 2 second ++
          '.' :: (FixedWidth.digits 3 millis ++ ['Z'])))))) := by
  have inYear := date.inYear
  have inMonth := date.inMonth
  have long := monthLength_le date.year date.month
  simp only [stamp, String.toList_append, @FixedWidth.padded_toList 3 date.year year,
    @FixedWidth.padded_toList 1 date.month (by omega), @FixedWidth.padded_toList 1 date.day (by omega),
    @FixedWidth.padded_toList 1 hour (by omega), @FixedWidth.padded_toList 1 minute (by omega),
    @FixedWidth.padded_toList 1 second (by omega), @FixedWidth.padded_toList 2 millis (by omega)]
  simp

/-- Before the year 10000 the texts are in the order of what they show. -/
theorem stamp_lt_iff {date other : Date} {hour minute second millis otherHour otherMinute otherSecond otherMillis : Nat}
    (year : date.year < 10000) (hourFits : hour < 24) (minuteFits : minute < 60) (secondFits : second < 60)
    (millisFits : millis < 1000) (otherYear : other.year < 10000) (otherHourFits : otherHour < 24)
    (otherMinuteFits : otherMinute < 60) (otherSecondFits : otherSecond < 60) (otherMillisFits : otherMillis < 1000) :
    stamp date hour minute second millis < stamp other otherHour otherMinute otherSecond otherMillis ↔
      date.Before other ∨ date = other ∧
        ((hour * 60 + minute) * 60 + second) * 1000 + millis <
          ((otherHour * 60 + otherMinute) * 60 + otherSecond) * 1000 + otherMillis := by
  have inYear := date.inYear
  have inMonth := date.inMonth
  have long := monthLength_le date.year date.month
  have otherInYear := other.inYear
  have otherInMonth := other.inMonth
  have otherLong := monthLength_le other.year other.month
  have texts (first second : String) : first < second ↔ first.toList < second.toList := Iff.rfl
  have separated (c : Char) (back next : List Char) : c :: back < c :: next ↔ back < next := by
    simp
  -- Each field is of fixed width, so the first that differs decides.
  rw [texts, stamp_toList year hourFits minuteFits secondFits millisFits,
    stamp_toList otherYear otherHourFits otherMinuteFits otherSecondFits otherMillisFits,
    FixedWidth.field_lt_iff year otherYear, separated, @FixedWidth.field_lt_iff 2 _ _ (by omega) (by omega), separated,
    @FixedWidth.field_lt_iff 2 _ _ (by omega) (by omega), separated,
    @FixedWidth.field_lt_iff 2 _ _ (by omega) (by omega), separated,
    @FixedWidth.field_lt_iff 2 _ _ (by omega) (by omega), separated,
    @FixedWidth.field_lt_iff 2 _ _ (by omega) (by omega), separated,
    @FixedWidth.field_lt_iff 3 _ _ (by omega) (by omega), separated]
  rw [Date.before_or_eq_iff, FixedWidth.place_lt_iff millisFits otherMillisFits,
    FixedWidth.place_lt_iff secondFits otherSecondFits, FixedWidth.place_lt_iff minuteFits otherMinuteFits,
    FixedWidth.place_eq_iff secondFits otherSecondFits, FixedWidth.place_eq_iff minuteFits otherMinuteFits]
  have closed : ¬([] : List Char) < [] := List.lt_irrefl []
  simp only [closed, and_false, or_false, and_or_left, or_assoc, and_assoc]

/-- A time from the epoch on whose day comes before the first of that year. -/
def SystemTime.BeforeYear (year : Nat) (time : SystemTime) : Prop :=
  0 ≤ time.secs ∧ epoch.number + time.secs.toNat / 86400 < daysBeforeYear year

theorem rfc3339_lt_iff {first second : SystemTime} (early : first.BeforeYear 10000) (otherEarly : second.BeforeYear 10000) :
    rfc3339 first < rfc3339 second ↔ first.millis < second.millis := by
  obtain ⟨since, early⟩ := early
  obtain ⟨otherSince, otherEarly⟩ := otherEarly
  obtain ⟨date, hour, minute, sec, millis, shown, number, hourFits, minuteFits, secFits, millisFits, ofDay, ofSecond⟩ :=
    rfc3339_eq since
  obtain ⟨other, otherHour, otherMinute, otherSec, otherMillis, otherShown, otherNumber, otherHourFits, otherMinuteFits,
    otherSecFits, otherMillisFits, otherOfDay, otherOfSecond⟩ := rfc3339_eq otherSince
  rw [← number] at early
  rw [← otherNumber] at otherEarly
  rw [shown, otherShown, stamp_lt_iff (Date.year_lt early) hourFits minuteFits secFits millisFits (Date.year_lt otherEarly)
    otherHourFits otherMinuteFits otherSecFits otherMillisFits, Date.before_iff, ← Date.number_injective.eq_iff, number,
    otherNumber]
  unfold SystemTime.millis
  omega

/-- The timestamp of an event is the calendar date and the time of day of its time, and before the year 10000 the order of
timestamps as texts is the order of the times they show. -/
theorem timestamps_are_calendar_dates :
    (∀ time : SystemTime, 0 ≤ time.secs → ∃ date hour minute second millis,
      rfc3339 time = stamp date hour minute second millis ∧
      date.number = epoch.number + time.secs.toNat / 86400 ∧ hour < 24 ∧ minute < 60 ∧ second < 60 ∧ millis < 1000 ∧
      hour * 3600 + minute * 60 + second = time.secs.toNat % 86400 ∧ millis = time.nanos / 1000000) ∧
    ∀ first second : SystemTime, first.BeforeYear 10000 → second.BeforeYear 10000 →
      (rfc3339 first < rfc3339 second ↔ first.millis < second.millis) ∧
        (rfc3339 first = rfc3339 second ↔ first.millis = second.millis) := by
  constructor
  · intro time since
    exact rfc3339_eq since
  · intro first second early otherEarly
    have less := rfc3339_lt_iff early otherEarly
    have more := rfc3339_lt_iff otherEarly early
    refine ⟨less, ?_⟩
    constructor
    · intro same
      rw [same] at less more
      have notLess := less.not.mp (String.lt_irrefl _)
      have notMore := more.not.mp (String.lt_irrefl _)
      omega
    · intro same
      have notLess := less.not.mpr (by omega)
      have notMore := more.not.mpr (by omega)
      exact String.le_antisymm (String.not_lt.mp notMore) (String.not_lt.mp notLess)

end Skimasque.Audit
