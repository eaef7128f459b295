import Skimasque.Engine.Units
import Skimasque.Library.Binary64
import Skimasque.Library.Result

/-! Quantities as a policy is printed with them: durations, rates, sizes and bit rates.

Sizes are read through binary64 numbers. What was read once is such a number, and so is what remains
when powers of ten are split off for the unit; printing and reading again therefore gives it back.
-/

set_option autoImplicit false

namespace Skimasque.Engine
open Library

/-! ## Sizes and bit rates -/

/-- A decimal number without an exponent. -/
def parseMagnitude (chars : List Char) : Option ℚ :=
  let whole := chars.takeWhile Text.isAsciiDigit
  match chars.drop whole.length with
  | [] => if whole.isEmpty then none else some (Text.decimalValue whole)
  | '.' :: fraction =>
    if fraction.all Text.isAsciiDigit && !(whole.isEmpty && fraction.isEmpty) then
      some (Text.decimalValue (whole ++ fraction) / 10 ^ fraction.length)
    else none
  | _ => none

/-- `str::parse::<f64>` of a text without letters: no exponent, infinity or NaN can be in it. -/
def parseF64 (text : String) : Option ℚ :=
  match text.toList with
  | '-' :: rest => (parseMagnitude rest).map fun value => -Binary64.round value
  | '+' :: rest => (parseMagnitude rest).map Binary64.round
  | all => (parseMagnitude all).map Binary64.round

def splitScalar (input kind : String) : Except ParseUnitError (ℚ × String) :=
  let text := Text.trim input
  if Text.isEmpty text then .error (.empty input)
  else
    let number := Text.trim (String.ofList (text.toList.takeWhile fun c => !Text.isAsciiAlphabetic c))
    let unit := String.ofList (text.toList.dropWhile fun c => !Text.isAsciiAlphabetic c)
    if Text.isEmpty number then .error (.malformed kind input "expected a number")
    else
      match parseF64 number with
      | none => .error (.malformed kind input "not a number")
      | some value =>
        if value < 0 then .error (.malformed kind input "must not be negative") else .ok (value, Text.trim unit)

/-- The product, brought to a whole number; from 2^64 on it does not fit. -/
def scaled (input : String) (value multiplier : ℚ) : Except ParseUnitError UInt64 :=
  let product := Binary64.round (value * multiplier)
  if product < 0 ∨ 2 ^ 64 ≤ product then .error (.overflow input)
  else .ok (UInt64.ofNat (Binary64.nearest product))

def byteMultiplier (unit : String) : Option ℚ :=
  match unit with
  | "" | "b" => some 1
  | "kb" => some (10 ^ 3)
  | "mb" => some (10 ^ 6)
  | "gb" => some (10 ^ 9)
  | "tb" => some (10 ^ 12)
  | "pb" => some (10 ^ 15)
  | "kib" => some 1024
  | "mib" => some (1024 ^ 2)
  | "gib" => some (1024 ^ 3)
  | "tib" => some (1024 ^ 4)
  | "pib" => some (1024 ^ 5)
  | _ => none

def bitMultiplier (unit : String) : Option ℚ :=
  match unit with
  | "" | "bps" => some 1
  | "kbps" => some (10 ^ 3)
  | "mbps" => some (10 ^ 6)
  | "gbps" => some (10 ^ 9)
  | "tbps" => some (10 ^ 12)
  | _ => none

/-- What `parse_bytes` and `parse_bitrate` share. -/
def parseScaled (kind reason : String) (multiplierOf : String → Option ℚ) (input : String) :
    Except ParseUnitError UInt64 := do
  let (value, unit) ← splitScalar input kind
  match multiplierOf (Text.toAsciiLowercase unit) with
  | none => .error (.malformed kind input reason)
  | some multiplier => scaled input value multiplier

def parseBytes : String → Except ParseUnitError UInt64 := parseScaled "byte size" "unknown unit" byteMultiplier

def parseBitrate : String → Except ParseUnitError UInt64 :=
  parseScaled "bit rate" "unknown unit; expected e.g. Mbps" bitMultiplier

def decimalPrefixes : List (String × Nat) :=
  [("T", 1000000000000), ("G", 1000000000), ("M", 1000000), ("k", 1000)]

def humanizeDecimal (value : UInt64) (unit : String) : String :=
  match decimalPrefixes.find? fun entry => entry.2 ≤ value.toNat && value.toNat % entry.2 == 0 with
  | some (letter, size) => toString (value.toNat / size) ++ letter ++ unit
  | none => toString value.toNat ++ unit

/-! ## Durations and rates -/

def durationUnits : List (String × Nat) := [("d", 86400000), ("h", 3600000), ("m", 60000), ("s", 1000)]

/-- One turn of the loop over the units: what is left, and what is written. -/
def humanizeUnit (progress : Nat × String) (entry : String × Nat) : Nat × String :=
  if entry.2 ≤ progress.1 then
    (progress.1 % entry.2, progress.2 ++ (toString (progress.1 / entry.2) ++ entry.1))
  else progress

def humanizeDuration (duration : Duration) : String :=
  let millis := duration / 1000000
  if millis = 0 then "0s"
  else
    let progress := durationUnits.foldl humanizeUnit (millis, "")
    if 0 < progress.1 then progress.2 ++ (toString progress.1 ++ "ms") else progress.2

def perSuffix (window : Duration) : String :=
  match window / nanosPerSec with
  | 3600 => "h"
  | 60 => "m"
  | _ => "s"

def humanizeRate (rate : Rate) : String := toString rate.count.toNat ++ "/" ++ perSuffix rate.per

/-! ## Reading a size again -/

theorem parseMagnitude_toDigits (n : Nat) : parseMagnitude (Nat.toDigits 10 n) = some (n : ℚ) := by
  have digits : (Nat.toDigits 10 n).takeWhile Text.isAsciiDigit = Nat.toDigits 10 n :=
    List.takeWhile_eq_self_iff.mpr fun c member => Text.isAsciiDigit_of_mem_toDigits member
  have filled : (Nat.toDigits 10 n).isEmpty = false := by simp
  simp only [parseMagnitude, digits, List.drop_length, filled, Text.decimalValue_toDigits]
  rfl

theorem parseF64_toString (n : Nat) : parseF64 (toString n) = some (Binary64.round n) := by
  have unsigned (c : Char) (other : Text.isAsciiDigit c = false) (rest : List Char) : Nat.toDigits 10 n ≠ c :: rest := by
    intro signed
    have digit : Text.isAsciiDigit c = true :=
      @Text.isAsciiDigit_of_mem_toDigits n c (signed ▸ List.mem_cons_self ..)
    rw [other] at digit
    cases digit
  unfold parseF64
  rw [Text.toList_toString_nat]
  split
  · rename_i rest signed
    exact absurd signed (unsigned '-' (by decide) rest)
  · rename_i rest signed
    exact absurd signed (unsigned '+' (by decide) rest)
  · rw [parseMagnitude_toDigits]
    rfl

theorem not_isWhitespace_of_alphanumeric {c : Char} (plain : Text.isAsciiAlphanumeric c = true) :
    Text.isWhitespace c = false := by
  simp only [Text.isAsciiAlphanumeric, Text.isAsciiDigit, Text.isAsciiAlphabetic, Bool.or_eq_true, Bool.and_eq_true,
    decide_eq_true_eq, Char.le_def, UInt32.le_iff_toNat_le] at plain
  simp only [Text.isWhitespace, Char.toNat]
  simp
  simp at plain
  omega

theorem isAsciiAlphabetic_of_digit {c : Char} (digit : Text.isAsciiDigit c = true) :
    Text.isAsciiAlphabetic c = false := by
  simp only [Text.isAsciiDigit, Bool.and_eq_true, decide_eq_true_eq, Char.le_def, UInt32.le_iff_toNat_le] at digit
  rw [Bool.eq_false_iff]
  simp only [Text.isAsciiAlphabetic, ne_eq, Bool.or_eq_true, Bool.and_eq_true, decide_eq_true_eq, Char.le_def,
    UInt32.le_iff_toNat_le]
  simp at digit ⊢
  omega

/-- A number with a unit of letters behind it. -/
theorem splitScalar_toString (kind : String) (n : Nat) {unit : String}
    (letters : ∀ c ∈ unit.toList, Text.isAsciiAlphabetic c = true) :
    splitScalar (toString n ++ unit) kind = .ok (Binary64.round n, unit) := by
  have digits (c : Char) (member : c ∈ (toString n).toList) : Text.isAsciiDigit c = true := by
    rw [Text.toList_toString_nat] at member
    exact Text.isAsciiDigit_of_mem_toDigits member
  have numberTrimmed : Text.trim (toString n) = toString n :=
    Text.trim_eq_self fun c member => not_isWhitespace_of_alphanumeric (by simp [Text.isAsciiAlphanumeric, digits c member])
  have unitTrimmed : Text.trim unit = unit :=
    Text.trim_eq_self fun c member => not_isWhitespace_of_alphanumeric (by simp [Text.isAsciiAlphanumeric, letters c member])
  have trimmed : Text.trim (toString n ++ unit) = toString n ++ unit := by
    refine Text.trim_eq_self fun c member => not_isWhitespace_of_alphanumeric ?_
    rw [String.toList_append, List.mem_append] at member
    rcases member with inNumber | inUnit
    · simp [Text.isAsciiAlphanumeric, digits c inNumber]
    · simp [Text.isAsciiAlphanumeric, letters c inUnit]
  have filled : Text.isEmpty (toString n) = false := by
    rw [Text.isEmpty, Text.toList_toString_nat]
    simp
  have nonempty : Text.isEmpty (toString n ++ unit) = false := by
    rw [Bool.eq_false_iff, Ne, Text.isEmpty_iff] at filled ⊢
    exact fun empty => filled (String.append_eq_empty_iff.mp empty).1
  have front : (toString n ++ unit).toList.takeWhile (fun c => !Text.isAsciiAlphabetic c) = (toString n).toList := by
    rw [String.toList_append, List.takeWhile_append_of_pos]
    · have stops : unit.toList.takeWhile (fun c => !Text.isAsciiAlphabetic c) = [] := by
        rw [List.takeWhile_eq_nil_iff]
        intro some
        simp [letters _ (List.getElem_mem some)]
      rw [stops, List.append_nil]
    · intro c member
      simp [isAsciiAlphabetic_of_digit (digits c member)]
  have back : (toString n ++ unit).toList.dropWhile (fun c => !Text.isAsciiAlphabetic c) = unit.toList := by
    rw [String.toList_append, List.dropWhile_append_of_pos]
    · rw [List.dropWhile_eq_self_iff]
      intro some
      simp [letters _ (List.getElem_mem some)]
    · intro c member
      simp [isAsciiAlphabetic_of_digit (digits c member)]
  have nonneg : ¬ Binary64.round n < 0 := not_lt.mpr (Binary64.round_nonneg (Nat.cast_nonneg n))
  simp only [splitScalar, trimmed, nonempty, front, back, String.ofList_toList, numberTrimmed, filled, parseF64_toString,
    unitTrimmed, nonneg]
  rfl

theorem scaled_whole {n : Nat} (input : String) (whole : Binary64.Whole n) (fits : n < 2 ^ 64) {value multiplier : ℚ}
    (product : value * multiplier = n) : scaled input value multiplier = .ok (UInt64.ofNat n) := by
  have bounds : ¬ ((n : ℚ) < 0 ∨ 2 ^ 64 ≤ (n : ℚ)) := by
    rintro (negative | large)
    · exact absurd (Nat.cast_nonneg n) (not_le.mpr negative)
    · exact absurd large (not_le.mpr (by exact_mod_cast fits))
  simp only [scaled, product, Binary64.round_whole whole, if_neg bounds, Binary64.nearest_natCast]

/-- Whatever is read as a size is a binary64 number. -/
theorem whole_of_parseScaled {kind reason input : String} {multiplierOf : String → Option ℚ} {value : UInt64}
    (positive : ∀ unit multiplier, multiplierOf unit = some multiplier → 0 ≤ multiplier)
    (parsed : parseScaled kind reason multiplierOf input = .ok value) : Binary64.Whole value.toNat := by
  unfold parseScaled at parsed
  obtain ⟨⟨number, unit⟩, split, rest⟩ := Result.bind_eq_ok_iff.mp parsed
  have nonneg : 0 ≤ number := by
    simp only [splitScalar] at split
    repeat' split at split
    all_goals cases split
    rename_i notNegative
    exact not_lt.mp notNegative
  cases found : multiplierOf (Text.toAsciiLowercase unit) with
  | none => simp [found] at rest
  | some multiplier =>
    simp only [found, scaled] at rest
    split at rest
    · cases rest
    · rename_i bounds
      cases rest
      have product := mul_nonneg nonneg (positive _ _ found)
      rw [not_or, not_le] at bounds
      have fits : Binary64.nearest (Binary64.round (number * multiplier)) < 2 ^ 64 :=
        Binary64.nearest_round_lt product (by norm_num) (by exact_mod_cast bounds.2)
      rw [UInt64.toNat_ofNat_of_lt' fits]
      exact Binary64.whole_nearest_round product

theorem decimalPrefixes_spec :
    ∀ entry ∈ decimalPrefixes, (∃ power, entry.2 = 10 ^ power) ∧ ∀ c ∈ entry.1.toList, Text.isAsciiAlphabetic c = true := by
  have powers : decimalPrefixes.map Prod.snd = [12, 9, 6, 3].map (10 ^ ·) := by decide
  have letters : ∀ entry ∈ decimalPrefixes, ∀ c ∈ entry.1.toList, Text.isAsciiAlphabetic c = true := by
    simp [decimalPrefixes, Text.isAsciiAlphabetic]
  intro entry member
  refine ⟨?_, letters entry member⟩
  obtain ⟨power, -, same⟩ := List.mem_map.mp (powers ▸ List.mem_map_of_mem member)
  exact ⟨power, same.symm⟩

section
variable {kind reason unit : String} {multiplierOf : String → Option ℚ} {value : UInt64}

theorem parseScaled_toString {n size : Nat} (letters : ∀ c ∈ unit.toList, Text.isAsciiAlphabetic c = true)
    (multiplier : multiplierOf (Text.toAsciiLowercase unit) = some (size : ℚ)) (digits : Binary64.Whole n)
    (whole : Binary64.Whole value.toNat) (product : n * size = value.toNat) :
    parseScaled kind reason multiplierOf (toString n ++ unit) = .ok value := by
  have exact : Binary64.round n * (size : ℚ) = (value.toNat : ℚ) := by
    rw [Binary64.round_whole digits, ← product, Nat.cast_mul]
  have read := scaled_whole (toString n ++ unit) whole value.toNat_lt exact
  rw [UInt64.ofNat_toNat] at read
  simp only [parseScaled, splitScalar_toString kind n letters, bind, Except.bind, multiplier, read]

/-- A quantity that was read is read again from the text it is printed as. -/
theorem parseScaled_humanizeDecimal (letters : ∀ c ∈ unit.toList, Text.isAsciiAlphabetic c = true)
    (plain : multiplierOf (Text.toAsciiLowercase unit) = some 1)
    (scales : ∀ entry ∈ decimalPrefixes, multiplierOf (Text.toAsciiLowercase (entry.1 ++ unit)) = some (entry.2 : ℚ))
    (whole : Binary64.Whole value.toNat) :
    parseScaled kind reason multiplierOf (humanizeDecimal value unit) = .ok value := by
  unfold humanizeDecimal
  split
  · rename_i letter size found
    have member := List.mem_of_find?_eq_some found
    have tested := List.find?_some found
    simp only [Bool.and_eq_true, decide_eq_true_eq, beq_iff_eq] at tested
    obtain ⟨⟨power, isPower⟩, spelled⟩ := decimalPrefixes_spec _ member
    have product : value.toNat / size * size = value.toNat := Nat.div_mul_cancel (Nat.dvd_of_mod_eq_zero tested.2)
    have digits : Binary64.Whole (value.toNat / size) := by
      apply Binary64.whole_of_mul_ten_pow
      rw [← isPower, product]
      exact whole
    have scale : multiplierOf (Text.toAsciiLowercase (letter ++ unit)) = some (size : ℚ) := scales (letter, size) member
    have both : ∀ c ∈ (letter ++ unit).toList, Text.isAsciiAlphabetic c = true := by
      intro c inside
      rw [String.toList_append, List.mem_append] at inside
      exact inside.elim (spelled c) (letters c)
    rw [String.append_assoc]
    exact parseScaled_toString both scale digits whole product
  · exact parseScaled_toString letters (by rw [plain, Nat.cast_one]) whole whole (Nat.mul_one _)

end

theorem parseBytes_humanize {input : String} {value : UInt64} (parsed : parseBytes input = .ok value) :
    parseBytes (humanizeDecimal value "B") = .ok value := by
  apply parseScaled_humanizeDecimal
  · simp [Text.isAsciiAlphabetic]
  · rfl
  · intro entry member
    simp only [decimalPrefixes, List.mem_cons, List.not_mem_nil, or_false] at member
    rcases member with rfl | rfl | rfl | rfl
    · rw [show Text.toAsciiLowercase ("T" ++ "B") = "tb" by decide]
      norm_num [byteMultiplier]
    · rw [show Text.toAsciiLowercase ("G" ++ "B") = "gb" by decide]
      norm_num [byteMultiplier]
    · rw [show Text.toAsciiLowercase ("M" ++ "B") = "mb" by decide]
      norm_num [byteMultiplier]
    · rw [show Text.toAsciiLowercase ("k" ++ "B") = "kb" by decide]
      norm_num [byteMultiplier]
  · refine whole_of_parseScaled ?_ parsed
    intro unit multiplier found
    unfold byteMultiplier at found
    split at found <;> cases found <;> norm_num

theorem parseBitrate_humanize {input : String} {value : UInt64} (parsed : parseBitrate input = .ok value) :
    parseBitrate (humanizeDecimal value "bps") = .ok value := by
  apply parseScaled_humanizeDecimal
  · simp [Text.isAsciiAlphabetic]
  · rfl
  · intro entry member
    simp only [decimalPrefixes, List.mem_cons, List.not_mem_nil, or_false] at member
    rcases member with rfl | rfl | rfl | rfl
    · rw [show Text.toAsciiLowercase ("T" ++ "bps") = "tbps" by decide]
      norm_num [bitMultiplier]
    · rw [show Text.toAsciiLowercase ("G" ++ "bps") = "gbps" by decide]
      norm_num [bitMultiplier]
    · rw [show Text.toAsciiLowercase ("M" ++ "bps") = "mbps" by decide]
      norm_num [bitMultiplier]
    · rw [show Text.toAsciiLowercase ("k" ++ "bps") = "kbps" by decide]
      norm_num [bitMultiplier]
  · refine whole_of_parseScaled ?_ parsed
    intro unit multiplier found
    unfold bitMultiplier at found
    split at found <;> cases found <;> norm_num

/-! ## Reading a duration again -/

/-- The segments that are written for so many milliseconds, largest unit first. -/
def segmentsOf : List (String × Nat) → Nat → List (Nat × String)
  | [], left => if 0 < left then [(left, "ms")] else []
  | entry :: units, left =>
    if entry.2 ≤ left then (left / entry.2, entry.1) :: segmentsOf units (left % entry.2) else segmentsOf units left

def segmentsText (segments : List (Nat × String)) : List Char :=
  segments.flatMap fun segment => Nat.toDigits 10 segment.1 ++ segment.2.toList

def millisOf (unit : String) : Nat :=
  match unit with
  | "d" => 86400000
  | "h" => 3600000
  | "m" => 60000
  | "s" => 1000
  | _ => 1

def millisSum (segments : List (Nat × String)) : Nat :=
  (segments.map fun segment => segment.1 * millisOf segment.2).sum

def timeUnits : List String := ["d", "h", "m", "s", "ms"]

theorem humanize_toList (units : List (String × Nat)) (progress : Nat × String) :
    (if 0 < (units.foldl humanizeUnit progress).1 then
        (units.foldl humanizeUnit progress).2 ++ (toString (units.foldl humanizeUnit progress).1 ++ "ms")
      else (units.foldl humanizeUnit progress).2).toList =
      progress.2.toList ++ segmentsText (segmentsOf units progress.1) := by
  induction units generalizing progress with
  | nil =>
    rw [List.foldl_nil, segmentsOf]
    by_cases left : 0 < progress.1
    · rw [if_pos left, if_pos left, String.toList_append, String.toList_append, Text.toList_toString_nat]
      simp [segmentsText]
    · rw [if_neg left, if_neg left]
      simp [segmentsText]
  | cons entry units ih =>
    rw [List.foldl_cons, segmentsOf, ih]
    unfold humanizeUnit
    split
    · rw [String.toList_append, String.toList_append, Text.toList_toString_nat, List.append_assoc]
      rfl
    · rfl

theorem millisSum_segmentsOf (units : List (String × Nat)) (sizes : ∀ entry ∈ units, entry.2 = millisOf entry.1)
    (left : Nat) : millisSum (segmentsOf units left) = left := by
  induction units generalizing left with
  | nil =>
    unfold segmentsOf
    split
    · simp [millisSum, millisOf]
    · simp [millisSum]
      omega
  | cons entry units ih =>
    rw [List.forall_mem_cons] at sizes
    unfold segmentsOf
    split
    · have rest := ih sizes.2 (left % entry.2)
      unfold millisSum at rest ⊢
      rw [List.map_cons, List.sum_cons, rest, ← sizes.1]
      exact Nat.div_add_mod' left entry.2
    · exact ih sizes.2 left

theorem segmentsOf_units (units : List (String × Nat)) (known : ∀ entry ∈ units, entry.1 ∈ timeUnits) (left : Nat) :
    ∀ segment ∈ segmentsOf units left, segment.2 ∈ timeUnits := by
  induction units generalizing left with
  | nil =>
    intro segment member
    unfold segmentsOf at member
    split at member
    · rw [List.mem_singleton.mp member]
      exact show "ms" ∈ timeUnits by decide
    · cases member
  | cons entry units ih =>
    rw [List.forall_mem_cons] at known
    intro segment member
    unfold segmentsOf at member
    split at member
    · rcases List.mem_cons.mp member with rfl | later
      · exact known.1
      · exact ih known.2 _ segment later
    · exact ih known.2 _ segment member

/-- A segment of a known unit is its milliseconds, unless its seconds leave 64 bits. -/
theorem segmentDuration_eq (input : String) {value : Nat} {unit : String} (known : unit ∈ timeUnits) (small : value < 2 ^ 64) :
    segmentDuration input value unit =
      if value * (millisOf unit / 1000) < 2 ^ 64 then .ok (value * millisOf unit * 1000000) else .error (.overflow input) := by
  have counted (seconds : Nat) : value * seconds * nanosPerSec = value * (seconds * 1000) * 1000000 := by
    rw [nanosPerSec, Nat.mul_assoc, Nat.mul_assoc, Nat.mul_assoc]
  simp only [timeUnits, List.mem_cons, List.not_mem_nil, or_false] at known
  rcases known with rfl | rfl | rfl | rfl | rfl
  · simp only [segmentDuration, millisOf, counted, Nat.reduceDiv, Nat.reduceMul]
  · simp only [segmentDuration, millisOf, counted, Nat.reduceDiv, Nat.reduceMul]
  · simp only [segmentDuration, millisOf, counted, Nat.reduceDiv, Nat.reduceMul]
  · have one : value * (millisOf "s" / 1000) < 2 ^ 64 := by simpa [millisOf] using small
    have nanos : value * nanosPerSec = value * millisOf "s" * 1000000 := by simpa [millisOf] using counted 1
    rw [if_pos one, ← nanos]
    rfl
  · have none : value * (millisOf "ms" / 1000) < 2 ^ 64 := by simp [millisOf]
    have millis : value * 1000000 = value * millisOf "ms" * 1000000 := by simp [millisOf]
    rw [if_pos none, ← millis]
    rfl

theorem timeUnits_letters :
    ∀ unit ∈ timeUnits, unit.toList ≠ [] ∧ ∀ c ∈ unit.toList, Text.isAsciiAlphabetic c = true ∧ Text.isAsciiDigit c = false := by
  simp [timeUnits, Text.isAsciiAlphabetic, Text.isAsciiDigit]

theorem takeWhile_append_stop {α : Type} {test : α → Bool} {front back : List α} (passes : ∀ x ∈ front, test x = true)
    (stops : ∀ x ∈ back.head?, test x = false) : (front ++ back).takeWhile test = front := by
  rw [List.takeWhile_append_of_pos passes]
  cases back with
  | nil => simp
  | cons head rest => simp [stops head (by simp)]

/-- What follows a segment is another one, or nothing. -/
theorem segmentsText_head (segments : List (Nat × String)) :
    ∀ c ∈ (segmentsText segments).head?, Text.isAsciiDigit c = true := by
  cases segments with
  | nil => simp [segmentsText]
  | cons segment rest =>
    intro c first
    rw [segmentsText, List.flatMap_cons, List.append_assoc, List.head?_append_of_ne_nil _ (by simp)] at first
    exact Text.isAsciiDigit_of_mem_toDigits (List.mem_of_head? first)

/-- One turn of the loop takes the digits and the letters in front of the next digit. -/
theorem parseSegments_step (input : String) {fuel total : Nat} {digits rest : List Char} {unit : String} (filled : digits ≠ [])
    (decimal : ∀ c ∈ digits, Text.isAsciiDigit c = true) (known : unit ∈ timeUnits)
    (next : ∀ c ∈ rest.head?, Text.isAsciiDigit c = true) :
    parseSegments input (fuel + 1) total (digits ++ (unit.toList ++ rest)) =
      if ¬ Text.decimalValue digits < 2 ^ 64 then .error (.overflow input)
      else segmentDuration input (Text.decimalValue digits) unit >>= fun segment =>
        if maxDuration < total + segment then .error (.overflow input)
        else parseSegments input fuel (total + segment) rest := by
  obtain ⟨lettered, letters⟩ := timeUnits_letters unit known
  have taken : (digits ++ (unit.toList ++ rest)).takeWhile Text.isAsciiDigit = digits := by
    apply takeWhile_append_stop decimal
    intro c first
    rw [List.head?_append_of_ne_nil _ lettered] at first
    exact (letters c (List.mem_of_head? first)).2
  have spelled : (unit.toList ++ rest).takeWhile Text.isAsciiAlphabetic = unit.toList :=
    takeWhile_append_stop (fun c member => (letters c member).1) fun c first => isAsciiAlphabetic_of_digit (next c first)
  have longer : digits.length ≠ (digits ++ (unit.toList ++ rest)).length := by
    have positive := List.length_pos_iff.mpr lettered
    rw [List.length_append, List.length_append]
    omega
  have some : digits.isEmpty = false := List.isEmpty_eq_false_iff.mpr filled
  obtain ⟨c, tail, whole⟩ := List.exists_cons_of_ne_nil (List.append_ne_nil_of_left_ne_nil filled (unit.toList ++ rest))
  rw [whole, parseSegments]
  simp only [← whole, taken, if_neg longer, some, Bool.false_eq_true, if_false, List.drop_left, spelled, String.ofList_toList]

theorem seconds_of_fits {value millis : Nat} (fits : value * millis * 1000000 ≤ (maxDuration : Nat)) :
    value * (millis / 1000) < 2 ^ 64 := by
  have cut := Nat.mul_le_mul_left value (Nat.div_mul_le_self millis 1000)
  rw [← Nat.mul_assoc] at cut
  unfold maxDuration nanosPerSec at fits
  omega

theorem parseSegments_segmentsText (input : String) (segments : List (Nat × String)) {fuel total : Nat}
    (known : ∀ segment ∈ segments, segment.2 ∈ timeUnits) (small : ∀ segment ∈ segments, segment.1 < 2 ^ 64)
    (enough : segments.length ≤ fuel) (fits : total + millisSum segments * 1000000 ≤ (maxDuration : Nat)) :
    parseSegments input fuel total (segmentsText segments) = .ok (total + millisSum segments * 1000000) := by
  induction segments generalizing fuel total with
  | nil =>
    rw [show segmentsText [] = [] from rfl, show millisSum [] = 0 from rfl, Nat.zero_mul, Nat.add_zero]
    cases fuel with
    | zero => rfl
    | succ fuel => rfl
  | cons segment rest ih =>
    obtain ⟨value, unit⟩ := segment
    rw [List.forall_mem_cons] at known small
    obtain ⟨fuel, rfl⟩ : ∃ less, fuel = less + 1 := ⟨fuel - 1, by simp at enough; omega⟩
    have sum : millisSum ((value, unit) :: rest) = value * millisOf unit + millisSum rest := rfl
    rw [sum, Nat.add_mul, ← Nat.add_assoc] at fits ⊢
    have text : segmentsText ((value, unit) :: rest) = Nat.toDigits 10 value ++ (unit.toList ++ segmentsText rest) := by
      rw [segmentsText, List.flatMap_cons, List.append_assoc]
      rfl
    have within : total + value * millisOf unit * 1000000 ≤ (maxDuration : Nat) := by omega
    have seconds : value * (millisOf unit / 1000) < 2 ^ 64 := seconds_of_fits (Nat.le_trans (Nat.le_add_left _ total) within)
    have duration := segmentDuration_eq input known.1 small.1
    rw [if_pos seconds] at duration
    rw [text, parseSegments_step input (by simp) (fun c member => Text.isAsciiDigit_of_mem_toDigits member) known.1
      (segmentsText_head rest), Text.decimalValue_toDigits, if_neg (not_not.mpr small.1), duration]
    rw [Result.ok_bind, if_neg (Nat.not_lt.mpr within)]
    exact ih known.2 small.2 (by simpa using enough) fits

theorem durationUnits_spec : (∀ entry ∈ durationUnits, entry.2 = millisOf entry.1) ∧ ∀ entry ∈ durationUnits, entry.1 ∈ timeUnits := by
  decide

theorem length_le_segmentsText (segments : List (Nat × String)) : segments.length ≤ (segmentsText segments).length := by
  induction segments with
  | nil => exact Nat.zero_le _
  | cons segment rest ih =>
    have digits : 0 < (Nat.toDigits 10 segment.1).length := List.length_pos_iff.mpr (by simp)
    rw [segmentsText, List.flatMap_cons, List.length_append, List.length_append, List.length_cons]
    unfold segmentsText at ih
    omega

theorem segmentsText_alphanumeric {segments : List (Nat × String)} (known : ∀ segment ∈ segments, segment.2 ∈ timeUnits) :
    ∀ c ∈ segmentsText segments, Text.isAsciiAlphanumeric c = true := by
  intro c member
  obtain ⟨segment, listed, inside⟩ := List.mem_flatMap.mp member
  rcases List.mem_append.mp inside with digit | letter
  · simp [Text.isAsciiAlphanumeric, Text.isAsciiDigit_of_mem_toDigits digit]
  · simp [Text.isAsciiAlphanumeric, ((timeUnits_letters _ (known segment listed)).2 c letter).1]

/-- Where the last of the units is the second, fewer than a thousand milliseconds are left. -/
theorem segmentsOf_values (units : List (String × Nat)) (large : ∀ entry ∈ units, 1000 ≤ entry.2) (left : Nat)
    (fits : left < 2 ^ 64 * 1000) (last : units.getLast?.map Prod.snd = some 1000 ∨ left < 1000) :
    ∀ segment ∈ segmentsOf units left, segment.1 < 2 ^ 64 := by
  induction units generalizing left with
  | nil =>
    intro segment member
    have few : left < 1000 := last.resolve_left (by simp)
    unfold segmentsOf at member
    split at member
    · rw [List.mem_singleton.mp member]
      exact few.trans (by norm_num)
    · cases member
  | cons entry units ih =>
    rw [List.forall_mem_cons] at large
    -- The unit is the last one, or the last one is still to come.
    have remains {rest : Nat} (most : rest ≤ left) (less : entry.2 = 1000 → rest < 1000) :
        units.getLast?.map Prod.snd = some 1000 ∨ rest < 1000 := by
      rcases last with last | few
      · cases units with
        | nil => exact .inr (less (by simpa using last))
        | cons next units => exact .inl (by rwa [List.getLast?_cons_cons] at last)
      · exact .inr (most.trans_lt few)
    intro segment member
    unfold segmentsOf at member
    split at member
    · rcases List.mem_cons.mp member with rfl | later
      · exact (Nat.div_le_div_left large.1 (by norm_num)).trans_lt (Nat.div_lt_of_lt_mul (by omega))
      · have less : left % entry.2 ≤ left := Nat.mod_le ..
        refine ih large.2 _ (less.trans_lt fits) (remains less fun second => ?_) segment later
        rw [second]
        exact Nat.mod_lt _ (by norm_num)
    · rename_i smaller
      exact ih large.2 left fits (remains le_rfl fun second => by omega) segment member

/-- Whole milliseconds are read again as they are printed. -/
theorem parseDuration_humanizeDuration {millis : Nat} (fits : millis * 1000000 ≤ (maxDuration : Nat)) :
    parseDuration (humanizeDuration (millis * 1000000)) = .ok (millis * 1000000) := by
  have whole : millis * 1000000 / 1000000 = millis := Nat.mul_div_cancel _ (by norm_num)
  by_cases zero : millis = 0
  · subst zero
    decide
  · have chars : (humanizeDuration (millis * 1000000)).toList = segmentsText (segmentsOf durationUnits millis) := by
      have written := humanize_toList durationUnits (millis, "")
      simp only [humanizeDuration, whole, if_neg zero, written]
      rfl
    have known := segmentsOf_units durationUnits durationUnits_spec.2 millis
    have sum := millisSum_segmentsOf durationUnits durationUnits_spec.1 millis
    have small : ∀ segment ∈ segmentsOf durationUnits millis, segment.1 < 2 ^ 64 := by
      refine segmentsOf_values durationUnits (by decide) millis ?_ (.inl (by decide))
      unfold maxDuration nanosPerSec at fits
      omega
    have trimmed : Text.trim (humanizeDuration (millis * 1000000)) = humanizeDuration (millis * 1000000) := by
      refine Text.trim_eq_self fun c member => not_isWhitespace_of_alphanumeric ?_
      rw [chars] at member
      exact segmentsText_alphanumeric known c member
    have filled : segmentsOf durationUnits millis ≠ [] := by
      intro none
      rw [none] at sum
      exact zero sum.symm
    have nonempty : Text.isEmpty (humanizeDuration (millis * 1000000)) = false := by
      rw [Text.isEmpty, chars, List.isEmpty_eq_false_iff, ← List.length_pos_iff]
      exact (List.length_pos_iff.mpr filled).trans_le (length_le_segmentsText _)
    have read := @parseSegments_segmentsText (humanizeDuration (millis * 1000000)) (segmentsOf durationUnits millis)
      (segmentsText (segmentsOf durationUnits millis)).length 0 known small (length_le_segmentsText _)
      (by rw [sum]; simpa using fits)
    rw [sum, Nat.zero_add] at read
    simp only [parseDuration, trimmed, nonempty, chars, read]
    rfl

/-- What is read as a duration is whole milliseconds, and fits. -/
theorem segmentDuration_millis {input unit : String} {value : Nat} {duration : Duration}
    (read : segmentDuration input value unit = .ok duration) : ∃ millis, duration = millis * 1000000 := by
  have seconds {factor : Nat} (read : (if value * factor < 2 ^ 64 then Except.ok (value * factor * nanosPerSec)
      else .error (ParseUnitError.overflow input)) = .ok duration) : ∃ millis, duration = millis * 1000000 := by
    split at read
    · refine ⟨value * factor * 1000, ?_⟩
      rw [← Except.ok.inj read, Nat.mul_assoc (value * factor)]
      rfl
    · cases read
  unfold segmentDuration at read
  split at read
  · exact ⟨value, (Except.ok.inj read).symm⟩
  · refine ⟨value * 1000, ?_⟩
    rw [← Except.ok.inj read, Nat.mul_assoc]
    rfl
  · exact seconds read
  · exact seconds read
  · exact seconds read
  · cases read
  · cases read

theorem parseSegments_millis {input : String} {fuel : Nat} {total duration : Duration} {chars : List Char}
    (start : ∃ millis, total = millis * 1000000) (within : total ≤ maxDuration)
    (read : parseSegments input fuel total chars = .ok duration) :
    (∃ millis, duration = millis * 1000000) ∧ duration ≤ maxDuration := by
  induction fuel generalizing total chars with
  | zero =>
    cases chars with
    | nil =>
      cases read
      exact ⟨start, within⟩
    | cons c rest => cases read
  | succ fuel ih =>
    cases chars with
    | nil =>
      cases read
      exact ⟨start, within⟩
    | cons c rest =>
      unfold parseSegments at read
      simp only at read
      split at read
      · cases read
      split at read
      · cases read
      split at read
      · cases read
      obtain ⟨segment, readSegment, rest⟩ := Result.bind_eq_ok_iff.mp read
      split at rest
      · cases rest
      rename_i small
      refine ih ?_ (Nat.not_lt.mp small) rest
      obtain ⟨before, isBefore⟩ := start
      obtain ⟨millis, isMillis⟩ := segmentDuration_millis readSegment
      exact ⟨before + millis, by rw [isBefore, isMillis, Nat.add_mul]⟩

/-- A duration that was read is read again from the text it is printed as. -/
theorem parseDuration_humanize {input : String} {duration : Duration} (parsed : parseDuration input = .ok duration) :
    parseDuration (humanizeDuration duration) = .ok duration := by
  unfold parseDuration at parsed
  simp only at parsed
  split at parsed
  · cases parsed
  · obtain ⟨⟨millis, rfl⟩, fits⟩ := parseSegments_millis ⟨0, (Nat.zero_mul _).symm⟩ (Nat.zero_le _) parsed
    exact parseDuration_humanizeDuration fits

/-! ## Reading a rate again -/

theorem parseRate_per {input : String} {rate : Rate} (parsed : parseRate input = .ok rate) :
    rate.per = nanosPerSec ∨ rate.per = 60 * nanosPerSec ∨ rate.per = 3600 * nanosPerSec := by
  unfold parseRate at parsed
  split at parsed
  · cases parsed
  split at parsed
  · cases parsed
  split at parsed
  all_goals cases parsed
  · exact .inl rfl
  · exact .inl rfl
  · exact .inl rfl
  · exact .inr (.inl rfl)
  · exact .inr (.inl rfl)
  · exact .inr (.inl rfl)
  · exact .inr (.inr rfl)
  · exact .inr (.inr rfl)

def rateWindows : List (String × Duration) :=
  [("s", nanosPerSec), ("m", 60 * nanosPerSec), ("h", 3600 * nanosPerSec)]

theorem parseRate_toString (count : UInt64) {suffix : String} {per : Duration} (listed : (suffix, per) ∈ rateWindows) :
    parseRate (toString count.toNat ++ "/" ++ suffix) = .ok ⟨count, per⟩ := by
  have spelled : ∀ window ∈ rateWindows, ∀ c ∈ window.1.toList, Text.isAsciiAlphabetic c = true := by
    simp [rateWindows, Text.isAsciiAlphabetic]
  have letters : ∀ c ∈ suffix.toList, Text.isAsciiAlphabetic c = true := spelled _ listed
  have digits (c : Char) (member : c ∈ (toString count.toNat).toList) : Text.isAsciiDigit c = true := by
    rw [Text.toList_toString_nat] at member
    exact Text.isAsciiDigit_of_mem_toDigits member
  have clearDigit (c : Char) (member : c ∈ (toString count.toNat).toList) : Text.isWhitespace c = false :=
    not_isWhitespace_of_alphanumeric (by simp [Text.isAsciiAlphanumeric, digits c member])
  have clearLetter (c : Char) (member : c ∈ suffix.toList) : Text.isWhitespace c = false :=
    not_isWhitespace_of_alphanumeric (by simp [Text.isAsciiAlphanumeric, letters c member])
  have trimmed : Text.trim (toString count.toNat ++ "/" ++ suffix) = toString count.toNat ++ "/" ++ suffix := by
    refine Text.trim_eq_self fun c member => ?_
    rw [String.toList_append, String.toList_append, List.mem_append, List.mem_append] at member
    rcases member with (inCount | slash) | inSuffix
    · exact clearDigit c inCount
    · rw [List.mem_singleton.mp slash]
      decide
    · exact clearLetter c inSuffix
  have split : Text.splitOnce '/' (toString count.toNat ++ "/" ++ suffix) = some (toString count.toNat, suffix) := by
    rw [Text.splitOnce_eq_some_iff]
    constructor
    · rw [String.toList_append, String.toList_append, List.append_assoc]
      rfl
    · intro slash
      exact absurd (digits _ slash) (by decide)
  have number : Text.parseU64 (toString count.toNat) = some count := by
    rw [Text.parseU64, Text.parseUnsigned_toString count.toNat_lt, Option.map_some, UInt64.ofNat_toNat]
  simp only [parseRate, trimmed, split, Text.trim_eq_self clearDigit, number, Text.trim_eq_self clearLetter]
  simp only [rateWindows, List.mem_cons, Prod.mk.injEq, List.not_mem_nil, or_false] at listed
  rcases listed with ⟨rfl, rfl⟩ | ⟨rfl, rfl⟩ | ⟨rfl, rfl⟩
  · rfl
  · rfl
  · rfl

/-- A rate that was read is read again from the text it is printed as. -/
theorem parseRate_humanize {input : String} {rate : Rate} (parsed : parseRate input = .ok rate) :
    parseRate (humanizeRate rate) = .ok rate := by
  obtain ⟨count, per⟩ := rate
  have listed : (perSuffix per, per) ∈ rateWindows := by
    rcases parseRate_per parsed with rfl | rfl | rfl
    · decide
    · decide
    · decide
  exact parseRate_toString count listed

end Skimasque.Engine
