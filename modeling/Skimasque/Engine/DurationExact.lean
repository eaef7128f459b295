import Skimasque.Engine.Quantities

/-! Which texts are durations, and of which length: digits and a unit, one or more times, unless something does not fit
where it is counted. -/

set_option autoImplicit false

namespace Skimasque.Engine
open Library

/-- Digits and the unit they count. -/
structure Segment where
  digits : List Char
  unit : String
  filled : digits ≠ []
  decimal : ∀ c ∈ digits, Text.isAsciiDigit c = true
  known : unit ∈ timeUnits

namespace Segment

def text (segment : Segment) : List Char := segment.digits ++ segment.unit.toList

def count (segment : Segment) : Nat := Text.decimalValue segment.digits

def length (segment : Segment) : Duration := segment.count * millisOf segment.unit * 1000000

/-- The count, and the whole seconds it makes of a unit, are each counted in 64 bits. -/
def Fits (segment : Segment) : Prop := segment.count < 2 ^ 64 ∧ segment.count * (millisOf segment.unit / 1000) < 2 ^ 64

instance (segment : Segment) : Decidable segment.Fits := inferInstanceAs (Decidable (_ ∧ _))

end Segment

/-- Segments one behind the other. -/
def spelled (segments : List Segment) : List Char := segments.flatMap Segment.text

def span (segments : List Segment) : Duration := (segments.map Segment.length).sum

theorem spelled_cons (segment : Segment) (segments : List Segment) :
    spelled (segment :: segments) = segment.digits ++ (segment.unit.toList ++ spelled segments) := by
  rw [spelled, List.flatMap_cons, Segment.text, List.append_assoc]
  rfl

theorem spelled_head (segments : List Segment) : ∀ c ∈ (spelled segments).head?, Text.isAsciiDigit c = true := by
  cases segments with
  | nil => simp [spelled]
  | cons segment rest =>
    intro c first
    rw [spelled_cons, List.head?_append_of_ne_nil _ segment.filled] at first
    exact segment.decimal c (List.mem_of_head? first)

theorem unit_of_segmentDuration {input unit : String} {value : Nat} {duration : Duration}
    (read : segmentDuration input value unit = .ok duration) : unit ∈ timeUnits := by
  unfold segmentDuration at read
  split at read
  · decide
  · decide
  · decide
  · decide
  · decide
  · cases read
  · cases read

section
variable (input : String) {fuel total : Nat}

theorem parseSegments_segment (segment : Segment) {rest : List Char} (next : ∀ c ∈ rest.head?, Text.isAsciiDigit c = true) :
    parseSegments input (fuel + 1) total (segment.digits ++ (segment.unit.toList ++ rest)) =
      if segment.Fits ∧ total + segment.length ≤ (maxDuration : Nat) then
        parseSegments input fuel (total + segment.length) rest
      else .error (.overflow input) := by
  rw [parseSegments_step input segment.filled segment.decimal segment.known next]
  by_cases small : Text.decimalValue segment.digits < 2 ^ 64
  · rw [if_neg (not_not.mpr small), segmentDuration_eq input segment.known small]
    by_cases seconds : Text.decimalValue segment.digits * (millisOf segment.unit / 1000) < 2 ^ 64
    · have fits : segment.Fits := ⟨small, seconds⟩
      rw [if_pos seconds, Result.ok_bind]
      change (if (maxDuration : Nat) < total + segment.length then _ else _) = _
      by_cases room : total + segment.length ≤ (maxDuration : Nat)
      · have both : segment.Fits ∧ total + segment.length ≤ (maxDuration : Nat) := ⟨fits, room⟩
        rw [if_neg (Nat.not_lt.mpr room), if_pos both]
        rfl
      · have neither : ¬(segment.Fits ∧ total + segment.length ≤ (maxDuration : Nat)) := fun both => room both.2
        rw [if_pos (Nat.not_le.mp room), if_neg neither]
    · rw [if_neg seconds, if_neg fun both => seconds both.1.2]
      rfl
  · rw [if_pos small, if_neg fun both => small both.1.1]

/-- Segments are added up, unless one of them or the sum does not fit. -/
theorem parseSegments_spelled (segments : List Segment) (enough : segments.length ≤ fuel) (within : total ≤ (maxDuration : Nat)) :
    parseSegments input fuel total (spelled segments) =
      if (∀ segment ∈ segments, segment.Fits) ∧ total + span segments ≤ (maxDuration : Nat) then .ok (total + span segments)
      else .error (.overflow input) := by
  -- The sum is checked after each segment; as it only grows, checking it at the end comes to the same.
  induction segments generalizing fuel total with
  | nil =>
    rw [if_pos ⟨by simp, within⟩]
    cases fuel with
    | zero => rfl
    | succ fuel => rfl
  | cons segment rest ih =>
    obtain ⟨fuel, rfl⟩ : ∃ less, fuel = less + 1 := ⟨fuel - 1, by simp at enough; omega⟩
    have sum : total + span (segment :: rest) = total + segment.length + span rest := (Nat.add_assoc ..).symm
    rw [spelled_cons, parseSegments_segment input segment (spelled_head rest), sum]
    by_cases first : segment.Fits ∧ total + segment.length ≤ (maxDuration : Nat)
    · rw [if_pos first, ih (by simpa using enough) first.2]
      by_cases others : (∀ segment ∈ rest, segment.Fits) ∧ total + segment.length + span rest ≤ (maxDuration : Nat)
      · rw [if_pos others, if_pos ⟨List.forall_mem_cons.mpr ⟨first.1, others.1⟩, others.2⟩]
      · rw [if_neg others, if_neg]
        rintro ⟨fits, room⟩
        exact others ⟨(List.forall_mem_cons.mp fits).2, room⟩
    · rw [if_neg first, if_neg]
      rintro ⟨fits, room⟩
      exact first ⟨(List.forall_mem_cons.mp fits).1, Nat.le_trans (Nat.le_add_right ..) room⟩

/-- What is read without an error is made of segments. -/
theorem spelled_of_parseSegments {chars : List Char} {duration : Duration}
    (read : parseSegments input fuel total chars = .ok duration) : ∃ segments, chars = spelled segments := by
  induction fuel generalizing total chars with
  | zero =>
    cases chars with
    | nil => exact ⟨[], rfl⟩
    | cons c rest => cases read
  | succ fuel ih =>
    cases chars with
    | nil => exact ⟨[], rfl⟩
    | cons c rest =>
      unfold parseSegments at read
      simp only at read
      split at read
      · cases read
      split at read
      · cases read
      rename_i filled
      split at read
      · cases read
      obtain ⟨segment, readSegment, later⟩ := Result.bind_eq_ok_iff.mp read
      split at later
      · cases later
      obtain ⟨segments, tail⟩ := ih later
      -- The digits and the letters that were taken are the segment, whatever stops them.
      have known := unit_of_segmentDuration readSegment
      have split (test : Char → Bool) (chars : List Char) :
          chars = chars.takeWhile test ++ chars.drop (chars.takeWhile test).length :=
        (List.prefix_iff_eq_append.mp (List.takeWhile_prefix test)).symm
      refine ⟨⟨_, _, fun none => filled (by rw [none]; rfl), fun c member => List.mem_takeWhile_imp member, known⟩ :: segments, ?_⟩
      rw [spelled_cons, ← tail, String.toList_ofList, ← split, ← split]

end

theorem length_le_spelled (segments : List Segment) : segments.length ≤ (spelled segments).length := by
  induction segments with
  | nil => exact Nat.zero_le _
  | cons segment rest ih =>
    have positive := List.length_pos_iff.mpr segment.filled
    rw [spelled_cons, List.length_append, List.length_append, List.length_cons]
    omega

/-- A text of segments is the sum of them, or too much. -/
theorem parseDuration_spelled {input : String} {segments : List Segment} (some : segments ≠ [])
    (text : (Text.trim input).toList = spelled segments) :
    parseDuration input =
      if (∀ segment ∈ segments, segment.Fits) ∧ span segments ≤ (maxDuration : Nat) then .ok (span segments)
      else .error (.overflow input) := by
  have long := length_le_spelled segments
  have filled : Text.isEmpty (Text.trim input) = false := by
    rw [Text.isEmpty, text, List.isEmpty_eq_false_iff, ← List.length_pos_iff]
    exact Nat.lt_of_lt_of_le (List.length_pos_iff.mpr some) long
  have read := parseSegments_spelled input segments long (Nat.zero_le maxDuration)
  rw [Nat.zero_add] at read
  simp only [parseDuration, filled, Bool.false_eq_true, if_false, text]
  exact read

/-- A text is a duration when it is segments that fit, which it then is the sum of; other segments are too much; and whole
milliseconds are read again as they are printed. -/
theorem durations_parse_exactly :
    (∀ input duration, parseDuration input = .ok duration ↔ ∃ segments : List Segment, segments ≠ [] ∧
      (Text.trim input).toList = spelled segments ∧ (∀ segment ∈ segments, segment.Fits) ∧
      span segments ≤ (maxDuration : Nat) ∧ duration = span segments) ∧
    (∀ input, ∀ segments : List Segment, segments ≠ [] → (Text.trim input).toList = spelled segments →
      ¬((∀ segment ∈ segments, segment.Fits) ∧ span segments ≤ (maxDuration : Nat)) →
      parseDuration input = .error (.overflow input)) ∧
    ∀ millis, millis * 1000000 ≤ (maxDuration : Nat) →
      parseDuration (humanizeDuration (millis * 1000000)) = .ok (millis * 1000000) := by
  refine ⟨?_, ?_, fun millis fits => parseDuration_humanizeDuration fits⟩
  · intro input duration
    constructor
    · intro parsed
      have read := parsed
      unfold parseDuration at read
      simp only at read
      split at read
      · cases read
      rename_i filled
      obtain ⟨segments, text⟩ := spelled_of_parseSegments input read
      have some : segments ≠ [] := by
        rintro rfl
        exact filled (List.isEmpty_iff.mpr text)
      rw [parseDuration_spelled some text] at parsed
      split at parsed
      · rename_i fits
        exact ⟨segments, some, text, fits.1, fits.2, (Except.ok.inj parsed).symm⟩
      · cases parsed
    · rintro ⟨segments, some, text, fits, room, rfl⟩
      rw [parseDuration_spelled some text, if_pos ⟨fits, room⟩]
  · intro input segments some text large
    rw [parseDuration_spelled some text, if_neg large]

/-- A count of milliseconds is refused from 64 bits on, long before the duration is too long. -/
theorem long_count_of_milliseconds_overflows :
    ∃ segment : Segment, (Text.trim "20000000000000000000ms").toList = spelled [segment] ∧
      span [segment] ≤ (maxDuration : Nat) ∧
      parseDuration "20000000000000000000ms" = .error (.overflow "20000000000000000000ms") := by
  exact ⟨⟨"20000000000000000000".toList, "ms", by decide, List.all_eq_true.mp (by decide), by decide⟩, by decide, by decide,
    by decide⟩

end Skimasque.Engine
