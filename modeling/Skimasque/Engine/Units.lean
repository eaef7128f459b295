import Skimasque.Engine.Model

/-! The quantities a policy is written with: durations and rates. -/

set_option autoImplicit false

namespace Skimasque.Engine
open Library

inductive ParseUnitError where
  | empty (value : String)
  | malformed (kind value reason : String)
  | overflow (value : String)
  deriving DecidableEq, Repr

def nanosPerSec : Nat := 1000000000

/-- The largest span `std::time::Duration` holds, in nanoseconds. -/
def maxDuration : Duration := 2 ^ 64 * nanosPerSec - 1

/-- One segment's length in nanoseconds; seconds are counted in 64 bits. -/
def segmentDuration (input : String) (value : Nat) (unit : String) : Except ParseUnitError Duration :=
  let seconds := fun factor =>
    if value * factor < 2 ^ 64 then .ok (value * factor * nanosPerSec) else .error (.overflow input)
  match unit with
  | "ms" => .ok (value * 1000000)
  | "s" => .ok (value * nanosPerSec)
  | "m" => seconds 60
  | "h" => seconds 3600
  | "d" => seconds 86400
  | "" => .error (.malformed "duration" input "a number with no unit")
  | _ => .error (.malformed "duration" input "unknown unit")

/-- The loop of `parse_duration`; each turn uses up at least one character of `rest`. -/
def parseSegments (input : String) : Nat → Duration → List Char → Except ParseUnitError Duration
  | _, total, [] => .ok total
  | 0, _, _ :: _ => .error (.malformed "duration" input "expected a number")
  | fuel + 1, total, c :: rest =>
    let text := c :: rest
    let digits := text.takeWhile Text.isAsciiDigit
    if digits.length = text.length then .error (.malformed "duration" input "a number with no unit")
    else if digits.isEmpty then .error (.malformed "duration" input "expected a number")
    else if ¬ Text.decimalValue digits < 2 ^ 64 then .error (.overflow input)
    else do
      let after := text.drop digits.length
      let unit := after.takeWhile Text.isAsciiAlphabetic
      let segment ← segmentDuration input (Text.decimalValue digits) (String.ofList unit)
      if maxDuration < total + segment then .error (.overflow input)
      else parseSegments input fuel (total + segment) (after.drop unit.length)

def parseDuration (input : String) : Except ParseUnitError Duration :=
  let text := Text.trim input
  if Text.isEmpty text then .error (.empty input)
  else parseSegments input text.toList.length 0 text.toList

def parseRate (input : String) : Except ParseUnitError Rate :=
  match Text.splitOnce '/' (Text.trim input) with
  | none => .error (.malformed "rate" input "expected <count>/<unit>, e.g. 10/s")
  | some (count, unit) =>
    match Text.parseU64 (Text.trim count) with
    | none => .error (.malformed "rate" input "the count is not a number")
    | some count =>
      match Text.trim unit with
      | "s" | "sec" | "second" => .ok ⟨count, nanosPerSec⟩
      | "m" | "min" | "minute" => .ok ⟨count, 60 * nanosPerSec⟩
      | "h" | "hour" => .ok ⟨count, 3600 * nanosPerSec⟩
      | _ => .error (.malformed "rate" input "the unit must be s, m or h")

example : parseDuration "1h30m" = .ok (5400 * nanosPerSec) := by decide

end Skimasque.Engine
