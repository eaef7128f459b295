import Mathlib.Data.List.Basic
import Mathlib.Tactic.Common

/-! Looking for a free number in a range, from a cursor on and around the end.

The successor is a parameter: all that is asked of it is that it counts up to the end of the range,
so that it may saturate or wrap beyond.
-/

set_option autoImplicit false

namespace Skimasque.Library.Scan

/-- Past the end, the first number is next. -/
def wrapped (first last candidate : Nat) : Nat := if last < candidate then first else candidate

/-- Look at `steps` candidates, going back to `first` after `last`. -/
def scan (succ : Nat → Nat) (taken : Nat → Bool) (first last : Nat) : Nat → Nat → Option Nat
  | 0, _ => none
  | steps + 1, candidate =>
    if taken (wrapped first last candidate) then
      scan succ taken first last steps (succ (wrapped first last candidate))
    else some (wrapped first last candidate)

/-- How far a number is ahead of the cursor, around the end. -/
def ahead (first last cursor number : Nat) : Nat :=
  if cursor ≤ number then number - cursor else last + 1 - cursor + (number - first)

variable {succ : Nat → Nat} {taken : Nat → Bool} {first last : Nat}

theorem wrapped_bounds (ordered : first ≤ last) {cursor : Nat} (low : first ≤ cursor) :
    first ≤ wrapped first last cursor ∧ wrapped first last cursor ≤ last := by
  unfold wrapped
  split <;> omega

/-- Each step brings every other number of the range one nearer. -/
theorem ahead_succ {cursor number : Nat} (high : cursor ≤ last + 1) (above : first ≤ number)
    (below : number ≤ last) (other : number ≠ wrapped first last cursor) :
    ahead first last (wrapped first last cursor + 1) number + 1 = ahead first last cursor number := by
  unfold ahead wrapped at *
  split_ifs at other ⊢ <;> omega

theorem scan_eq_some (ordered : first ≤ last) (counts : ∀ number ≤ last, succ number = number + 1)
    {steps cursor found : Nat} (low : first ≤ cursor)
    (scanned : scan succ taken first last steps cursor = some found) :
    first ≤ found ∧ found ≤ last ∧ taken found = false := by
  induction steps generalizing cursor with
  | zero => cases scanned
  | succ steps ih =>
    obtain ⟨above, below⟩ := wrapped_bounds ordered low
    rw [scan] at scanned
    split at scanned
    · rw [counts _ below] at scanned
      exact ih (by omega) scanned
    · rename_i free
      cases scanned
      exact ⟨above, below, by simpa using free⟩

theorem scan_eq_none (ordered : first ≤ last) (counts : ∀ number ≤ last, succ number = number + 1)
    {steps cursor : Nat} (low : first ≤ cursor) (high : cursor ≤ last + 1)
    (scanned : scan succ taken first last steps cursor = none) {number : Nat} (above : first ≤ number)
    (below : number ≤ last) (near : ahead first last cursor number < steps) : taken number = true := by
  induction steps generalizing cursor with
  | zero => omega
  | succ steps ih =>
    have bounds := wrapped_bounds ordered low
    rw [scan] at scanned
    split at scanned
    · rename_i busy
      rw [counts _ bounds.2] at scanned
      by_cases here : number = wrapped first last cursor
      · rw [here]
        exact busy
      · have nearer := ahead_succ high above below here
        exact ih (by omega) (by omega) scanned (by omega)
    · cases scanned

/-- A scan as long as the range finds nothing exactly when there is nothing to find. -/
theorem scan_range_eq_none_iff (ordered : first ≤ last) (counts : ∀ number ≤ last, succ number = number + 1)
    {cursor : Nat} (low : first ≤ cursor) (high : cursor ≤ last + 1) :
    scan succ taken first last (last - first + 1) cursor = none ↔
      ∀ number, first ≤ number → number ≤ last → taken number = true := by
  constructor
  · intro scanned number above below
    refine scan_eq_none ordered counts low high scanned above below ?_
    unfold ahead
    split <;> omega
  · intro busy
    cases scanned : scan succ taken first last (last - first + 1) cursor with
    | none => rfl
    | some found =>
      obtain ⟨above, below, free⟩ := scan_eq_some ordered counts low scanned
      rw [busy found above below] at free
      cases free

end Skimasque.Library.Scan
