import Mathlib.Data.List.Infix
import Mathlib.Tactic.Common

/-! Where a pattern first stands in a list, and that what follows it does not matter. -/

set_option autoImplicit false

namespace Skimasque.Library.Position

variable {α : Type} [DecidableEq α]

/-- The index of the first window that is the pattern. -/
def position (pattern : List α) : List α → Option Nat
  | [] => if pattern = [] then some 0 else none
  | x :: rest => if pattern.isPrefixOf (x :: rest) then some 0 else (position pattern rest).map (· + 1)

variable {pattern front back : List α} {index : Nat}

theorem position_bound (found : position pattern front = some index) : index + pattern.length ≤ front.length := by
  induction front generalizing index with
  | nil =>
    rw [position] at found
    split at found
    · rename_i nothing
      cases found
      rw [nothing]
      exact Nat.le_refl _
    · cases found
  | cons x rest ih =>
    rw [position] at found
    split at found
    · rename_i here
      cases found
      rw [Nat.zero_add]
      exact (List.isPrefixOf_iff_prefix.mp here).length_le
    · obtain ⟨earlier, inRest, rfl⟩ := Option.map_eq_some_iff.mp found
      have bound := ih inRest
      rw [List.length_cons]
      omega

/-- The first window of a list is the first of every longer one. -/
theorem position_append (found : position pattern front = some index) : position pattern (front ++ back) = some index := by
  induction front generalizing index with
  | nil =>
    rw [position] at found
    split at found
    · rename_i nothing
      cases found
      subst nothing
      cases back with
      | nil => rfl
      | cons x rest => rfl
    · cases found
  | cons x rest ih =>
    rw [position] at found
    rw [List.cons_append, position]
    split at found
    · rename_i here
      have there : pattern <+: x :: (rest ++ back) :=
        (List.isPrefixOf_iff_prefix.mp here).trans (List.prefix_append (x :: rest) back)
      rw [if_pos (List.isPrefixOf_iff_prefix.mpr there)]
      exact found
    · rename_i notHere
      obtain ⟨earlier, inRest, rfl⟩ := Option.map_eq_some_iff.mp found
      have room := position_bound inRest
      -- The window found later ends within the front, so one here would have been seen.
      have notThere : ¬pattern.isPrefixOf (x :: (rest ++ back)) = true := by
        intro there
        apply notHere
        have start := List.isPrefixOf_iff_prefix.mp there
        have fits : pattern.length ≤ (x :: rest).length := by
          rw [List.length_cons]
          omega
        exact List.isPrefixOf_iff_prefix.mpr (List.prefix_of_prefix_length_le start (List.prefix_append (x :: rest) back) fits)
      rw [if_neg notThere, ih inRest]
      rfl

/-- A window that ends within the front is found there already. -/
theorem position_of_append (found : position pattern (front ++ back) = some index)
    (inside : index + pattern.length ≤ front.length) : position pattern front = some index := by
  induction front generalizing index with
  | nil =>
    have nothing : pattern = [] := List.eq_nil_of_length_eq_zero (Nat.le_zero.mp (Nat.le_trans (Nat.le_add_left ..) inside))
    have first : index = 0 := Nat.le_zero.mp (Nat.le_trans (Nat.le_add_right ..) inside)
    rw [first, position, if_pos nothing]
  | cons x rest ih =>
    rw [List.cons_append, position] at found
    rw [position]
    split at found
    · rename_i there
      cases found
      have fits : pattern.length ≤ (x :: rest).length := by simpa using inside
      have here := List.prefix_of_prefix_length_le (List.isPrefixOf_iff_prefix.mp there) (List.prefix_append (x :: rest) back) fits
      rw [if_pos (List.isPrefixOf_iff_prefix.mpr here)]
    · rename_i notThere
      obtain ⟨earlier, inRest, rfl⟩ := Option.map_eq_some_iff.mp found
      have notHere : ¬pattern.isPrefixOf (x :: rest) = true := by
        intro here
        exact notThere (List.isPrefixOf_iff_prefix.mpr
          ((List.isPrefixOf_iff_prefix.mp here).trans (List.prefix_append (x :: rest) back)))
      rw [if_neg notHere, ih inRest (by rw [List.length_cons] at inside; omega)]
      rfl

end Skimasque.Library.Position
