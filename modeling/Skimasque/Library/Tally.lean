import Mathlib.Algebra.BigOperators.Group.List.Basic
import Mathlib.Algebra.Ring.Nat
import Mathlib.Tactic.Common

/-! What the items of a list come to together, and how that changes with one of them. -/

set_option autoImplicit false

namespace Skimasque.Library.Tally

variable {α : Type} (weight : α → Nat)

def tally (items : List α) : Nat := (items.map weight).sum

variable {weight} {items : List α} {item other : α} {index : Nat}

@[simp] theorem tally_nil : tally weight [] = 0 := rfl

@[simp] theorem tally_cons : tally weight (item :: items) = weight item + tally weight items := by
  simp [tally]

@[simp] theorem tally_append (more : List α) : tally weight (items ++ more) = tally weight items + tally weight more := by
  simp [tally]

theorem tally_set (there : items[index]? = some item) :
    tally weight (items.set index other) + weight item = tally weight items + weight other := by
  induction items generalizing index with
  | nil => simp at there
  | cons first rest ih =>
    cases index with
    | zero =>
      cases there
      simp only [List.set_cons_zero, tally_cons]
      omega
    | succ index =>
      have := ih there
      simp only [List.set_cons_succ, tally_cons]
      omega

theorem tally_eraseIdx (there : items[index]? = some item) :
    tally weight (items.eraseIdx index) + weight item = tally weight items := by
  induction items generalizing index with
  | nil => simp at there
  | cons first rest ih =>
    cases index with
    | zero =>
      cases there
      simp only [List.eraseIdx_cons_zero, tally_cons]
      omega
    | succ index =>
      have := ih there
      simp only [List.eraseIdx_cons_succ, tally_cons]
      omega

theorem weight_le_tally (there : items[index]? = some item) : weight item ≤ tally weight items := by
  have total : tally weight (items.eraseIdx index) + weight item = tally weight items := tally_eraseIdx there
  omega

/-- What is left out counted for nothing. -/
theorem tally_filter {keep : α → Bool} (nothing : ∀ item ∈ items, keep item = false → weight item = 0) :
    tally weight (items.filter keep) = tally weight items := by
  induction items with
  | nil => rfl
  | cons first rest ih =>
    have later := ih fun item member => nothing item (List.mem_cons_of_mem _ member)
    cases kept : keep first with
    | true => rw [List.filter_cons_of_pos kept, tally_cons, tally_cons, later]
    | false =>
      rw [List.filter_cons_of_neg (by simp [kept]), tally_cons, nothing first (List.mem_cons_self ..) kept, later, Nat.zero_add]

theorem tally_le_length (one : ∀ item ∈ items, weight item ≤ 1) : tally weight items ≤ items.length := by
  induction items with
  | nil => exact Nat.le_refl 0
  | cons first rest ih =>
    have := one first (List.mem_cons_self ..)
    have := ih fun item member => one item (List.mem_cons_of_mem _ member)
    rw [tally_cons, List.length_cons]
    omega

end Skimasque.Library.Tally
