import Mathlib.Algebra.Order.Ring.Defs
import Mathlib.Tactic.Linarith
import Mathlib.Tactic.Ring
import Skimasque.Library.Transition

/-! Token buckets that are refilled when they are looked at, and what can be spent from a level that
grows no faster than a rate. -/

set_option autoImplicit false

namespace Skimasque.Library.Refill

variable {R : Type} [CommRing R] [LinearOrder R]

/-- The tokens at `now` of a bucket that held `tokens` at `last`. -/
def level (capacity rate tokens last now : R) : R := min (tokens + max (now - last) 0 * rate) capacity

section level

variable {capacity rate tokens last now later : R}

theorem level_le_capacity : level capacity rate tokens last now ≤ capacity := min_le_right _ _

theorem level_self (bounded : tokens ≤ capacity) : level capacity rate tokens now now = tokens := by
  simp [level, bounded]

theorem level_self_le : level capacity rate tokens now now ≤ tokens := by
  simp [level]

variable [IsStrictOrderedRing R]

theorem level_nonneg (growing : 0 ≤ rate) (filled : 0 ≤ tokens) (room : 0 ≤ capacity) :
    0 ≤ level capacity rate tokens last now := by
  have gained : 0 ≤ max (now - last) 0 * rate := mul_nonneg (le_max_right _ _) growing
  exact le_min (by linarith) room

/-- A level grows no faster than its rate. -/
theorem level_growth (growing : 0 ≤ rate) (after : now ≤ later) :
    level capacity rate tokens last later ≤ level capacity rate tokens last now + (later - now) * rate := by
  have elapsed : max (later - last) 0 ≤ max (now - last) 0 + (later - now) := by
    apply max_le
    · linarith [le_max_left (now - last) 0]
    · linarith [le_max_right (now - last) 0]
  have gained := mul_le_mul_of_nonneg_right elapsed growing
  have waited : 0 ≤ (later - now) * rate := mul_nonneg (by linarith) growing
  rw [add_mul] at gained
  unfold level
  rw [← min_add_add_right]
  apply min_le_min
  · linarith
  · linarith

/-- A full bucket stays full. -/
theorem level_full (growing : 0 ≤ rate) (full : capacity ≤ tokens + max (now - last) 0 * rate) (after : now ≤ later) :
    level capacity rate tokens last later = capacity := by
  have elapsed : max (now - last) 0 ≤ max (later - last) 0 := max_le_max (by linarith) (le_refl 0)
  have gained := mul_le_mul_of_nonneg_right elapsed growing
  exact min_eq_right (by linarith)

end level

/-! ## Spending -/

variable {σ ε : Type} (step : σ → ε → Option σ) (time : ε → R)

/-- The events come one after the other between two times. -/
def Timed : R → List ε → R → Prop
  | start, [], finish => start ≤ finish
  | start, event :: rest, finish => start ≤ time event ∧ Timed (time event) rest finish

/-- What the events of a run spend together. -/
def total (spent : σ → ε → R) : σ → List ε → R
  | _, [] => 0
  | s, event :: rest =>
    match step s event with
    | some s' => spent s event + total spent s' rest
    | none => 0

/-- Spending is paid for from a level that grows with time, at most at a rate. -/
structure Accounts (invariant : σ → Prop) (condition : σ → ε → Prop) (spent : σ → ε → R) (held : σ → R → R) (rate : R) :
    Prop where
  keeps : ∀ s event s', invariant s → condition s event → step s event = some s' → invariant s'
  growth : ∀ s now later, invariant s → now ≤ later → held s later ≤ held s now + (later - now) * rate
  pays : ∀ s event s', invariant s → condition s event → step s event = some s' →
    spent s event + held s' (time event) ≤ held s (time event)

variable [IsStrictOrderedRing R] {step time} {invariant : σ → Prop} {condition : σ → ε → Prop} {spent : σ → ε → R}
  {held : σ → R → R} {rate : R}

/-- A run spends what was held at its start and what came in until its end, less what is left. -/
theorem Accounts.total_le (accounts : Accounts step time invariant condition spent held rate) {s s' : σ}
    {events : List ε} {start finish : R} (initial : invariant s) (timed : Timed time start events finish)
    (meets : Transition.Along step condition s events) (ran : Transition.run step s events = some s') :
    total step spent s events + held s' finish ≤ held s start + (finish - start) * rate := by
  induction events generalizing s start with
  | nil =>
    cases ran
    rw [total, zero_add]
    exact accounts.growth _ start finish initial timed
  | cons event rest ih =>
    obtain ⟨middle, stepped, later⟩ := Transition.run_cons_some.mp ran
    have kept := accounts.keeps s event middle initial meets.1 stepped
    have onward := ih kept timed.2 (meets.2 middle stepped) later
    have paid := accounts.pays s event middle initial meets.1 stepped
    have grown := accounts.growth s start (time event) initial timed.1
    rw [total, stepped]
    dsimp only
    have pieces : (finish - start) * rate = (finish - time event) * rate + (time event - start) * rate := by ring
    linarith

end Skimasque.Library.Refill
