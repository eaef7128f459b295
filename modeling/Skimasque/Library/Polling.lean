import Mathlib.Data.List.Basic
import Mathlib.Tactic.Common

/-! Loops that poll: when each poll starts and what it asks for, and when no two in a row are alike without time between
them. -/

set_option autoImplicit false

namespace Skimasque.Library.Polling

section
variable {σ ι κ : Type} (step : σ → ι → σ) (sent : σ → κ) (gap : σ → ι → Nat)

/-- The polls of a run, with the time each one starts at: one for each answer, and the one after the last. -/
def polls : σ → Nat → List ι → List (Nat × κ)
  | state, start, [] => [(start, sent state)]
  | state, start, answer :: rest => (start, sent state) :: polls (step state answer) (start + gap state answer) rest

/-- So much time lies between two polls, or the second asks for something else. -/
def Apart (least : Nat) (first second : Nat × κ) : Prop := first.1 + least ≤ second.1 ∨ second.2 ≠ first.2

def Paced (least : Nat) (polls : List (Nat × κ)) : Prop := polls.IsChain (Apart least)

/-- Every answer of the run meets the condition in the state it comes in. -/
def Along (condition : σ → ι → Prop) : σ → List ι → Prop
  | _, [] => True
  | state, answer :: rest => condition state answer ∧ Along condition (step state answer) rest

variable {step sent gap} {least : Nat} {invariant : σ → Prop} {condition : σ → ι → Prop}

theorem polls_first (state : σ) (start : Nat) (answers : List ι) :
    ∃ later, polls step sent gap state start answers = (start, sent state) :: later := by
  cases answers with
  | nil => exact ⟨[], rfl⟩
  | cons answer rest => exact ⟨_, rfl⟩

/-- A run is paced when each of its steps is, and what a step has to be may rest on an invariant. -/
theorem paced_iff (keeps : ∀ state answer, invariant state → invariant (step state answer))
    (exact : ∀ state answer, invariant state →
      (least ≤ gap state answer ∨ sent (step state answer) ≠ sent state ↔ condition state answer))
    {state : σ} (holds : invariant state) (start : Nat) (answers : List ι) :
    Paced least (polls step sent gap state start answers) ↔ Along step condition state answers := by
  induction answers generalizing state start with
  | nil => simp [Paced, polls, Along]
  | cons answer rest ih =>
    have later := ih (keeps state answer holds) (start + gap state answer)
    -- The neighbour of a poll is the first one of the rest of the run.
    obtain ⟨tail, first⟩ := @polls_first _ _ _ step sent gap (step state answer) (start + gap state answer) rest
    rw [first] at later
    unfold Paced at later ⊢
    rw [polls, first, List.isChain_cons_cons, later, Along, ← exact state answer holds]
    simp [Apart]

theorem along_of_forall (always : ∀ state answer, condition state answer) (state : σ) (answers : List ι) :
    Along step condition state answers := by
  induction answers generalizing state with
  | nil => trivial
  | cons answer rest ih => exact ⟨always state answer, ih (step state answer)⟩

end

end Skimasque.Library.Polling
