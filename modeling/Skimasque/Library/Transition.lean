import Mathlib.Data.List.Basic
import Mathlib.Tactic.Common

/-! Runs of a partial step function, and invariants over them. -/

set_option autoImplicit false

namespace Skimasque.Library.Transition

variable {σ ε : Type} (step : σ → ε → Option σ)

/-- The state after the events, when every one of them can happen in its turn. -/
def run (s : σ) (events : List ε) : Option σ := events.foldlM step s

@[simp] theorem run_nil (s : σ) : run step s [] = some s := rfl

theorem run_cons (s : σ) (event : ε) (rest : List ε) :
    run step s (event :: rest) = (step s event).bind (run step · rest) := by
  simp [run]

theorem run_append (s : σ) (first second : List ε) :
    run step s (first ++ second) = (run step s first).bind (run step · second) := by
  simp [run]

variable {step}

theorem run_append_some {s s' : σ} {first second : List ε} :
    run step s (first ++ second) = some s' ↔ ∃ middle, run step s first = some middle ∧
      run step middle second = some s' := by
  rw [run_append, Option.bind_eq_some_iff]

theorem run_cons_some {s s' : σ} {event : ε} {rest : List ε} :
    run step s (event :: rest) = some s' ↔ ∃ middle, step s event = some middle ∧
      run step middle rest = some s' := by
  rw [run_cons, Option.bind_eq_some_iff]

theorem run_invariant (invariant : σ → Prop)
    (preserves : ∀ s event s', invariant s → step s event = some s' → invariant s')
    {s s' : σ} {events : List ε} (initial : invariant s) (ran : run step s events = some s') :
    invariant s' := by
  induction events generalizing s with
  | nil =>
    cases ran
    exact initial
  | cons event rest ih =>
    obtain ⟨middle, stepped, later⟩ := run_cons_some.mp ran
    exact ih (preserves s event middle initial stepped) later

/-- Every event of the run meets the condition in the state it happens in. -/
def Along (step : σ → ε → Option σ) (condition : σ → ε → Prop) : σ → List ε → Prop
  | _, [] => True
  | s, event :: rest => condition s event ∧ ∀ s', step s event = some s' → Along step condition s' rest

theorem along_of_forall {condition : σ → ε → Prop} {events : List ε} (always : ∀ s, ∀ event ∈ events, condition s event)
    (s : σ) : Along step condition s events := by
  induction events generalizing s with
  | nil => trivial
  | cons event rest ih =>
    refine ⟨always s event (List.mem_cons_self ..), fun s' _ => ih ?_ s'⟩
    exact fun s event member => always s event (List.mem_cons_of_mem _ member)

/-- What holds along a run holds along its first part and along what comes after it. -/
theorem along_append {condition : σ → ε → Prop} {s middle : σ} {first second : List ε}
    (meets : Along step condition s (first ++ second)) (ran : run step s first = some middle) :
    Along step condition s first ∧ Along step condition middle second := by
  induction first generalizing s with
  | nil =>
    cases ran
    exact ⟨trivial, meets⟩
  | cons event rest ih =>
    obtain ⟨after, stepped, later⟩ := run_cons_some.mp ran
    have both := ih (meets.2 after stepped) later
    constructor
    · refine ⟨meets.1, fun s' again => ?_⟩
      rw [stepped] at again
      cases again
      exact both.1
    · exact both.2

theorem run_invariant_along {condition : σ → ε → Prop} (invariant : σ → Prop)
    (preserves : ∀ s event s', invariant s → condition s event → step s event = some s' → invariant s')
    {s s' : σ} {events : List ε} (initial : invariant s) (meets : Along step condition s events)
    (ran : run step s events = some s') : invariant s' := by
  induction events generalizing s with
  | nil =>
    cases ran
    exact initial
  | cons event rest ih =>
    obtain ⟨middle, stepped, later⟩ := run_cons_some.mp ran
    exact ih (preserves s event middle initial meets.1 stepped) (meets.2 middle stepped) later

end Skimasque.Library.Transition
