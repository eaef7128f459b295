import Mathlib.Data.List.Basic
import Mathlib.Tactic.Common

/-! Programs that log what they do and may fail.

A weakest precondition speaks of the whole log, what was there before included; a log is guarded when each of
its actions is justified by the actions before it.
-/

set_option autoImplicit false

namespace Skimasque.Library.Effects

structure Logged (α ε β : Type) where
  log : List α
  outcome : Except ε β

variable {α ε β γ : Type}

/-- What comes after a program that has logged and ended. -/
def Logged.after (log : List α) (rest : Logged α ε β) : Logged α ε β := ⟨log ++ rest.log, rest.outcome⟩

instance : Monad (Logged α ε) where
  pure value := ⟨[], .ok value⟩
  bind first next :=
    match first.outcome with
    | .error error => ⟨first.log, .error error⟩
    | .ok value => .after first.log (next value)

def emit (action : α) : Logged α ε Unit := ⟨[action], .ok ()⟩

def fail (error : ε) : Logged α ε β := ⟨[], .error error⟩

def ofExcept : Except ε β → Logged α ε β
  | .ok value => pure value
  | .error error => fail error

def given (condition : Prop) [Decidable condition] (program : Logged α ε Unit) : Logged α ε Unit :=
  if condition then program else pure ()

/-- Go on after a failure, with what failed. -/
def attempt (program : Logged α ε β) : Logged α ε (Except ε β) := ⟨program.log, .ok program.outcome⟩

/-- A failure runs the handler and then goes on. -/
def onFailure (program : Logged α ε β) (handler : Logged α ε Unit) : Logged α ε β :=
  match program.outcome with
  | .ok _ => program
  | .error error => ⟨program.log ++ handler.log, .error error⟩

/-- What holds of the value or the failure, and of all that is logged by then. -/
def wp (post : β → List α → Prop) (failed : ε → List α → Prop) (program : Logged α ε β) (before : List α) : Prop :=
  match program.outcome with
  | .ok value => post value (before ++ program.log)
  | .error error => failed error (before ++ program.log)

variable {post post' : β → List α → Prop} {failed failed' : ε → List α → Prop} {program : Logged α ε β}
  {before : List α}

@[simp] theorem wp_pure {value : β} : wp post failed (pure value : Logged α ε β) before ↔ post value before := by
  change post value (before ++ []) ↔ _
  rw [List.append_nil]

@[simp] theorem wp_bind {next : β → Logged α ε γ} {post : γ → List α → Prop} :
    wp post failed (program >>= next) before ↔
      wp (fun value log => wp post failed (next value) log) failed program before := by
  have whole : program >>= next = match program.outcome with
    | .error error => ⟨program.log, .error error⟩
    | .ok value => .after program.log (next value) := rfl
  rw [whole]
  unfold wp
  cases program with
  | mk log outcome =>
    cases outcome with
    | error error => rfl
    | ok value => simp only [Logged.after, List.append_assoc]

@[simp] theorem wp_map {change : β → γ} {post : γ → List α → Prop} :
    wp post failed (change <$> program) before ↔ wp (fun value => post (change value)) failed program before := by
  change wp post failed (program >>= fun value => pure (change value)) before ↔ _
  simp only [wp_bind, wp_pure]

@[simp] theorem wp_ite {condition : Prop} [Decidable condition] {first second : Logged α ε β} :
    wp post failed (if condition then first else second) before ↔
      (condition → wp post failed first before) ∧ (¬ condition → wp post failed second before) := by
  by_cases holds : condition
  · simp [holds]
  · simp [holds]

@[simp] theorem wp_given {condition : Prop} [Decidable condition] {program : Logged α ε Unit}
    {post : Unit → List α → Prop} : wp post failed (given condition program) before ↔
      (condition → wp post failed program before) ∧ (¬ condition → post () before) := by
  rw [given, wp_ite, wp_pure]

theorem wp_mono (held : wp post failed program before) (returned : ∀ value log, post value log → post' value log)
    (gaveUp : ∀ error log, failed error log → failed' error log) : wp post' failed' program before := by
  unfold wp at held ⊢
  cases outcome : program.outcome with
  | ok value =>
    rw [outcome] at held
    exact returned value _ held
  | error error =>
    rw [outcome] at held
    exact gaveUp error _ held

/-- All that a program can log and fail with. -/
structure Emits (allowed : α → Prop) (refused : ε → Prop) (program : Logged α ε β) : Prop where
  logs : ∀ action ∈ program.log, allowed action
  fails : ∀ error, program.outcome = .error error → refused error

variable {allowed : α → Prop} {refused : ε → Prop}

theorem emits_pure {value : β} : Emits allowed refused (pure value : Logged α ε β) := ⟨nofun, nofun⟩

theorem emits_emit {action : α} (fine : allowed action) : Emits allowed refused (emit action : Logged α ε Unit) := by
  refine ⟨?_, nofun⟩
  intro found member
  rw [List.mem_singleton.mp member]
  exact fine

theorem emits_bind {next : β → Logged α ε γ} (first : Emits allowed refused program)
    (rest : ∀ value, Emits allowed refused (next value)) : Emits allowed refused (program >>= next) := by
  cases program with
  | mk log outcome =>
    cases outcome with
    | error error =>
      refine ⟨first.logs, ?_⟩
      intro other same
      cases same
      exact first.fails error rfl
    | ok value =>
      refine ⟨?_, (rest value).fails⟩
      intro action member
      cases List.mem_append.mp member with
      | inl early => exact first.logs action early
      | inr late => exact (rest value).logs action late

theorem emits_ite {condition : Prop} [Decidable condition] {first second : Logged α ε β}
    (left : Emits allowed refused first) (right : Emits allowed refused second) :
    Emits allowed refused (if condition then first else second) := by
  split
  · exact left
  · exact right

theorem emits_given {condition : Prop} [Decidable condition] {program : Logged α ε Unit}
    (emits : Emits allowed refused program) : Emits allowed refused (given condition program) := emits_ite emits emits_pure

/-- Each action is justified by the actions before it. -/
def Guarded (justified : List α → α → Prop) (log : List α) : Prop :=
  ∀ before action later, log = before ++ action :: later → justified before action

variable {justified : List α → α → Prop}

theorem guarded_nil : Guarded justified [] := by
  intro before action later split
  cases before <;> cases split

theorem guarded_snoc {log : List α} {action : α} (front : Guarded justified log) (last : justified log action) :
    Guarded justified (log ++ [action]) := by
  intro before found later split
  rcases List.append_eq_append_iff.mp split with ⟨middle, rfl, tail⟩ | ⟨middle, rfl, tail⟩
  · cases middle with
    | nil =>
      cases tail
      rwa [List.append_nil]
    | cons first rest => cases (List.append_eq_nil_iff.mp (List.cons.inj tail).2.symm).2
  · cases middle with
    | nil =>
      cases tail
      rw [List.append_nil] at last
      exact last
    | cons first rest =>
      cases tail
      exact front before _ rest rfl

end Skimasque.Library.Effects
