import Mathlib.Data.List.Basic
import Mathlib.Tactic.Common

/-! Programs that can be cut short after any of their steps.

The rules of the weakest precondition speak of three things at once: what holds wherever the program may be
cut, what holds where it returns, and what holds where an exception ends it.
-/

set_option autoImplicit false

namespace Skimasque.Library.Interrupted

/-- The states after each step in turn, and how the program ends when it is let. -/
structure Course (σ α : Type) where
  steps : List σ
  /-- Nothing for an exception. -/
  outcome : Option α
  state : σ

abbrev Program (σ α : Type) := σ → Course σ α

variable {σ α β : Type}

instance : Monad (Program σ) where
  pure value := fun s => ⟨[], some value, s⟩
  bind first next := fun s =>
    match (first s).outcome with
    | none => ⟨(first s).steps, none, (first s).state⟩
    | some value =>
      let rest := next value (first s).state
      ⟨(first s).steps ++ rest.steps, rest.outcome, rest.state⟩

/-- Looking takes no step. -/
def look : Program σ σ := fun s => ⟨[], some s, s⟩

/-- One step, whole or not at all. -/
def act (change : σ → σ) : Program σ Unit := fun s => ⟨[change s], some (), change s⟩

def raise : Program σ α := fun s => ⟨[], none, s⟩

/-- An exception runs the handler and then goes on. -/
def cleaningUp (program : Program σ α) (handler : Program σ Unit) : Program σ α := fun s =>
  match (program s).outcome with
  | some _ => program s
  | none => ⟨(program s).steps ++ (handler (program s).state).steps, none, (handler (program s).state).state⟩

def given (condition : Prop) [Decidable condition] (program : Program σ Unit) : Program σ Unit :=
  if condition then program else pure ()

/-- What holds wherever the course may be cut, where it returns, and where an exception ends it. -/
structure Meets (during : σ → Prop) (post : α → σ → Prop) (raised : σ → Prop) (course : Course σ α) : Prop where
  steps : ∀ s ∈ course.steps, during s
  returns : ∀ value, course.outcome = some value → post value course.state
  raises : course.outcome = none → raised course.state

def wp (during : σ → Prop) (post : α → σ → Prop) (raised : σ → Prop) (program : Program σ α) (s : σ) : Prop :=
  Meets during post raised (program s)

variable {during during' : σ → Prop} {post post' : α → σ → Prop} {raised raised' : σ → Prop} {program : Program σ α}
  {s : σ}

theorem meets_returned {value : α} {steps : List σ} : Meets during post raised ⟨steps, some value, s⟩ ↔
    (∀ s ∈ steps, during s) ∧ post value s := by
  constructor
  · intro held
    exact ⟨held.steps, held.returns value rfl⟩
  · intro ⟨cut, now⟩
    refine ⟨cut, ?_, nofun⟩
    intro _ same
    cases same
    exact now

theorem meets_raised {steps : List σ} : Meets during post raised ⟨steps, none, s⟩ ↔
    (∀ s ∈ steps, during s) ∧ raised s := by
  constructor
  · intro held
    exact ⟨held.steps, held.raises rfl⟩
  · intro ⟨cut, now⟩
    exact ⟨cut, nofun, fun _ => now⟩

/-- A course that goes on where another has come to. -/
theorem meets_append {first : List σ} {rest : Course σ α} :
    Meets during post raised ⟨first ++ rest.steps, rest.outcome, rest.state⟩ ↔
      (∀ s ∈ first, during s) ∧ Meets during post raised rest := by
  constructor
  · intro held
    refine ⟨fun s member => held.steps s (List.mem_append_left _ member), ?_⟩
    exact ⟨fun s member => held.steps s (List.mem_append_right _ member), held.returns, held.raises⟩
  · intro ⟨before, after⟩
    refine ⟨fun s member => ?_, after.returns, after.raises⟩
    cases List.mem_append.mp member with
    | inl early => exact before s early
    | inr late => exact after.steps s late

@[simp] theorem wp_pure {value : α} : wp during post raised (pure value) s ↔ post value s := by
  change Meets during post raised ⟨[], some value, s⟩ ↔ _
  simp [meets_returned]

@[simp] theorem wp_look {post : σ → σ → Prop} : wp during post raised look s ↔ post s s := by
  simp [wp, look, meets_returned]

@[simp] theorem wp_act {change : σ → σ} {post : Unit → σ → Prop} :
    wp during post raised (act change) s ↔ during (change s) ∧ post () (change s) := by
  simp [wp, act, meets_returned]

@[simp] theorem wp_raise : wp during post raised raise s ↔ raised s := by
  simp [wp, raise, meets_raised]

@[simp] theorem wp_bind {next : α → Program σ β} {post : β → σ → Prop} :
    wp during post raised (program >>= next) s ↔
      wp during (fun value s' => wp during post raised (next value) s') raised program s := by
  have whole : (program >>= next) s = match (program s).outcome with
    | none => ⟨(program s).steps, none, (program s).state⟩
    | some value => ⟨(program s).steps ++ (next value (program s).state).steps,
      (next value (program s).state).outcome, (next value (program s).state).state⟩ := rfl
  unfold wp
  rw [whole]
  cases program s with
  | mk steps outcome state =>
    cases outcome with
    | none => rw [meets_raised, meets_raised]
    | some value => rw [meets_append, meets_returned]

@[simp] theorem wp_cleaningUp {handler : Program σ Unit} :
    wp during post raised (cleaningUp program handler) s ↔
      wp during post (wp during (fun _ => raised) raised handler) program s := by
  unfold wp cleaningUp
  cases program s with
  | mk steps outcome state =>
    cases outcome with
    | none =>
      rw [meets_raised, meets_raised]
      dsimp only
      constructor
      · intro ⟨cut, now⟩
        refine ⟨fun s member => cut s (List.mem_append_left _ member), ?_⟩
        exact ⟨fun s member => cut s (List.mem_append_right _ member), fun _ _ => now, fun _ => now⟩
      · intro ⟨before, after⟩
        refine ⟨fun s member => ?_, ?_⟩
        · cases List.mem_append.mp member with
          | inl early => exact before s early
          | inr late => exact after.steps s late
        · cases ended : (handler state).outcome with
          | none => exact after.raises ended
          | some _ => exact after.returns _ ended
    | some value => rw [meets_returned, meets_returned]

@[simp] theorem wp_ite {condition : Prop} [Decidable condition] {first second : Program σ α} :
    wp during post raised (if condition then first else second) s ↔
      (condition → wp during post raised first s) ∧ (¬ condition → wp during post raised second s) := by
  by_cases holds : condition
  · simp [holds]
  · simp [holds]

@[simp] theorem wp_given {condition : Prop} [Decidable condition] {program : Program σ Unit} {post : Unit → σ → Prop} :
    wp during post raised (given condition program) s ↔
      (condition → wp during post raised program s) ∧ (¬ condition → post () s) := by
  rw [given, wp_ite, wp_pure]

theorem wp_mono (held : wp during post raised program s) (cut : ∀ s, during s → during' s)
    (returned : ∀ value s, post value s → post' value s) (threw : ∀ s, raised s → raised' s) :
    wp during' post' raised' program s where
  steps s' member := cut s' (held.steps s' member)
  returns value same := returned value _ (held.returns value same)
  raises ended := threw _ (held.raises ended)

theorem wp_trivial : wp (fun _ => True) (fun _ _ => True) (fun _ => True) program s :=
  ⟨fun _ _ => trivial, fun _ _ => trivial, fun _ => trivial⟩

end Skimasque.Library.Interrupted
