import Mathlib.Data.List.Forall2
import Mathlib.Tactic.Common

/-! Taking fallible computations apart. -/

set_option autoImplicit false

namespace Skimasque.Library.Result

variable {ε α β : Type}

theorem bind_eq_ok_iff {x : Except ε α} {f : α → Except ε β} {b : β} :
    (x >>= f) = .ok b ↔ ∃ a, x = .ok a ∧ f a = .ok b := by
  cases x with
  | error e => simp [bind, Except.bind]
  | ok a => simp [bind, Except.bind]

theorem ok_bind (a : α) (f : α → Except ε β) : (Except.ok a >>= f) = f a := rfl

theorem map_eq_ok_iff {x : Except ε α} {f : α → β} {b : β} :
    x.map f = .ok b ↔ ∃ a, x = .ok a ∧ f a = b := by
  cases x with
  | error e => simp [Except.map]
  | ok a => simp [Except.map]

theorem toOption_eq_some_iff {x : Except ε α} {a : α} : x.toOption = some a ↔ x = .ok a := by
  cases x with
  | error e => simp [Except.toOption]
  | ok b => simp [Except.toOption]

theorem mapM_eq_ok_iff {f : α → Except ε β} {items : List α} {results : List β} :
    items.mapM f = .ok results ↔ List.Forall₂ (fun item result => f item = .ok result) items results := by
  induction items generalizing results with
  | nil => simp [pure, Except.pure, eq_comm]
  | cons item items ih =>
    simp only [List.mapM_cons, bind_eq_ok_iff, ih, pure, Except.pure, Except.ok.injEq, List.forall₂_cons_left_iff]
    constructor
    · rintro ⟨first, got, rest, gotRest, rfl⟩
      exact ⟨first, rest, got, gotRest, rfl⟩
    · rintro ⟨first, rest, got, gotRest, rfl⟩
      exact ⟨first, got, rest, gotRest, rfl⟩

/-- Every result has something it is the result of. -/
theorem exists_of_forall₂ {related : α → β → Prop} {items : List α} {results : List β}
    (all : List.Forall₂ related items results) {result : β} (member : result ∈ results) : ∃ item, related item result := by
  induction all with
  | nil => cases member
  | cons here _ ih =>
    cases member with
    | head => exact ⟨_, here⟩
    | tail _ later => exact ih later

/-- Where nothing fails, nothing is left out. -/
theorem mapM_eq_some_filterMap {f : α → Option β} {items : List α} (all : ∀ item ∈ items, (f item).isSome = true) :
    items.mapM f = some (items.filterMap f) := by
  induction items with
  | nil => rfl
  | cons item items ih =>
    obtain ⟨result, found⟩ := Option.isSome_iff_exists.mp (all item (List.mem_cons_self ..))
    have rest := ih fun other member => all other (List.mem_cons_of_mem _ member)
    simp [List.mapM_cons, found, rest]

end Skimasque.Library.Result
