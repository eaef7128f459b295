import Mathlib.Data.List.Basic
import Mathlib.Tactic.Common

/-! Histories that only grow, and what is true of all they grow by. -/

set_option autoImplicit false

namespace Skimasque.Library.History

variable {α : Type}

/-- The second history is the first and then entries with a property. -/
def Continues (property : α → Prop) (before after : List α) : Prop :=
  ∃ new, after = before ++ new ∧ ∀ entry ∈ new, property entry

namespace Continues

variable {property weaker : α → Prop} {first second third : List α}

theorem refl (history : List α) : Continues property history history :=
  ⟨[], (List.append_nil history).symm, List.forall_mem_nil property⟩

theorem snoc {entry : α} (history : List α) (holds : property entry) :
    Continues property history (history ++ [entry]) :=
  ⟨[entry], rfl, List.forall_mem_singleton.mpr holds⟩

theorem trans (early : Continues property first second) (late : Continues property second third) :
    Continues property first third := by
  obtain ⟨new, rfl, news⟩ := early
  obtain ⟨newer, rfl, newers⟩ := late
  exact ⟨new ++ newer, List.append_assoc .., List.forall_mem_append.mpr ⟨news, newers⟩⟩

theorem mono (implies : ∀ entry, property entry → weaker entry)
    (continues : Continues property first second) :
    Continues weaker first second := by
  obtain ⟨new, grown, news⟩ := continues
  exact ⟨new, grown, fun entry member => implies entry (news entry member)⟩

theorem mem {entry : α} (continues : Continues property first second) (member : entry ∈ first) :
    entry ∈ second := by
  obtain ⟨new, rfl, -⟩ := continues
  exact List.mem_append_left new member

theorem head {entry : α} (continues : Continues property first second)
    (starts : first.head? = some entry) :
    second.head? = some entry := by
  obtain ⟨new, rfl, -⟩ := continues
  rw [List.head?_append, starts]
  rfl

/-- What was true of the whole history stays true of it. -/
theorem forall_mem (continues : Continues property first second)
    (before : ∀ entry ∈ first, property entry) :
    ∀ entry ∈ second, property entry := by
  obtain ⟨new, rfl, news⟩ := continues
  exact List.forall_mem_append.mpr ⟨before, news⟩

end Continues

end Skimasque.Library.History
