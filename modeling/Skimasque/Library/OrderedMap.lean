import Mathlib.Data.List.Basic

/-! Maps and sets that are kept in the order of their keys, as lists: a key stands before the first that is not before it.

`before` is the strict order of the keys. A map of sets is filled by one entry after the other.
-/

set_option autoImplicit false

namespace Skimasque.Library.OrderedMap

variable {α β : Type} [DecidableEq α] [DecidableEq β] (before : α → α → Bool) (less : β → β → Bool)

/-- `BTreeSet::insert`. -/
def insert (value : α) : List α → List α
  | [] => [value]
  | first :: rest =>
    if before value first then value :: first :: rest
    else if value = first then first :: rest
    else first :: insert value rest

/-- `entry(key).or_default().insert(value)`. -/
def insertAt (key : α) (value : β) : List (α × List β) → List (α × List β)
  | [] => [(key, [value])]
  | (first, values) :: rest =>
    if before key first then (key, [value]) :: (first, values) :: rest
    else if key = first then (first, insert less value values) :: rest
    else (first, values) :: insertAt key value rest

/-- The value is in the set under the key. -/
def Holds (map : List (α × List β)) (key : α) (value : β) : Prop := ∃ values, (key, values) ∈ map ∧ value ∈ values

variable {before less}

theorem mem_insert {value other : α} {set : List α} : other ∈ insert before value set ↔ other = value ∨ other ∈ set := by
  induction set with
  | nil => simp [insert]
  | cons first rest ih =>
    rw [insert]
    split
    · exact List.mem_cons
    split
    · rename_i same
      rw [same, List.mem_cons]
      tauto
    · rw [List.mem_cons, ih, List.mem_cons]
      tauto

omit [DecidableEq α] [DecidableEq β] in
theorem holds_cons {key : α} {value : β} {entry : α × List β} {map : List (α × List β)} :
    Holds (entry :: map) key value ↔ (key = entry.1 ∧ value ∈ entry.2) ∨ Holds map key value := by
  constructor
  · rintro ⟨values, member, inside⟩
    rcases List.mem_cons.mp member with rfl | later
    · exact .inl ⟨rfl, inside⟩
    · exact .inr ⟨values, later, inside⟩
  · rintro (⟨rfl, inside⟩ | ⟨values, member, inside⟩)
    · exact ⟨entry.2, List.mem_cons_self .., inside⟩
    · exact ⟨values, List.mem_cons_of_mem _ member, inside⟩

theorem holds_insertAt {key other : α} {value found : β} {map : List (α × List β)} :
    Holds (insertAt before less key value map) other found ↔ (other = key ∧ found = value) ∨ Holds map other found := by
  induction map with
  | nil => simp [insertAt, Holds]
  | cons entry rest ih =>
    obtain ⟨first, values⟩ := entry
    rw [insertAt]
    split
    · rw [holds_cons, List.mem_singleton]
    split
    · rename_i same
      subst same
      simp only [holds_cons, mem_insert]
      tauto
    · rw [holds_cons, ih, holds_cons]
      tauto

/-- No set of a map is empty that began without empty ones. -/
theorem insertAt_filled {key : α} {value : β} {map : List (α × List β)} (filled : ∀ entry ∈ map, entry.2 ≠ []) :
    ∀ entry ∈ insertAt before less key value map, entry.2 ≠ [] := by
  induction map with
  | nil =>
    intro entry member
    rw [List.mem_singleton.mp member]
    nofun
  | cons entry rest ih =>
    obtain ⟨first, values⟩ := entry
    rw [List.forall_mem_cons] at filled
    rw [insertAt]
    split
    · exact List.forall_mem_cons.mpr ⟨nofun, List.forall_mem_cons.mpr filled⟩
    split
    · refine List.forall_mem_cons.mpr ⟨?_, filled.2⟩
      exact List.ne_nil_of_mem (mem_insert.mpr (.inl rfl))
    · exact List.forall_mem_cons.mpr ⟨filled.1, ih filled.2⟩

end Skimasque.Library.OrderedMap
