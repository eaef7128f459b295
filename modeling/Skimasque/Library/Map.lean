import Mathlib.Data.List.AList

/-! Maps filled by inserting a list of items one after the other. -/

set_option autoImplicit false

namespace Skimasque.Library.Map

variable {α β γ : Type}

/-- `HashMap::retain` by the value. -/
def retain (keep : β → Bool) (map : AList (fun _ : α => β)) : AList (fun _ : α => β) :=
  ⟨map.entries.filter fun entry => keep entry.2, map.nodupKeys.sublist List.filter_sublist⟩

theorem keys_retain_length (keep : β → Bool) (map : AList (fun _ : α => β)) :
    (retain keep map).keys.length ≤ map.keys.length := by
  simpa [AList.keys, List.keys, retain] using List.length_filter_le _ _

variable [DecidableEq α] (key : γ → α) (value : γ → β)

def insertAll (map : AList (fun _ : α => β)) (items : List γ) : AList (fun _ : α => β) :=
  items.foldl (fun map item => map.insert (key item) (value item)) map

theorem lookup_retain (keep : β → Bool) (map : AList (fun _ : α => β)) (a : α) :
    (retain keep map).lookup a = (map.lookup a).filter keep := by
  ext b
  rw [Option.filter_eq_some_iff, ← Option.mem_def, ← Option.mem_def, AList.mem_lookup_iff, AList.mem_lookup_iff]
  simp [retain]

/-- An insertion keeps a map within its bound where there is room or the key is there. -/
theorem keys_insert_length {map : AList (fun _ : α => β)} {a : α} {b : β} {max : Nat}
    (room : map.keys.length < max ∨ a ∈ map) (bounded : map.keys.length ≤ max) :
    (map.insert a b).keys.length ≤ max := by
  rw [AList.keys_insert, List.length_cons, List.length_erase]
  split
  · rename_i present
    have := List.length_pos_of_mem present
    omega
  · rename_i absent
    cases room with
    | inl room => omega
    | inr present => exact absurd (AList.mem_keys.mp present) absent

variable {key value} {items : List γ} {map : AList (fun _ : α => β)} {a : α} {b : β}

theorem insertAll_cons {item : γ} : insertAll key value map (item :: items) =
    insertAll key value (map.insert (key item) (value item)) items := rfl

theorem mem_insertAll : a ∈ insertAll key value map items ↔ a ∈ items.map key ∨ a ∈ map := by
  induction items generalizing map with
  | nil => simp [insertAll]
  | cons item rest ih =>
    rw [insertAll_cons, ih, AList.mem_insert, List.map_cons, List.mem_cons, or_left_comm, or_assoc]

theorem lookup_insertAll_of_notMem (absent : a ∉ items.map key) :
    (insertAll key value map items).lookup a = map.lookup a := by
  induction items generalizing map with
  | nil => rfl
  | cons item rest ih =>
    rw [List.map_cons, List.mem_cons, not_or] at absent
    rw [insertAll_cons, ih absent.2, AList.lookup_insert_ne absent.1]

/-- Items with different keys are all found, each under its key. -/
theorem lookup_insertAll_of_mem {item : γ} (distinct : (items.map key).Nodup) (member : item ∈ items) :
    (insertAll key value map items).lookup (key item) = some (value item) := by
  induction items generalizing map with
  | nil => cases member
  | cons first rest ih =>
    rw [List.map_cons, List.nodup_cons] at distinct
    cases List.mem_cons.mp member with
    | inl same =>
      rw [same, insertAll_cons, lookup_insertAll_of_notMem distinct.1, AList.lookup_insert]
    | inr later => exact ih distinct.2 later

theorem lookup_insertAll_eq_some_iff (distinct : (items.map key).Nodup) :
    (insertAll key value ∅ items).lookup a = some b ↔ ∃ item ∈ items, key item = a ∧ value item = b := by
  by_cases present : a ∈ items.map key
  · obtain ⟨item, member, rfl⟩ := List.mem_map.mp present
    rw [lookup_insertAll_of_mem distinct member]
    constructor
    · intro same
      exact ⟨item, member, rfl, Option.some.inj same⟩
    · intro ⟨other, otherMember, sameKey, sameValue⟩
      rw [← sameValue, List.inj_on_of_nodup_map distinct otherMember member sameKey]
  · rw [lookup_insertAll_of_notMem present]
    constructor
    · intro found
      simp at found
    · intro ⟨item, member, sameKey, _⟩
      exact absurd (List.mem_map.mpr ⟨item, member, sameKey⟩) present

end Skimasque.Library.Map
