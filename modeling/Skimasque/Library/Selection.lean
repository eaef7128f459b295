import Mathlib.Data.List.Basic
import Mathlib.Tactic.Common

/-! Choosing the greatest element of a list by a numeric key.

`maxBy?` is the loop of `Iterator::max_by_key`, which keeps the last of several
greatest elements. Pairing a key with the reversed position turns that into the
first greatest element, which `FirstMaximum` states without positions.
-/

set_option autoImplicit false

namespace Skimasque.Library.Selection

variable {α : Type}

def maxBy? (le : α → α → Bool) : List α → Option α
  | [] => none
  | first :: rest => some (rest.foldl (fun best next => if le best next then next else best) first)

theorem foldl_mem (le : α → α → Bool) (rest : List α) (first : α) :
    rest.foldl (fun best next => if le best next then next else best) first ∈ first :: rest := by
  induction rest generalizing first with
  | nil => exact List.mem_singleton.mpr rfl
  | cons next rest ih =>
    rw [List.foldl_cons]
    split
    · exact List.mem_cons_of_mem _ (ih next)
    · rcases List.mem_cons.mp (ih first) with same | later
      · exact List.mem_cons.mpr (.inl same)
      · exact List.mem_cons_of_mem _ (List.mem_cons_of_mem _ later)

theorem maxBy?_mem {le : α → α → Bool} {items : List α} {m : α} (chosen : maxBy? le items = some m) : m ∈ items := by
  cases items with
  | nil => cases chosen
  | cons first rest =>
    cases chosen
    exact foldl_mem le rest first

/-- The order of the pair `(key, Reverse(position))`. -/
def keyThenEarlier (key : α → Nat) (left right : α × Nat) : Bool :=
  decide (key left.1 < key right.1 ∨ (key left.1 = key right.1 ∧ right.2 ≤ left.2))

/-- `m` is greatest by `key`, and nothing before it is as great. -/
def FirstMaximum (key : α → Nat) (items : List α) (m : α) : Prop :=
  ∃ before after, items = before ++ m :: after ∧
    (∀ x ∈ before, key x < key m) ∧ ∀ x ∈ after, key x ≤ key m

variable {key : α → Nat} {items : List α} {m : α}

theorem FirstMaximum.mem (first : FirstMaximum key items m) : m ∈ items := by
  obtain ⟨before, after, rfl, -, -⟩ := first
  simp

theorem FirstMaximum.le (first : FirstMaximum key items m) {x : α} (member : x ∈ items) :
    key x ≤ key m := by
  obtain ⟨before, after, rfl, less, atMost⟩ := first
  simp only [List.mem_append, List.mem_cons] at member
  obtain earlier | rfl | later := member
  · exact Nat.le_of_lt (less x earlier)
  · exact Nat.le_refl _
  · exact atMost x later

theorem FirstMaximum.unique {m' : α} (first : FirstMaximum key items m)
    (other : FirstMaximum key items m') :
    m = m' := by
  have sameKey : key m = key m' := Nat.le_antisymm (other.le first.mem) (first.le other.mem)
  obtain ⟨before, after, rfl, less, -⟩ := first
  obtain ⟨before', after', same, less', -⟩ := other
  -- Whichever split is the shorter one, its head lies in the other's prefix unless the two agree.
  rcases List.append_eq_append_iff.mp same with ⟨middle, rfl, tail⟩ | ⟨middle, rfl, tail⟩
  · cases middle with
    | nil => simpa using congrArg List.head? tail
    | cons head rest =>
      obtain ⟨rfl, -⟩ := List.cons.inj tail
      have := less' m (by simp)
      omega
  · cases middle with
    | nil => simpa using (congrArg List.head? tail).symm
    | cons head rest =>
      obtain ⟨rfl, -⟩ := List.cons.inj tail
      have := less m' (by simp)
      omega

theorem foldl_firstMaximum (key : α → Nat) (rest : List α) (best : α) (position next : Nat)
    (earlier : position < next) :
    FirstMaximum key (best :: rest)
      ((rest.zipIdx next).foldl
        (fun best next => if keyThenEarlier key best next then next else best) (best, position)).1 := by
  induction rest generalizing best position next with
  | nil => exact ⟨[], [], rfl, by simp, by simp⟩
  | cons head rest ih =>
    simp only [List.zipIdx_cons, List.foldl_cons]
    -- The head replaces the best only when it is strictly greater: on a tie the earlier position wins.
    by_cases greater : key best < key head
    · rw [if_pos (by simp [keyThenEarlier, greater])]
      obtain ⟨before, after, split, less, atMost⟩ := ih head next (next + 1) (by omega)
      have reached := FirstMaximum.le ⟨before, after, split, less, atMost⟩ (List.mem_cons_self ..)
      refine ⟨best :: before, after, by rw [split, List.cons_append], ?_, atMost⟩
      intro x member
      rcases List.mem_cons.mp member with rfl | member
      · omega
      · exact less x member
    · rw [if_neg (by simp only [keyThenEarlier, decide_eq_true_eq]; omega)]
      obtain ⟨before, after, split, less, atMost⟩ := ih best position (next + 1) (by omega)
      generalize List.foldl _ _ _ = final at split less atMost ⊢
      cases before with
      | nil =>
        obtain ⟨rfl, rfl⟩ := List.cons.inj split
        refine ⟨[], head :: rest, rfl, by simp, ?_⟩
        intro x member
        rcases List.mem_cons.mp member with rfl | member
        · omega
        · exact atMost x member
      | cons first before =>
        obtain ⟨rfl, rfl⟩ := List.cons.inj split
        have := less best (by simp)
        refine ⟨best :: head :: before, after, rfl, ?_, atMost⟩
        intro x member
        simp only [List.mem_cons] at member
        rcases member with rfl | rfl | member
        · omega
        · omega
        · exact less x (by simp [member])

theorem maxBy?_eq_some_iff :
    (maxBy? (keyThenEarlier key) items.zipIdx).map Prod.fst = some m ↔ FirstMaximum key items m := by
  cases items with
  | nil =>
    simp only [List.zipIdx_nil, maxBy?, Option.map_none, reduceCtorEq, false_iff]
    rintro ⟨before, after, split, -⟩
    simp at split
  | cons head rest =>
    have first := foldl_firstMaximum key rest head 0 1 Nat.one_pos
    simp only [List.zipIdx_cons, maxBy?, Option.map_some, Option.some.injEq, Nat.zero_add]
    constructor
    · rintro rfl
      exact first
    · exact first.unique

theorem maxBy?_eq_none_iff :
    (maxBy? (keyThenEarlier key) items.zipIdx).map Prod.fst = none ↔ items = [] := by
  cases items <;> simp [maxBy?]

/-- The first maximum of a filtered list, as a split of the list it was filtered from. -/
theorem firstMaximum_filter_iff {keep : α → Bool} :
    FirstMaximum key (items.filter keep) m ↔
      keep m = true ∧ ∃ before after, items = before ++ m :: after ∧
        (∀ x ∈ before, keep x = true → key x < key m) ∧ ∀ x ∈ after, keep x = true → key x ≤ key m := by
  constructor
  · rintro ⟨before, after, split, less, atMost⟩
    obtain ⟨front, back, rfl, rfl, filtered⟩ := List.filter_eq_append_iff.mp split
    obtain ⟨skipped, rest, rfl, dropped, kept, rfl⟩ := List.filter_eq_cons_iff.mp filtered
    refine ⟨kept, front ++ skipped, rest, by simp, ?_, ?_⟩
    · intro x member test
      rcases List.mem_append.mp member with member | member
      · exact less x (List.mem_filter.mpr ⟨member, test⟩)
      · exact absurd test (dropped x member)
    · intro x member test
      exact atMost x (List.mem_filter.mpr ⟨member, test⟩)
  · rintro ⟨kept, before, after, rfl, less, atMost⟩
    refine ⟨before.filter keep, after.filter keep, by simp [kept], ?_, ?_⟩
    · intro x member
      exact less x (List.mem_filter.mp member).1 (List.mem_filter.mp member).2
    · intro x member
      exact atMost x (List.mem_filter.mp member).1 (List.mem_filter.mp member).2

end Skimasque.Library.Selection
