import Mathlib.Data.List.DropRight
import Mathlib.Tactic.Common

/-! Bounded queues: one that makes room at its front, one that refuses what it has no room for. -/

set_option autoImplicit false

namespace Skimasque.Library.Queue

variable {α : Type}

/-- Add at the back; a queue that is full loses its front first. -/
def push (capacity : Nat) (queue : List α) (item : α) : List α :=
  (if queue.length = capacity then queue.drop 1 else queue) ++ [item]

/-- Add at the back where there is room. -/
def trySend (capacity : Nat) (queue : List α) (item : α) : Option (List α) :=
  if queue.length < capacity then some (queue ++ [item]) else none

/-- Send one after the other, up to the first that does not fit. -/
def sendAll (capacity : Nat) (queue : List α) : List α → List α
  | [] => queue
  | item :: rest =>
    match trySend capacity queue item with
    | none => queue
    | some queue => sendAll capacity queue rest

variable {capacity : Nat} {queue : List α}

theorem length_push (room : 0 < capacity) (bounded : queue.length ≤ capacity) (item : α) :
    1 ≤ (push capacity queue item).length ∧ (push capacity queue item).length ≤ capacity := by
  unfold push
  split
  · simp only [List.length_append, List.length_drop, List.length_singleton]
    omega
  · simp only [List.length_append, List.length_singleton]
    omega

theorem push_sublist {items : List α} (sub : queue.Sublist items) (item : α) :
    (push capacity queue item).Sublist (items ++ [item]) := by
  unfold push
  apply List.Sublist.append_right
  split
  · exact (List.drop_sublist 1 queue).trans sub
  · exact sub

theorem rtake_cons {first : α} {items : List α} (long : capacity ≤ items.length) :
    (first :: items).rtake capacity = items.rtake capacity := by
  unfold List.rtake
  have past : (first :: items).length - capacity = (items.length - capacity) + 1 := by
    rw [List.length_cons]
    omega
  rw [past, List.drop_succ_cons]

/-- However many are added, the last ones are there. -/
theorem foldl_push (room : 0 < capacity) (bounded : queue.length ≤ capacity) (items : List α) :
    items.foldl (push capacity) queue = (queue ++ items).rtake capacity := by
  induction items generalizing queue with
  | nil =>
    rw [List.foldl_nil, List.append_nil, List.rtake, Nat.sub_eq_zero_of_le bounded, List.drop_zero]
  | cons item rest ih =>
    rw [List.foldl_cons, ih (length_push room bounded item).2]
    unfold push
    split
    · rename_i full
      cases queue with
      | nil =>
        rw [List.length_nil] at full
        omega
      | cons first queue =>
        rw [List.length_cons] at full
        have long : capacity ≤ (queue ++ item :: rest).length := by
          rw [List.length_append, List.length_cons]
          omega
        rw [List.drop_succ_cons, List.drop_zero, List.append_assoc, List.singleton_append, List.cons_append,
          rtake_cons long]
    · rw [List.append_assoc, List.singleton_append]

theorem sendAll_eq_append {items : List α} (room : (queue ++ items).length ≤ capacity) :
    sendAll capacity queue items = queue ++ items := by
  induction items generalizing queue with
  | nil => rw [List.append_nil, sendAll]
  | cons item rest ih =>
    have fits : queue.length < capacity := by
      simp only [List.length_append, List.length_cons] at room
      omega
    unfold sendAll trySend
    rw [if_pos fits]
    dsimp only
    rw [ih (by simpa using room), List.append_assoc, List.singleton_append]

theorem sendAll_sublist (capacity : Nat) (queue items : List α) :
    (sendAll capacity queue items).Sublist (queue ++ items) := by
  induction items generalizing queue with
  | nil => rw [List.append_nil, sendAll]
  | cons item rest ih =>
    unfold sendAll
    split
    · exact List.sublist_append_left ..
    · rename_i sent
      unfold trySend at sent
      split at sent
      · cases sent
        have later := ih (queue ++ [item])
        rwa [List.append_assoc, List.singleton_append] at later
      · cases sent

end Skimasque.Library.Queue
