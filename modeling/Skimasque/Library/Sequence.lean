import Skimasque.Library.Result

/-! Entries written one after the other with no count in front, and read until the input is empty. -/

set_option autoImplicit false

namespace Skimasque.Library.Sequence

variable {α β ε δ : Type}

/-- Read entries while any input is left; what is returned beside them is what was not read. -/
def readAll (read : List β → Except ε (α × List β))
    (shrinks : ∀ {input rest : List β} {entry : α}, read input = .ok (entry, rest) → rest.length < input.length) :
    List β → Except ε (List α × List β)
  | [] => .ok ([], [])
  | symbol :: more =>
    match taken : read (symbol :: more) with
    | .error error => .error error
    | .ok (entry, rest) =>
      have := shrinks taken
      do
        let (entries, left) ← readAll read shrinks rest
        return (entry :: entries, left)
termination_by input => input.length
decreasing_by exact this

/-- The input is the readings of these entries, with nothing before, between or after them. -/
inductive Entries (read : List β → Except ε (α × List β)) : List β → List α → Prop where
  | nil : Entries read [] []
  | cons {input rest : List β} {entry : α} {entries : List α} (here : read input = .ok (entry, rest))
      (later : Entries read rest entries) : Entries read input (entry :: entries)

section reading

variable {read : List β → Except ε (α × List β)}
  {shrinks : ∀ {input rest : List β} {entry : α}, read input = .ok (entry, rest) → rest.length < input.length}

/-- One turn of the loop, on any input that an entry can be read from. -/
theorem readAll_step {input rest : List β} {entry : α} (here : read input = .ok (entry, rest)) :
    readAll read shrinks input = (readAll read shrinks rest).map fun later => (entry :: later.1, later.2) := by
  have smaller := shrinks here
  cases input with
  | nil => exact absurd smaller (Nat.not_lt_zero _)
  | cons symbol more =>
    rw [readAll]
    split
    · rename_i failed
      rw [here] at failed
      cases failed
    · rename_i taken
      rw [here] at taken
      cases taken
      cases readAll read shrinks rest with
      | error error => rfl
      | ok later => rfl

/-- The loop ends with all of its input read, or fails. -/
theorem readAll_eq_ok_iff {input rest : List β} {entries : List α} :
    readAll read shrinks input = .ok (entries, rest) ↔ rest = [] ∧ Entries read input entries := by
  constructor
  · intro accepted
    induction input using readAll.induct read shrinks generalizing entries rest with
    | case1 =>
      rw [readAll] at accepted
      cases accepted
      exact ⟨rfl, .nil⟩
    | case2 symbol more error failed =>
      rw [readAll] at accepted
      split at accepted
      · cases accepted
      · rename_i taken
        rw [failed] at taken
        cases taken
    | case3 symbol more entry after here _ ih =>
      rw [readAll_step here, Result.map_eq_ok_iff] at accepted
      obtain ⟨⟨later, left⟩, readLater, same⟩ := accepted
      cases same
      obtain ⟨whole, laterEntries⟩ := ih readLater
      exact ⟨whole, .cons here laterEntries⟩
  · rintro ⟨rfl, found⟩
    induction found with
    | nil => rw [readAll]
    | cons here _ ih =>
      rw [readAll_step here, ih]
      rfl

/-- What holds of every entry that can be read holds of all that were. -/
theorem Entries.forall {good : α → Prop} {input : List β} {entries : List α}
    (each : ∀ {input rest : List β} {entry : α}, read input = .ok (entry, rest) → good entry)
    (found : Entries read input entries) : ∀ entry ∈ entries, good entry := by
  induction found with
  | nil => exact fun entry member => nomatch member
  | cons here _ ih => exact List.forall_mem_cons.mpr ⟨each here, ih⟩

end reading

/-! ## Writing -/

/-- An entry is written as bytes that read back as that entry, whatever follows them. -/
def Carries (write : List β → α → Except δ (List β)) (read : List β → Except ε (α × List β)) (entry : α) : Prop :=
  ∃ symbols, (∀ out, write out entry = .ok (out ++ symbols)) ∧
    ∀ more, read (symbols ++ more) = .ok (entry, more)

variable {write : List β → α → Except δ (List β)} {read : List β → Except ε (α × List β)}
  {shrinks : ∀ {input rest : List β} {entry : α}, read input = .ok (entry, rest) → rest.length < input.length}

/-- Entries that read back one at a time read back as a sequence. -/
theorem entries_written {entries : List α} (carried : ∀ entry ∈ entries, Carries write read entry) :
    ∃ symbols, (∀ out, entries.foldlM write out = .ok (out ++ symbols)) ∧ Entries read symbols entries := by
  induction entries with
  | nil => exact ⟨[], fun out => by simp [pure, Except.pure], .nil⟩
  | cons entry entries ih =>
    obtain ⟨front, wrote, back⟩ := carried entry (List.mem_cons_self ..)
    obtain ⟨tail, wroteTail, backTail⟩ := ih fun later member => carried later (List.mem_cons_of_mem _ member)
    refine ⟨front ++ tail, fun out => ?_, .cons (back tail) backTail⟩
    rw [List.foldlM_cons, wrote, ← List.append_assoc]
    exact wroteTail _

/-- Entries that were all written could each be written. -/
theorem wrote_each {entries : List α} {out wire : List β} (wrote : entries.foldlM write out = .ok wire) :
    ∀ entry ∈ entries, ∃ before after, write before entry = .ok after := by
  induction entries generalizing out with
  | nil => simp
  | cons entry entries ih =>
    rw [List.foldlM_cons, Result.bind_eq_ok_iff] at wrote
    obtain ⟨after, first, later⟩ := wrote
    intro other member
    cases member with
    | head => exact ⟨out, after, first⟩
    | tail _ later' => exact ih later other later'

end Skimasque.Library.Sequence
