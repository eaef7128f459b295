import Mathlib.Data.List.Basic
import Mathlib.Tactic.Common

/-! Incremental decoders: bytes are pushed in whatever pieces they arrive, items are polled out.

A `Decoder` carries the laws that make the pieces irrelevant: more input never changes an item
or an error that is already decided, and a poll that wants more input, or fails, changes
nothing. `observe_drain` is the consequence for every interleaving of pushes and polls.
-/

set_option autoImplicit false

namespace Skimasque.Library.Incremental

structure Decoder (α β ε σ : Type) where
  push : σ → List α → σ
  poll : σ → Except ε (Option β) × σ
  /-- How much input is held; every item uses some of it up. -/
  held : σ → Nat
  held_push : ∀ s chunk, held (push s chunk) = held s + chunk.length
  push_nil : ∀ s, push s [] = s
  push_push : ∀ s first second, push (push s first) second = push s (first ++ second)
  poll_item : ∀ {s b s'}, poll s = (.ok (some b), s') →
    held s' < held s ∧ ∀ more, poll (push s more) = (.ok (some b), push s' more)
  poll_wait : ∀ {s s'}, poll s = (.ok none, s') → s' = s
  poll_error : ∀ {s e s'}, poll s = (.error e, s') →
    s' = s ∧ ∀ more, poll (push s more) = (.error e, push s more)

inductive Op (α : Type) where
  | push (chunk : List α)
  | poll
  deriving DecidableEq, Repr

/-- The input a sequence of operations pushes, in order. -/
def pushed {α : Type} : List (Op α) → List α
  | [] => []
  | .push chunk :: rest => chunk ++ pushed rest
  | .poll :: rest => pushed rest

/-- The items yielded, the first error reported, and the state left. -/
structure Observed (β ε σ : Type) where
  items : List β
  error : Option ε
  state : σ

variable {α β ε σ : Type} (decoder : Decoder α β ε σ)

def Decoder.observe : List (Op α) → σ → Observed β ε σ
  | [], s => ⟨[], none, s⟩
  | .push chunk :: rest, s => observe rest (decoder.push s chunk)
  | .poll :: rest, s =>
    match decoder.poll s with
    | (.ok (some b), s') => let later := observe rest s'; ⟨b :: later.items, later.error, later.state⟩
    | (.ok none, s') => observe rest s'
    | (.error e, s') => let later := observe rest s'; ⟨later.items, some e, later.state⟩

/-- Poll until there is nothing more to yield, with a bound on the polls. -/
def Decoder.drainWithin : Nat → σ → Observed β ε σ
  | 0, s => ⟨[], none, s⟩
  | fuel + 1, s =>
    match decoder.poll s with
    | (.ok (some b), s') => let later := drainWithin fuel s'; ⟨b :: later.items, later.error, later.state⟩
    | (.ok none, s') => ⟨[], none, s'⟩
    | (.error e, s') => ⟨[], some e, s'⟩

def Decoder.drain (s : σ) : Observed β ε σ := decoder.drainWithin (decoder.held s + 1) s

theorem Decoder.drainWithin_enough (fuel extra : Nat) (s : σ) (enough : decoder.held s < fuel) :
    decoder.drainWithin (fuel + extra) s = decoder.drainWithin fuel s := by
  induction fuel generalizing s with
  | zero => omega
  | succ fuel ih =>
    rw [Nat.succ_add]
    unfold drainWithin
    cases polled : decoder.poll s with
    | mk answer s' =>
      cases answer with
      | error e => rfl
      | ok item =>
        cases item with
        | none => rfl
        | some b =>
          -- Every item uses input up, so one less fuel is still enough for what is left.
          have used := (decoder.poll_item polled).1
          simp only [ih s' (by omega)]

theorem Decoder.drain_item {s s' : σ} {b : β} (polled : decoder.poll s = (.ok (some b), s')) :
    decoder.drain s = ⟨b :: (decoder.drain s').items, (decoder.drain s').error, (decoder.drain s').state⟩ := by
  have used := (decoder.poll_item polled).1
  have same : decoder.drainWithin (decoder.held s) s' = decoder.drain s' := by
    have := decoder.drainWithin_enough (decoder.held s' + 1) (decoder.held s - (decoder.held s' + 1)) s' (by omega)
    rwa [Nat.add_sub_of_le (by omega)] at this
  simp only [drain, drainWithin, polled] at same ⊢
  rw [same]

theorem Decoder.drain_wait {s s' : σ} (polled : decoder.poll s = (.ok none, s')) :
    decoder.drain s = ⟨[], none, s⟩ := by
  simp only [drain, drainWithin, polled]
  rw [decoder.poll_wait polled]

theorem Decoder.drain_error {s s' : σ} {e : ε} (polled : decoder.poll s = (.error e, s')) :
    decoder.drain s = ⟨[], some e, s⟩ := by
  simp only [drain, drainWithin, polled]
  rw [(decoder.poll_error polled).1]

/-- A drain stops only at an error or where the next poll wants more input. -/
theorem Decoder.drain_settled (s : σ) (clean : (decoder.drain s).error = none) :
    decoder.poll (decoder.drain s).state = (.ok none, (decoder.drain s).state) := by
  induction size : decoder.held s using Nat.strongRecOn generalizing s with
  | _ size ih =>
    cases polled : decoder.poll s with
    | mk answer s' =>
      cases answer with
      | error e =>
        rw [decoder.drain_error polled] at clean
        cases clean
      | ok item =>
        cases item with
        | none =>
          rw [decoder.drain_wait polled, polled, decoder.poll_wait polled]
        | some b =>
          have used := (decoder.poll_item polled).1
          rw [decoder.drain_item polled] at clean ⊢
          exact ih (decoder.held s') (by omega) s' clean rfl

/-- Any interleaving of pushes and polls, then a drain, observes what one push of the whole input
and a drain observe: the items in order, the first error, and the state left. -/
theorem Decoder.observe_drain (ops : List (Op α)) (s : σ) :
    decoder.drain (decoder.push s (pushed ops)) =
      let seen := decoder.observe ops s
      let rest := decoder.drain seen.state
      ⟨seen.items ++ rest.items, seen.error.or rest.error, rest.state⟩ := by
  induction ops generalizing s with
  | nil => simp [pushed, observe, decoder.push_nil]
  | cons op ops ih =>
    cases op with
    | push chunk =>
      simp only [pushed, observe]
      rw [← decoder.push_push]
      exact ih _
    | poll =>
      simp only [pushed, observe]
      cases polled : decoder.poll s with
      | mk answer s' =>
        cases answer with
        | error e =>
          -- The error stands whatever comes later, so the later observations are empty.
          obtain ⟨rfl, stands⟩ := decoder.poll_error polled
          have whole := ih s'
          rw [decoder.drain_error (stands _)] at whole ⊢
          simp only [Observed.mk.injEq] at whole ⊢
          exact ⟨whole.1, by simp, whole.2.2⟩
        | ok item =>
          cases item with
          | none =>
            cases decoder.poll_wait polled
            exact ih _
          | some b =>
            rw [decoder.drain_item ((decoder.poll_item polled).2 _), ih s']
            rfl

/-- A prefix of a stream of encodings is some whole encodings, or some and a proper piece of the next. -/
theorem prefix_flatMap {encode : β → List α} {items : List β} {front : List α}
    (whole : front <+: items.flatMap encode) :
    (∃ k ≤ items.length, front = (items.take k).flatMap encode) ∨
      ∃ done b later piece rest, items = done ++ b :: later ∧ front = done.flatMap encode ++ piece ∧
        encode b = piece ++ rest ∧ piece ≠ [] ∧ rest ≠ [] := by
  induction items generalizing front with
  | nil => exact .inl ⟨0, Nat.le_refl _, by simpa using whole⟩
  | cons b items ih =>
    rw [List.flatMap_cons] at whole
    obtain ⟨after, split⟩ := whole
    rcases List.append_eq_append_iff.mp split with ⟨rest, ended, _⟩ | ⟨front', rfl, beyond⟩
    · by_cases started : front = []
      · exact .inl ⟨0, Nat.zero_le _, by simpa using started⟩
      by_cases closed : rest = []
      · exact .inl ⟨1, by simp, by simp [ended, closed]⟩
      · exact .inr ⟨[], b, items, front, rest, rfl, rfl, ended, started, closed⟩
    · rcases ih ⟨after, beyond.symm⟩ with ⟨k, bound, rfl⟩ | ⟨done, c, later, piece, rest, rfl, rfl, split, started, ended⟩
      · exact .inl ⟨k + 1, by simpa using bound, by simp⟩
      · exact .inr ⟨b :: done, c, later, piece, rest, rfl, by simp, split, started, ended⟩

/-! ## Streams made by an encoder -/

section
variable {encode : β → List α} (start : σ)

theorem Decoder.drain_encoded (items : List β) (tail : List α)
    (back : ∀ b ∈ items, ∀ more, decoder.poll (decoder.push start (encode b ++ more)) =
      (.ok (some b), decoder.push start more)) :
    decoder.drain (decoder.push start (items.flatMap encode ++ tail)) =
      let rest := decoder.drain (decoder.push start tail)
      ⟨items ++ rest.items, rest.error, rest.state⟩ := by
  induction items with
  | nil => simp
  | cons b items ih =>
    have later := ih (fun c member => back c (List.mem_cons_of_mem b member))
    rw [List.flatMap_cons, List.append_assoc, decoder.drain_item (back b (List.mem_cons_self ..) _), later]
    rfl

/-- A proper piece of an encoding decides nothing: deciding early would decide the whole early. -/
theorem Decoder.poll_piece {b : β} {piece rest : List α} (fresh : decoder.held start = 0)
    (back : decoder.poll (decoder.push start (piece ++ rest)) = (.ok (some b), start))
    (left : rest ≠ []) :
    decoder.poll (decoder.push start piece) = (.ok none, decoder.push start piece) := by
  rw [← decoder.push_push] at back
  cases polled : decoder.poll (decoder.push start piece) with
  | mk answer s' =>
    cases answer with
    | error e =>
      rw [(decoder.poll_error polled).2 rest] at back
      cases back
    | ok item =>
      cases item with
      | none => rw [decoder.poll_wait polled]
      | some c =>
        -- The item would leave the rest unread behind it, but the whole encoding leaves nothing.
        rw [(decoder.poll_item polled).2 rest] at back
        have same : decoder.push s' rest = start := congrArg Prod.snd back
        have size := decoder.held_push s' rest
        rw [same, fresh] at size
        have := List.length_pos_iff.mpr left
        omega

/-- A prefix that does not end between two encodings drains to the items before it and holds the
piece of the next one. -/
theorem Decoder.drain_prefix {items : List β} {front : List α} (fresh : decoder.held start = 0)
    (back : ∀ b ∈ items, ∀ more, decoder.poll (decoder.push start (encode b ++ more)) =
      (.ok (some b), decoder.push start more))
    (whole : front <+: items.flatMap encode) (between : ∀ k, front ≠ (items.take k).flatMap encode) :
    ∃ k piece, piece ≠ [] ∧ decoder.drain (decoder.push start front) = ⟨items.take k, none, decoder.push start piece⟩ := by
  rcases prefix_flatMap whole with ⟨k, _, boundary⟩ | ⟨done, b, later, piece, rest, rfl, rfl, split, started, left⟩
  · exact absurd boundary (between k)
  · have last := back b (by simp) []
    rw [List.append_nil, decoder.push_nil, split] at last
    have waits := decoder.drain_wait (decoder.poll_piece start fresh last left)
    refine ⟨done.length, piece, started, ?_⟩
    rw [decoder.drain_encoded start done piece (fun c member => back c (by simp [member])), waits]
    simp

end

end Skimasque.Library.Incremental
