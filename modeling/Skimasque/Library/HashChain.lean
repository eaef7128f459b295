import Mathlib.Data.List.Induction
import Mathlib.Tactic.Common

/-! Hash chains: every link is numbered and names the hash of the one before it. -/

set_option autoImplicit false

namespace Skimasque.Library.HashChain

structure Link (H β : Type) where
  seq : Nat
  prev : H
  body : β
  deriving DecidableEq, Repr

variable {H β : Type} (hash : Link H β → H)

def links (seq : Nat) (prev : H) : List β → List (Link H β)
  | [] => []
  | body :: rest => ⟨seq, prev, body⟩ :: links (seq + 1) (hash ⟨seq, prev, body⟩) rest

/-- The hash the next link has to name. -/
def tail (seq : Nat) (prev : H) : List β → H
  | [] => prev
  | body :: rest => tail (seq + 1) (hash ⟨seq, prev, body⟩) rest

variable (seq : Nat) (prev : H) (bodies more : List β) (body : β)

@[simp] theorem length_links : (links hash seq prev bodies).length = bodies.length := by
  induction bodies generalizing seq prev with
  | nil => rfl
  | cons body rest ih => rw [links, List.length_cons, List.length_cons, ih]

theorem links_append : links hash seq prev (bodies ++ more) =
    links hash seq prev bodies ++ links hash (seq + bodies.length) (tail hash seq prev bodies) more := by
  induction bodies generalizing seq prev with
  | nil => rfl
  | cons body rest ih =>
    rw [List.cons_append, links, links, tail, ih, List.length_cons, Nat.add_assoc, Nat.add_comm 1, List.cons_append]

theorem tail_append : tail hash seq prev (bodies ++ more) =
    tail hash (seq + bodies.length) (tail hash seq prev bodies) more := by
  induction bodies generalizing seq prev with
  | nil => rfl
  | cons body rest ih => rw [List.cons_append, tail, tail, ih, List.length_cons, Nat.add_assoc, Nat.add_comm 1]

theorem links_concat : links hash seq prev (bodies ++ [body]) =
    links hash seq prev bodies ++ [⟨seq + bodies.length, tail hash seq prev bodies, body⟩] :=
  links_append ..

theorem tail_concat : tail hash seq prev (bodies ++ [body]) =
    hash ⟨seq + bodies.length, tail hash seq prev bodies, body⟩ :=
  tail_append ..

/-- The link at a place is numbered by it, and names what the links before it hash to. -/
theorem getElem?_links (place : Nat) : (links hash seq prev bodies)[place]? =
    (bodies[place]?).map fun body => ⟨seq + place, tail hash seq prev (bodies.take place), body⟩ := by
  induction bodies generalizing seq prev place with
  | nil => rfl
  | cons body rest ih =>
    cases place with
    | zero => rfl
    | succ place =>
      rw [links, List.getElem?_cons_succ, ih, List.getElem?_cons_succ, List.take_succ_cons, tail, Nat.add_assoc,
        Nat.add_comm 1]

section
variable {hash seq prev bodies more}

theorem prev_of_succ {place : Nat} {first next : Link H β} (here : (links hash seq prev bodies)[place]? = some first)
    (after : (links hash seq prev bodies)[place + 1]? = some next) : next.prev = hash first := by
  rw [getElem?_links] at here after
  obtain ⟨body, there, rfl⟩ := Option.map_eq_some_iff.mp here
  obtain ⟨later, -, rfl⟩ := Option.map_eq_some_iff.mp after
  obtain ⟨inside, found⟩ := List.getElem?_eq_some_iff.mp there
  rw [List.take_succ_eq_append_getElem inside, tail_concat, List.length_take, Nat.min_eq_left (Nat.le_of_lt inside),
    found]

theorem tail_of_getLast? {last : Link H β} (there : (links hash seq prev bodies).getLast? = some last) :
    tail hash seq prev bodies = hash last := by
  cases bodies using List.reverseRecOn with
  | nil => cases there
  | append_singleton bodies body =>
    rw [links_concat, List.getLast?_concat, Option.some.injEq] at there
    rw [tail_concat, there]

/-- What two links hash to decides what they are made of, their numbers aside. -/
def Determines (hash : Link H β → H) (inputs : List (Link H β)) : Prop :=
  ∀ first ∈ inputs, ∀ second ∈ inputs, hash first = hash second → first.prev = second.prev ∧ first.body = second.body

theorem Determines.of_subset {inputs fewer : List (Link H β)} (determines : Determines hash inputs)
    (subset : fewer ⊆ inputs) : Determines hash fewer :=
  fun first there second too => determines first (subset there) second (subset too)

/-- The tails of two chains agree only if the last bodies do, and the tails before them. -/
theorem tail_concat_inj {last other : β}
    (determines : Determines hash (links hash seq prev (bodies ++ [last]) ++ links hash seq prev (more ++ [other])))
    (same : tail hash seq prev (bodies ++ [last]) = tail hash seq prev (more ++ [other])) :
    tail hash seq prev bodies = tail hash seq prev more ∧ last = other := by
  rw [tail_concat, tail_concat] at same
  rw [links_concat, links_concat] at determines
  exact determines _ (by simp) _ (by simp) same

theorem determines_init {last other : β}
    (determines : Determines hash (links hash seq prev (bodies ++ [last]) ++ links hash seq prev (more ++ [other]))) :
    Determines hash (links hash seq prev bodies ++ links hash seq prev more) := by
  rw [links_concat, links_concat] at determines
  refine determines.of_subset ?_
  intro link member
  simp only [List.mem_append] at member ⊢
  exact member.imp .inl .inl

/-- The tail of a chain commits to all of it. -/
theorem eq_of_tail_eq (determines : Determines hash (links hash seq prev bodies ++ links hash seq prev more))
    (lengths : bodies.length = more.length) (same : tail hash seq prev bodies = tail hash seq prev more) :
    bodies = more := by
  induction bodies using List.reverseRecOn generalizing more with
  | nil => rw [List.length_nil] at lengths; exact (List.eq_nil_of_length_eq_zero lengths.symm).symm
  | append_singleton bodies last ih =>
    cases more using List.reverseRecOn with
    | nil => simp at lengths
    | append_singleton more other =>
      obtain ⟨earlier, rfl⟩ := tail_concat_inj determines same
      rw [ih (determines_init determines) (by simpa using lengths) earlier]

/-- If no link hashes to what the chains start from, it commits to their length as well. -/
theorem length_eq_of_tail_eq (determines : Determines hash (links hash seq prev bodies ++ links hash seq prev more))
    (fresh : ∀ link ∈ links hash seq prev bodies ++ links hash seq prev more, hash link ≠ prev)
    (same : tail hash seq prev bodies = tail hash seq prev more) : bodies.length = more.length := by
  induction bodies using List.reverseRecOn generalizing more with
  | nil =>
    cases more using List.reverseRecOn with
    | nil => rfl
    | append_singleton more other =>
      rw [tail_concat] at same
      exact absurd same.symm (fresh _ (by simp [links_concat]))
  | append_singleton bodies last ih =>
    cases more using List.reverseRecOn with
    | nil =>
      rw [tail_concat] at same
      exact absurd same (fresh _ (by simp [links_concat]))
    | append_singleton more other =>
      have earlier := tail_concat_inj determines same
      have kept : ∀ link ∈ links hash seq prev bodies ++ links hash seq prev more, hash link ≠ prev := by
        intro link member
        apply fresh
        rw [links_concat, links_concat]
        simp only [List.mem_append] at member ⊢
        exact member.imp .inl .inl
      rw [List.length_append, List.length_append, ih (determines_init determines) kept earlier.1]
      rfl

end

end Skimasque.Library.HashChain
