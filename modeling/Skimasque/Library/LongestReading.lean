import Mathlib.Data.List.Lex
import Mathlib.Data.List.TakeWhile
import Mathlib.Tactic.Common

/-! Reading a text by a pattern of literals and holes.

A piece stands for each hole, and what is left over comes after the last item. A text may have several
readings. Of two the one counts as longer whose piece is longer where they first differ.
-/

set_option autoImplicit false

namespace Skimasque.Library.Pattern

variable {α : Type}

inductive Item (α : Type) where
  | literal (text : List α)
  | hole

/-- The items with their pieces, in front of a rest, are the input. -/
inductive Reads (fits : List α → Prop) : List (Item α) → List α → List (List α) → List α → Prop
  | nil (rest : List α) : Reads fits [] rest [] rest
  | literal {text input rest : List α} {items : List (Item α)} {pieces : List (List α)}
      (tail : Reads fits items input pieces rest) : Reads fits (.literal text :: items) (text ++ input) pieces rest
  | hole {piece input rest : List α} {items : List (Item α)} {pieces : List (List α)} (fit : fits piece)
      (tail : Reads fits items input pieces rest) : Reads fits (.hole :: items) (piece ++ input) (piece :: pieces) rest

/-- Where the pieces first differ, the left one is longer. -/
def Longer (left right : List (List α)) : Prop := List.Lex (fun first second => second.length < first.length) left right

/-- A reading whose rest ends as it must, and than which none is longer. -/
structure Longest (fits ends : List α → Prop) (items : List (Item α)) (input : List α) (pieces : List (List α))
    (rest : List α) : Prop where
  reads : Reads fits items input pieces rest
  done : ends rest
  none_longer : ∀ other after, Reads fits items input other after → ends after → ¬Longer other pieces

/-- The text of the items with these pieces. -/
def spell : List (Item α) → List (List α) → List α
  | [], _ => []
  | .literal text :: items, pieces => text ++ spell items pieces
  | .hole :: items, piece :: pieces => piece ++ spell items pieces
  | .hole :: items, [] => spell items []

/-- One fitting piece for each hole. -/
inductive Fills (fits : List α → Prop) : List (Item α) → List (List α) → Prop
  | nil : Fills fits [] []
  | literal {text : List α} {items : List (Item α)} {pieces : List (List α)} (tail : Fills fits items pieces) :
      Fills fits (.literal text :: items) pieces
  | hole {piece : List α} {items : List (Item α)} {pieces : List (List α)} (fit : fits piece)
      (tail : Fills fits items pieces) : Fills fits (.hole :: items) (piece :: pieces)

variable {fits ends : List α → Prop} {items : List (Item α)} {input rest after piece : List α} {pieces other : List (List α)}

theorem reads_iff : Reads fits items input pieces rest ↔ Fills fits items pieces ∧ input = spell items pieces ++ rest := by
  constructor
  · intro reads
    induction reads with
    | nil rest => exact ⟨.nil, rfl⟩
    | literal _ ih => exact ⟨.literal ih.1, by rw [ih.2, spell, List.append_assoc]⟩
    | hole fit _ ih => exact ⟨.hole fit ih.1, by rw [ih.2, spell, List.append_assoc]⟩
  · rintro ⟨fills, rfl⟩
    induction fills with
    | nil => exact .nil rest
    | literal _ ih =>
      rw [spell, List.append_assoc]
      exact .literal ih
    | hole fit _ ih =>
      rw [spell, List.append_assoc]
      exact .hole fit ih

theorem longer_cons {left right : List α} {lefts rights : List (List α)} : Longer (left :: lefts) (right :: rights) ↔
    right.length < left.length ∨ (left = right ∧ Longer lefts rights) := by
  constructor
  · intro longer
    cases longer with
    | rel first => exact .inl first
    | cons tail => exact .inr ⟨rfl, tail⟩
  · rintro (first | ⟨rfl, tail⟩)
    · exact .rel first
    · exact .cons tail

theorem longer_irrefl (pieces : List (List α)) : ¬Longer pieces pieces := by
  induction pieces with
  | nil => nofun
  | cons piece pieces ih =>
    rw [longer_cons]
    rintro (less | ⟨_, longer⟩)
    · exact Nat.lt_irrefl _ less
    · exact ih longer

/-- Of two readings that differ, one is longer. -/
theorem Reads.compare (first : Reads fits items input pieces rest) (second : Reads fits items input other after) :
    pieces = other ∨ Longer pieces other ∨ Longer other pieces := by
  induction first generalizing other after with
  | nil rest =>
    cases second
    exact .inl rfl
  | @literal text input rest items pieces _ ih =>
    generalize whole : text ++ input = joined at second
    cases second with
    | literal tail =>
      rw [List.append_cancel_left whole] at ih
      exact ih tail
  | @hole piece input rest items pieces fit _ ih =>
    generalize whole : piece ++ input = joined at second
    cases second with
    | @hole piece' input' _ _ pieces' fit' tail =>
      simp only [longer_cons]
      rcases Nat.lt_trichotomy piece.length piece'.length with less | same | less
      · exact .inr (.inr (.inl less))
      · obtain ⟨rfl, rfl⟩ := List.append_inj whole same
        rcases ih tail with rfl | longer | longer
        · exact .inl rfl
        · exact .inr (.inl (.inr ⟨rfl, longer⟩))
        · exact .inr (.inr (.inr ⟨rfl, longer⟩))
      · exact .inr (.inl (.inl less))

theorem Reads.rest_eq (first : Reads fits items input pieces rest) (second : Reads fits items input pieces after) :
    rest = after := by
  rw [reads_iff] at first second
  exact List.append_cancel_left (first.2.symm.trans second.2)

theorem Longest.unique (first : Longest fits ends items input pieces rest) (second : Longest fits ends items input other after) :
    pieces = other ∧ rest = after := by
  have same : pieces = other := by
    rcases first.reads.compare second.reads with same | longer | longer
    · exact same
    · exact absurd longer (second.none_longer _ _ first.reads first.done)
    · exact absurd longer (first.none_longer _ _ second.reads second.done)
  subst same
  exact ⟨rfl, first.reads.rest_eq second.reads⟩

theorem Longest.nil (done : ends rest) : Longest fits ends [] rest [] rest where
  reads := .nil rest
  done := done
  none_longer other after _ _ longer := by cases longer

theorem Longest.literal {text : List α} (tail : Longest fits ends items input pieces rest) :
    Longest fits ends (.literal text :: items) (text ++ input) pieces rest where
  reads := .literal tail.reads
  done := tail.done
  none_longer other after reads done := by
    generalize whole : text ++ input = joined at reads
    cases reads with
    | literal reads =>
      rw [← List.append_cancel_left whole] at reads
      exact tail.none_longer other after reads done

theorem Longest.hole (fit : fits piece) (tail : Longest fits ends items input pieces rest)
    (most : ∀ longer remaining, longer ++ remaining = piece ++ input → piece.length < longer.length → fits longer →
      ∀ other after, Reads fits items remaining other after → ¬ends after) :
    Longest fits ends (.hole :: items) (piece ++ input) (piece :: pieces) rest where
  reads := .hole fit tail.reads
  done := tail.done
  none_longer other after reads done := by
    generalize whole : piece ++ input = joined at reads
    cases reads with
    | @hole piece' input' _ _ pieces' fit' reads =>
      rw [longer_cons]
      rintro (less | ⟨rfl, longer⟩)
      · exact most piece' input' whole.symm less fit' _ _ reads done
      · rw [← List.append_cancel_left whole] at reads
        exact tail.none_longer _ _ reads done longer

/-! ## Patterns whose readings are aligned

`safe` marks what a piece may hold.
-/

variable {safe : α → Bool}

/-- The text is empty or begins with what no piece holds. -/
def Stops (safe : α → Bool) (text : List α) : Prop := ∀ x ∈ text.head?, safe x = false

theorem countP_spell (held : ∀ piece, fits piece → ∀ x ∈ piece, safe x = true) {left right : List (List α)}
    (leftFills : Fills fits items left) (rightFills : Fills fits items right) :
    (spell items left).countP (fun x => !safe x) = (spell items right).countP (fun x => !safe x) := by
  have none {piece : List α} (fit : fits piece) : piece.countP (fun x => !safe x) = 0 := by
    rw [List.countP_eq_zero]
    intro x member
    simp [held piece fit x member]
  induction leftFills generalizing right with
  | nil => cases rightFills; rfl
  | literal _ ih =>
    cases rightFills with
    | literal tail => rw [spell, spell, List.countP_append, List.countP_append, ih tail]
  | hole fit _ ih =>
    cases rightFills with
    | hole fit' tail => rw [spell, spell, List.countP_append, List.countP_append, ih tail, none fit, none fit']

/-- The rest is the same in every reading that stops. -/
theorem Reads.aligned (held : ∀ piece, fits piece → ∀ x ∈ piece, safe x = true)
    (first : Reads fits items input pieces rest) (second : Reads fits items input other after)
    (firstStops : Stops safe rest) (secondStops : Stops safe after) : spell items pieces = spell items other ∧ rest = after := by
  rw [reads_iff] at first second
  obtain ⟨firstFills, rfl⟩ := first
  obtain ⟨secondFills, whole⟩ := second
  have count := countP_spell held firstFills secondFills
  -- The longer of the two spelled texts has nothing more to hold.
  have nothing {short long gap : List α} (same : short.countP (fun x => !safe x) = long.countP (fun x => !safe x))
      (more : long = short ++ gap) (stops : ∀ x ∈ gap.head?, safe x = false) : gap = [] := by
    rw [more, List.countP_append] at same
    have clear := List.countP_eq_zero.mp (show gap.countP (fun x => !safe x) = 0 by omega)
    cases gap with
    | nil => rfl
    | cons x gap => exact absurd (stops x rfl) (by simpa using clear x (List.mem_cons_self ..))
  have head {gap tail : List α} (stops : Stops safe (gap ++ tail)) : ∀ x ∈ gap.head?, safe x = false := by
    intro x found
    apply stops
    rw [List.head?_append, Option.mem_def.mp found]
    rfl
  rcases List.append_eq_append_iff.mp whole with ⟨gap, longer, rest⟩ | ⟨gap, longer, rest⟩
  · subst rest
    have := nothing count longer (head firstStops)
    subst this
    rw [longer, List.append_nil]
    exact ⟨rfl, rfl⟩
  · subst rest
    have := nothing count.symm longer (head secondStops)
    subst this
    rw [longer, List.append_nil]
    exact ⟨rfl, rfl⟩

/-- After every hole the pattern is over, or a literal follows that no piece runs into. -/
def Separated (safe : α → Bool) : List (Item α) → Prop
  | [] => True
  | .literal _ :: items => Separated safe items
  | .hole :: items =>
    (items = [] ∨ ∃ x text rest, items = .literal (x :: text) :: rest ∧ safe x = false) ∧ Separated safe items

/-- A separated pattern has no second reading. -/
theorem Reads.unique (held : ∀ piece, fits piece → ∀ x ∈ piece, safe x = true) (separated : Separated safe items)
    (first : Reads fits items input pieces rest) (second : Reads fits items input other after)
    (firstStops : Stops safe rest) (secondStops : Stops safe after) : pieces = other := by
  -- What follows a hole in a separated pattern stops its piece.
  have stops {items : List (Item α)} {input rest : List α} {pieces : List (List α)}
      (next : items = [] ∨ ∃ x text rest, items = .literal (x :: text) :: rest ∧ safe x = false)
      (reads : Reads fits items input pieces rest) (stops : Stops safe rest) : Stops safe input := by
    rcases next with rfl | ⟨x, text, _, rfl, unsafe'⟩
    · cases reads
      exact stops
    · cases reads
      intro y found
      cases found
      exact unsafe'
  have piece_eq {piece input : List α} (fit : fits piece) (stops : Stops safe input) :
      (piece ++ input).takeWhile safe = piece := by
    rw [List.takeWhile_append_of_pos (held piece fit)]
    cases input with
    | nil => simp
    | cons x input => rw [List.takeWhile_cons_of_neg (by simpa using stops x rfl), List.append_nil]
  induction first generalizing other after with
  | nil rest =>
    cases second
    rfl
  | @literal text input rest items pieces _ ih =>
    generalize whole : text ++ input = joined at second
    cases second with
    | literal tail =>
      rw [← List.append_cancel_left whole] at tail
      exact ih separated tail firstStops secondStops
  | @hole piece input rest items pieces fit reads ih =>
    generalize whole : piece ++ input = joined at second
    cases second with
    | @hole piece' input' _ _ pieces' fit' tail =>
      have same : piece = piece' := by
        rw [← piece_eq fit (stops separated.1 reads firstStops), whole,
          piece_eq fit' (stops separated.1 tail secondStops)]
      subst same
      rw [← List.append_cancel_left whole] at tail
      rw [ih separated.2 tail firstStops secondStops]

end Skimasque.Library.Pattern
