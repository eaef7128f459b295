import Mathlib.Data.List.Basic
import Mathlib.Tactic.Common

/-! Quoted text over any alphabet: a quote ends it, a slash stands before either mark inside, and a cut
of the escaped text may fall between a slash and its mark. -/

set_option autoImplicit false

namespace Skimasque.Library.Quoted

variable {α : Type}

structure Marks (α : Type) where
  slash : α
  quote : α
  different : slash ≠ quote

variable [DecidableEq α] (marks : Marks α)

def isMark (c : α) : Bool := c = marks.slash || c = marks.quote

def escapeOne (c : α) : List α := if isMark marks c then [marks.slash, c] else [c]

def escape (text : List α) : List α := text.flatMap (escapeOne marks)

/-- The text up to the first quote that no slash stands before, if there is one. -/
def scan : List α → Option (List α)
  | [] => none
  | [c] => if c = marks.slash then none else if c = marks.quote then some [] else none
  | c :: next :: rest =>
    if c = marks.slash then (scan rest).map (next :: ·)
    else if c = marks.quote then some []
    else (scan (next :: rest)).map (c :: ·)

/-- Every slash has its mark after it, and no quote stands alone. -/
inductive Sealed : List α → Prop where
  | nil : Sealed []
  | plain {c : α} {rest : List α} (unmarked : isMark marks c = false) (later : Sealed rest) : Sealed (c :: rest)
  | pair {c : α} {rest : List α} (mark : isMark marks c = true) (later : Sealed rest) : Sealed (marks.slash :: c :: rest)

/-- A cut after `n` escaped symbols parts a slash from its mark. -/
def Severed (n : Nat) (text : List α) : Prop :=
  ∃ front c back, text = front ++ c :: back ∧ isMark marks c = true ∧ (escape marks front).length + 1 = n

variable {marks}

theorem escape_cons_mark {c : α} (mark : isMark marks c = true) (rest : List α) :
    escape marks (c :: rest) = marks.slash :: c :: escape marks rest := by
  simp [escape, escapeOne, mark]

theorem escape_cons_plain {c : α} (plain : isMark marks c = false) (rest : List α) :
    escape marks (c :: rest) = c :: escape marks rest := by
  simp [escape, escapeOne, plain]

theorem escape_append (front back : List α) : escape marks (front ++ back) = escape marks front ++ escape marks back :=
  List.flatMap_append

theorem scan_slash (c : α) (rest : List α) : scan marks (marks.slash :: c :: rest) = (scan marks rest).map (c :: ·) := by
  rw [scan, if_pos rfl]

theorem scan_quote (rest : List α) : scan marks (marks.quote :: rest) = some [] := by
  cases rest with
  | nil => rw [scan, if_neg marks.different.symm, if_pos rfl]
  | cons next rest => rw [scan, if_neg marks.different.symm, if_pos rfl]

theorem scan_plain {c : α} (plain : isMark marks c = false) (rest : List α) :
    scan marks (c :: rest) = (scan marks rest).map (c :: ·) := by
  simp only [isMark, Bool.or_eq_false_iff, decide_eq_false_iff_not] at plain
  cases rest with
  | nil => simp [scan, plain.1, plain.2]
  | cons next rest => rw [scan, if_neg plain.1, if_neg plain.2]

theorem sealed_escape (text : List α) : Sealed marks (escape marks text) := by
  induction text with
  | nil => exact .nil
  | cons c text ih =>
    cases mark : isMark marks c with
    | true =>
      rw [escape_cons_mark mark]
      exact .pair mark ih
    | false =>
      rw [escape_cons_plain mark]
      exact .plain mark ih

/-- Escaped text is scanned in front of whatever comes next. -/
theorem scan_escape_append (text next : List α) :
    scan marks (escape marks text ++ next) = (scan marks next).map (text ++ ·) := by
  induction text with
  | nil => simp [escape]
  | cons c text ih =>
    cases mark : isMark marks c with
    | true =>
      rw [escape_cons_mark mark, List.cons_append, List.cons_append, scan_slash, ih, Option.map_map]
      rfl
    | false =>
      rw [escape_cons_plain mark, List.cons_append, scan_plain mark, ih, Option.map_map]
      rfl

/-- Escaped text reads back, and ends at the quote after it. -/
theorem scan_escape (text rest : List α) : scan marks (escape marks text ++ marks.quote :: rest) = some text := by
  rw [scan_escape_append, scan_quote]
  simp

/-- A lone slash takes the closing quote for its mark. -/
theorem scan_severed (text : List α) : scan marks (escape marks text ++ [marks.slash, marks.quote]) = none := by
  rw [scan_escape_append, scan_slash]
  rfl

/-! ## Cuts -/

theorem severed_cons_mark {c : α} (mark : isMark marks c = true) {n : Nat} {text : List α}
    (severed : Severed marks n text) : Severed marks (n + 2) (c :: text) := by
  obtain ⟨front, d, back, rfl, later, short⟩ := severed
  refine ⟨c :: front, d, back, rfl, later, ?_⟩
  rw [escape_cons_mark mark, ← short]
  rfl

theorem severed_cons_plain {c : α} (plain : isMark marks c = false) {n : Nat} {text : List α}
    (severed : Severed marks n text) : Severed marks (n + 1) (c :: text) := by
  obtain ⟨front, d, back, rfl, later, short⟩ := severed
  refine ⟨c :: front, d, back, rfl, later, ?_⟩
  rw [escape_cons_plain plain, ← short]
  rfl

/-- A severed cut ends in a lone slash. -/
theorem take_of_severed {n : Nat} {text : List α} (severed : Severed marks n text) :
    ∃ kept, (escape marks text).take n = escape marks kept ++ [marks.slash] := by
  obtain ⟨front, c, back, rfl, mark, rfl⟩ := severed
  refine ⟨front, ?_⟩
  rw [escape_append, escape_cons_mark mark, List.take_length_add_append]
  rfl

/-- Any other cut keeps whole symbols, and all of a text that is short enough. -/
theorem take_of_not_severed {n : Nat} {text : List α} (whole : ¬ Severed marks n text) :
    ∃ kept, kept <+: text ∧ (escape marks text).take n = escape marks kept ∧
      ((escape marks text).length ≤ n → kept = text) := by
  induction text generalizing n with
  | nil => exact ⟨[], List.prefix_rfl, by simp [escape], fun _ => rfl⟩
  | cons c text ih =>
    cases mark : isMark marks c with
    | true =>
      rw [escape_cons_mark mark]
      match n with
      | 0 => exact ⟨[], List.nil_prefix, rfl, fun short => by simp at short⟩
      | 1 => exact absurd ⟨[], c, text, rfl, mark, rfl⟩ whole
      | n + 2 =>
        obtain ⟨kept, front, cut, all⟩ := ih fun severed => whole (severed_cons_mark mark severed)
        refine ⟨c :: kept, (List.prefix_cons_inj c).mpr front, ?_, fun short => ?_⟩
        · rw [List.take_succ_cons, List.take_succ_cons, cut, escape_cons_mark mark]
        · rw [all (by simpa using short)]
    | false =>
      rw [escape_cons_plain mark]
      match n with
      | 0 => exact ⟨[], List.nil_prefix, rfl, fun short => by simp at short⟩
      | n + 1 =>
        obtain ⟨kept, front, cut, all⟩ := ih fun severed => whole (severed_cons_plain mark severed)
        refine ⟨c :: kept, (List.prefix_cons_inj c).mpr front, ?_, fun short => ?_⟩
        · rw [List.take_succ_cons, cut, escape_cons_plain mark]
        · rw [all (by simpa using short)]

/-- A symbol that is no mark is kept if and only if it starts before the cut. -/
theorem mem_take_escape_iff {c : α} (plain : isMark marks c = false) {n : Nat} {text : List α} :
    c ∈ (escape marks text).take n ↔ ∃ front back, text = front ++ c :: back ∧ (escape marks front).length < n := by
  constructor
  · intro member
    induction text generalizing n with
    | nil => simp [escape] at member
    | cons d text ih =>
      cases mark : isMark marks d with
      | true =>
        rw [escape_cons_mark mark] at member
        have otherMark : c ≠ marks.slash ∧ c ≠ d := by
          constructor
          · rintro rfl
            simp [isMark] at plain
          · rintro rfl
            rw [mark] at plain
            cases plain
        match n with
        | 0 => simp at member
        | 1 => simp [otherMark.1] at member
        | n + 2 =>
          have later : c ∈ (escape marks text).take n := by simpa [otherMark.1, otherMark.2] using member
          obtain ⟨front, back, rfl, short⟩ := ih later
          refine ⟨d :: front, back, rfl, ?_⟩
          rw [escape_cons_mark mark]
          simpa using short
      | false =>
        rw [escape_cons_plain mark] at member
        match n with
        | 0 => simp at member
        | n + 1 =>
          rw [List.take_succ_cons, List.mem_cons] at member
          rcases member with rfl | later
          · exact ⟨[], text, rfl, Nat.succ_pos n⟩
          · obtain ⟨front, back, rfl, short⟩ := ih later
            refine ⟨d :: front, back, rfl, ?_⟩
            rw [escape_cons_plain mark]
            simpa using short
  · rintro ⟨front, back, rfl, short⟩
    obtain ⟨room, rfl⟩ : ∃ room, n = (escape marks front).length + (room + 1) := ⟨n - (escape marks front).length - 1, by omega⟩
    rw [escape_append, escape_cons_plain plain, List.take_length_add_append, List.take_succ_cons]
    simp

end Skimasque.Library.Quoted
