import Mathlib.Data.List.Basic
import Mathlib.Data.List.Infix
import Mathlib.Tactic.Common

/-! Lines of a text: those that end in CRLF, those that end in any line feed, and lines that continue others. -/

set_option autoImplicit false

namespace Skimasque.Library.Lines

abbrev Line := List Char

def crlf : Line := ['\r', '\n']

/-- A character in front of the first line. -/
def lead (c : Char) : List Line → List Line
  | [] => [[c]]
  | line :: rest => (c :: line) :: rest

/-- The pieces between CRLFs, empty ones included. -/
def splitCrlf : Line → List Line
  | [] => [[]]
  | '\r' :: '\n' :: rest => [] :: splitCrlf rest
  | c :: rest => lead c (splitCrlf rest)

/-- The pieces between line feeds, each without the CR that comes before its line feed. -/
def splitLf : Line → List Line
  | [] => [[]]
  | '\n' :: rest => [] :: splitLf rest
  | '\r' :: '\n' :: rest => [] :: splitLf rest
  | c :: rest => lead c (splitLf rest)

theorem lead_append {c : Char} {front back : List Line} (filled : front ≠ []) :
    lead c (front ++ back) = lead c front ++ back := by
  cases front with
  | nil => exact absurd rfl filled
  | cons line rest => rfl

theorem lead_ne_nil {c : Char} {lines : List Line} : lead c lines ≠ [] := by
  cases lines with
  | nil => exact nofun
  | cons line rest => exact nofun

theorem splitCrlf_cons {c : Char} {rest : Line} (other : c = '\r' → rest.head? ≠ some '\n') :
    splitCrlf (c :: rest) = lead c (splitCrlf rest) := by
  rw [splitCrlf]
  intro more cr starts
  rw [starts] at other
  exact other cr rfl

theorem splitLf_cons {c : Char} {rest : Line} (noFeed : c ≠ '\n') (other : c = '\r' → rest.head? ≠ some '\n') :
    splitLf (c :: rest) = lead c (splitLf rest) := by
  rw [splitLf]
  · exact noFeed
  · intro more cr starts
    rw [starts] at other
    exact other cr rfl

theorem splitCrlf_ne_nil {text : Line} : splitCrlf text ≠ [] := by
  fun_cases splitCrlf text with
  | case1 => exact nofun
  | case2 rest => exact nofun
  | case3 c rest => exact lead_ne_nil

theorem splitLf_ne_nil {text : Line} : splitLf text ≠ [] := by
  fun_cases splitLf text with
  | case1 => exact nofun
  | case2 rest => exact nofun
  | case3 rest => exact nofun
  | case4 c rest => exact lead_ne_nil

theorem head_append_crlf {rest back : Line} (other : rest.head? ≠ some '\n') : (rest ++ (crlf ++ back)).head? ≠ some '\n' := by
  cases rest with
  | nil => exact nofun
  | cons c rest => exact other

/-- A CRLF divides the lines wherever it stands. -/
theorem splitLf_append (front back : Line) : splitLf (front ++ (crlf ++ back)) = splitLf front ++ splitLf back := by
  fun_induction splitLf front with
  | case1 => rw [List.nil_append, crlf, List.cons_append, List.cons_append, splitLf]; rfl
  | case2 rest ih => rw [List.cons_append, splitLf, ih, List.cons_append]
  | case3 rest ih => rw [List.cons_append, List.cons_append, splitLf, ih, List.cons_append]
  | case4 c rest noFeed other ih =>
    have apart : c = '\r' → rest.head? ≠ some '\n' := by
      intro cr starts
      obtain ⟨more, rfl⟩ := List.head?_eq_some_iff.mp starts
      exact other more cr rfl
    rw [List.cons_append, splitLf_cons noFeed fun cr => head_append_crlf (apart cr), ih, lead_append splitLf_ne_nil]

theorem flatMap_splitLf (lines : List Line) (back : Line) :
    splitLf (lines.flatMap (· ++ crlf) ++ back) = lines.flatMap splitLf ++ splitLf back := by
  induction lines with
  | nil => rfl
  | cons line lines ih =>
    rw [List.flatMap_cons, List.flatMap_cons, List.append_assoc, List.append_assoc, splitLf_append, ih, List.append_assoc]

/-- The first line starts the text, and no line feed is in it. -/
theorem splitLf_first {text first : Line} {rest : List Line} (split : splitLf text = first :: rest) :
    first <+: text ∧ '\n' ∉ first := by
  fun_induction splitLf text generalizing first rest with
  | case1 =>
    cases split
    exact ⟨List.nil_prefix, List.not_mem_nil⟩
  | case2 more ih =>
    cases split
    exact ⟨List.nil_prefix, List.not_mem_nil⟩
  | case3 more ih =>
    cases split
    exact ⟨List.nil_prefix, List.not_mem_nil⟩
  | case4 c more noFeed other ih =>
    cases tail : splitLf more with
    | nil => exact absurd tail splitLf_ne_nil
    | cons line lines =>
      rw [tail] at split
      cases split
      obtain ⟨start, clear⟩ := ih tail
      refine ⟨(List.cons_prefix_cons).mpr ⟨rfl, start⟩, ?_⟩
      rw [List.mem_cons, not_or]
      exact ⟨fun same => noFeed same.symm, clear⟩

theorem splitCrlf_first {text first : Line} {rest : List Line} (split : splitCrlf text = first :: rest) : first <+: text := by
  fun_induction splitCrlf text generalizing first rest with
  | case1 =>
    cases split
    exact List.nil_prefix
  | case2 more ih =>
    cases split
    exact List.nil_prefix
  | case3 c more other ih =>
    cases tail : splitCrlf more with
    | nil => exact absurd tail splitCrlf_ne_nil
    | cons line lines =>
      rw [tail] at split
      cases split
      exact (List.cons_prefix_cons).mpr ⟨rfl, ih tail⟩

/-- Line feeds divide further what CRLFs have divided. -/
theorem splitLf_eq_flatMap (text : Line) : splitLf text = (splitCrlf text).flatMap splitLf := by
  fun_induction splitCrlf text with
  | case1 => rfl
  | case2 rest ih => rw [splitLf, ih, List.flatMap_cons, splitLf, List.singleton_append]
  | case3 c rest other ih =>
    cases split : splitCrlf rest with
    | nil => exact absurd split splitCrlf_ne_nil
    | cons first more =>
      rw [split, List.flatMap_cons] at ih
      rw [lead, List.flatMap_cons]
      -- A bare line feed ends a line inside the first piece; any other character goes on the first line of both.
      by_cases feed : c = '\n'
      · rw [feed, splitLf, splitLf, ih, List.cons_append]
      · have apart : c = '\r' → rest.head? ≠ some '\n' := by
          intro cr starts
          obtain ⟨back, rfl⟩ := List.head?_eq_some_iff.mp starts
          exact other back cr rfl
        have apartFirst : c = '\r' → first.head? ≠ some '\n' := by
          intro cr starts
          obtain ⟨back, same⟩ := List.head?_eq_some_iff.mp starts
          obtain ⟨tail, whole⟩ := splitCrlf_first split
          apply apart cr
          rw [← whole, same]
          rfl
        rw [splitLf_cons feed apart, splitLf_cons feed apartFirst, ih, lead_append splitLf_ne_nil]

/-- What has no line feed and does not end in a CR starts the first line. -/
theorem splitLf_clear {front back first : Line} {last : Char} {rest : List Line} (clear : '\n' ∉ front)
    (plain : last ≠ '\r' ∧ last ≠ '\n') (split : splitLf back = first :: rest) :
    splitLf (front ++ last :: back) = (front ++ last :: first) :: rest := by
  induction front with
  | nil => rw [List.nil_append, splitLf_cons plain.2 fun cr => absurd cr plain.1, split, lead, List.nil_append]
  | cons c front ih =>
    rw [List.mem_cons, not_or] at clear
    -- No line feed follows, so that a CR here ends no line.
    have apart : (front ++ last :: back).head? ≠ some '\n' := by
      cases front with
      | nil => exact fun starts => plain.2 (Option.some.inj starts)
      | cons d front => exact fun starts => clear.2 (List.mem_cons.mpr (.inl (Option.some.inj starts).symm))
    rw [List.cons_append, splitLf_cons (Ne.symm clear.1) fun _ => apart, ih clear.2, lead, List.cons_append]

theorem splitLf_single {line : Line} (clear : '\n' ∉ line) : splitLf line = [line] := by
  induction line with
  | nil => rfl
  | cons c line ih =>
    rw [List.mem_cons, not_or] at clear
    have apart : line.head? ≠ some '\n' := by
      intro starts
      obtain ⟨back, rfl⟩ := List.head?_eq_some_iff.mp starts
      exact clear.2 List.mem_cons_self
    rw [splitLf_cons (Ne.symm clear.1) fun _ => apart, ih clear.2, lead]

theorem flatMap_splitLf_of_clear {lines : List Line} (clear : ∀ line ∈ lines, '\n' ∉ line) : lines.flatMap splitLf = lines := by
  induction lines with
  | nil => rfl
  | cons line rest ih =>
    rw [List.forall_mem_cons] at clear
    rw [List.flatMap_cons, splitLf_single clear.1, ih clear.2, List.singleton_append]

/-! ## Lines that continue others -/

section
variable {α : Type} (continues : α → Bool)

/-- Lines with those that continue them, and in front the ones that continue no line. -/
def gather : List α → List α × List (α × List α)
  | [] => ([], [])
  | line :: rest =>
    if continues line then (line :: (gather rest).1, (gather rest).2)
    else ([], (line, (gather rest).1) :: (gather rest).2)

variable {continues}

theorem gather_cons_of_start {line : α} {rest : List α} (start : continues line = false) :
    gather continues (line :: rest) = ([], (line, (gather continues rest).1) :: (gather continues rest).2) := by
  rw [gather, start]
  rfl

/-- Lines none of which continues another. -/
theorem gather_of_starts {lines : List α} (starts : ∀ line ∈ lines, continues line = false) :
    gather continues lines = ([], lines.map fun line => (line, [])) := by
  induction lines with
  | nil => rfl
  | cons line rest ih =>
    rw [List.forall_mem_cons] at starts
    rw [gather_cons_of_start starts.1, ih starts.2]
    rfl

/-- A line continues another or has lines gathered to it. -/
theorem mem_gather {line : α} {lines : List α} (member : line ∈ lines) :
    continues line = true ∨ ∃ more, (line, more) ∈ (gather continues lines).2 := by
  induction lines with
  | nil => cases member
  | cons first rest ih =>
    rw [gather]
    rcases List.mem_cons.mp member with rfl | later
    · split
      · rename_i follows
        exact .inl follows
      · exact .inr ⟨_, List.mem_cons_self⟩
    · rcases ih later with follows | ⟨more, gathered⟩
      · exact .inl follows
      · split
        · exact .inr ⟨more, gathered⟩
        · exact .inr ⟨more, List.mem_cons_of_mem _ gathered⟩

theorem gather_append {front back : List α} (start : (gather continues back).1 = []) :
    gather continues (front ++ back) =
      ((gather continues front).1, (gather continues front).2 ++ (gather continues back).2) := by
  induction front with
  | nil => exact Prod.ext start rfl
  | cons line rest ih =>
    rw [List.cons_append, gather, gather, ih]
    split
    · rfl
    · rfl

end

end Skimasque.Library.Lines
