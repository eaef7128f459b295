import Skimasque.Cli.PlainHttp

/-! Another parser of HTTP/1.1.

It ends a line at every line feed, whether a CR comes before it or not. A line that starts with a space or a tab continues
the header before it.
-/

set_option autoImplicit false

namespace Skimasque.Cli
open Library Library.Lines

def isBlank (c : Char) : Bool := c = ' ' || c = '\t'

def continuesField (line : Line) : Bool := line.head?.any isBlank

def trimBlank (chars : Line) : Line := (chars.dropWhile isBlank).rdropWhile isBlank

/-- A header: its first line, and the lines that continue it. -/
abbrev Field := Line × List Line

def Field.name (field : Field) : Line := toAsciiLowercase (trimBlank (field.1.takeWhile (· != ':')))

def Field.value (field : Field) : Line := (field.1.dropWhile (· != ':')).tail ++ field.2.flatMap (' ' :: ·)

structure Request where
  method : Line
  target : Line
  version : Line
  fields : List Field
  deriving DecidableEq, Repr

/-- Lines as headers, if none continues what is not there and each has a name. -/
def receiveFields (lines : List Line) : Option (List Field) :=
  if (gather continuesField lines).1.isEmpty && (gather continuesField lines).2.all (·.1.contains ':') then
    some (gather continuesField lines).2
  else none

/-- A request head, up to the first empty line, and the lines behind it. -/
def receive : List Line → Option (Request × List Line)
  | [] => none
  | first :: rest =>
    match first.splitOn ' ', rest.dropWhile (!·.isEmpty) with
    | [method, target, version], _ :: behind =>
      (receiveFields (rest.takeWhile (!·.isEmpty))).map fun fields => (⟨method, target, version, fields⟩, behind)
    | _, _ => none

def receiveHead (head : List UInt8) : Option (Request × List Line) :=
  (Encoding.fromUtf8 head).bind fun text => receive (splitLf text.toList)

theorem receiveFields_eq_some_iff {lines : List Line} {fields : List Field} : receiveFields lines = some fields ↔
    gather continuesField lines = ([], fields) ∧ ∀ field ∈ fields, ':' ∈ field.1 := by
  unfold receiveFields
  rw [Option.ite_none_right_eq_some, Bool.and_eq_true, List.isEmpty_iff, List.all_eq_true, Option.some.injEq, Prod.ext_iff]
  constructor
  · rintro ⟨⟨start, named⟩, rfl⟩
    exact ⟨⟨start, rfl⟩, fun field member => by simpa using named field member⟩
  · rintro ⟨⟨start, rfl⟩, named⟩
    exact ⟨⟨start, fun field member => by simpa using named field member⟩, rfl⟩

/-- An empty line is no header. -/
theorem receiveFields_filled {lines : List Line} {fields : List Field} (received : receiveFields lines = some fields) :
    ∀ line ∈ lines, (!line.isEmpty) = true := by
  intro line member
  obtain ⟨gathered, named⟩ := receiveFields_eq_some_iff.mp received
  cases line with
  | nil =>
    -- It continues no line, and as a header it would have a colon.
    rcases @mem_gather Line continuesField [] lines member with follows | ⟨more, inFields⟩
    · cases follows
    · rw [gathered] at inFields
      cases named _ inFields
  | cons c rest => rfl

theorem receive_eq_some_iff {lines behind : List Line} {request : Request} : receive lines = some (request, behind) ↔
    ∃ first front, lines = first :: (front ++ [] :: behind) ∧
      first.splitOn ' ' = [request.method, request.target, request.version] ∧ receiveFields front = some request.fields := by
  constructor
  · intro received
    cases lines with
    | nil => cases received
    | cons first rest =>
      rw [receive] at received
      split at received
      · rename_i method target version line back split ended
        obtain ⟨fields, inFront, same⟩ := Option.map_eq_some_iff.mp received
        cases same
        -- The first line that is not taken is an empty one.
        have empty : line = [] := by
          have last := List.head?_dropWhile_not (fun line : Line => !line.isEmpty) rest
          rw [ended] at last
          simpa using last
        refine ⟨first, rest.takeWhile (!·.isEmpty), ?_, split, inFront⟩
        rw [← empty, ← ended, List.takeWhile_append_dropWhile]
      · cases received
  · rintro ⟨first, front, rfl, split, inFront⟩
    have filled := receiveFields_filled inFront
    have taken : (front ++ [] :: behind).takeWhile (!·.isEmpty) = front := by
      rw [List.takeWhile_append_of_pos filled, List.takeWhile_cons_of_neg (by simp), List.append_nil]
    have dropped : (front ++ [] :: behind).dropWhile (!·.isEmpty) = [] :: behind := by
      rw [List.dropWhile_append_of_pos filled, List.dropWhile_cons_of_neg (by simp)]
    rw [receive, split, taken, dropped]
    simp only [inFront, Option.map_some]

end Skimasque.Cli
