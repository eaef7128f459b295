import Mathlib.Data.List.AList
import Skimasque.Core.Datagram
import Skimasque.Library.Interrupted
import Skimasque.Library.Text

/-! The virtual machine that the release agent keeps on the promoted release: its files, and its service. -/

set_option autoImplicit false

namespace Skimasque.Deploy
open Library Library.Interrupted Skimasque.Core

/-! ## Text, as Python takes it -/

/-- `str.isspace`: White_Space, and the four separators of ASCII. -/
def isSpace (c : Char) : Bool := Text.isWhitespace c || (0x1c ≤ c.toNat && c.toNat ≤ 0x1f)

def strip (text : String) : String := Text.trimWhile isSpace text

/-- `str.split()`. -/
def words (text : String) : List String :=
  ((text.toList.splitOnP isSpace).filter fun word => !word.isEmpty).map String.ofList

/-- `"\n".join(lines)`, with a line break after the last. -/
def unlines (lines : List String) : String := String.join (lines.map (· ++ "\n"))

def isVersionChar (c : Char) : Bool := Text.isAsciiAlphanumeric c || c == '.' || c == '_' || c == '-'

/-- `VERSION_RE`: never `..`, never a separator. -/
def isVersion (text : String) : Bool :=
  match text.toList with
  | [] => false
  | first :: rest => Text.isAsciiAlphanumeric first && decide (rest.length ≤ 63) && rest.all isVersionChar

/-! ## The machine -/

inductive TextFile where
  | bad
  | previous
  | verified
  | secrets
  deriving DecidableEq, Repr

structure Directory where
  files : List (String × Bytes)
  mtime : Nat
  deriving DecidableEq, Repr

/-- What the service was started from, and how many changes had been made by then. -/
structure Process where
  release : Option String
  secrets : Option String
  since : Nat
  deriving DecidableEq, Repr

/-- A binary and the checksum the release source has for it, found to agree. -/
structure Check where
  version : String
  binary : Bytes
  checksum : String
  deriving DecidableEq, Repr

structure Machine where
  /-- The entries of the releases directory. -/
  releases : AList fun _ : String => Directory
  /-- What the links `current` and `.current.new` lead to. -/
  current : Option (List String)
  currentNew : Option (List String)
  text : TextFile → Option String
  process : Option Process
  now : Nat
  /-- How often `current` or the secrets file has changed. -/
  changes : Nat
  checks : List Check
  /-- Each version put into the releases directory, with what was listed bad then. -/
  installs : List (String × List String)
  /-- The releases whose process has answered a probe well. -/
  seen : List String
  /-- The releases `verified` has named. -/
  trusted : List String

/-- A virtual machine on which the agent has not run yet. -/
def Machine.blank : Machine where
  releases := ∅
  current := none
  currentNew := none
  text _ := none
  process := none
  now := 0
  changes := 0
  checks := []
  installs := []
  seen := []
  trusted := []

namespace Machine

def currentVersion (m : Machine) : Option String := m.current.bind List.getLast?

def readBad (m : Machine) : List String :=
  match m.text .bad with
  | none => []
  | some text => words text

/-- A one-line state file. -/
def readState (m : Machine) (file : TextFile) : Option String :=
  match m.text file with
  | none => none
  | some text => if strip text = "" then none else some (strip text)

def write (m : Machine) (file : TextFile) (content : String) : Machine :=
  { m with
    text := Function.update m.text file (some content)
    changes := if file = .secrets then m.changes + 1 else m.changes
    trusted := if file = .verified then strip content :: m.trusted else m.trusted }

def setDirectory (m : Machine) (name : String) (files : List (String × Bytes)) : Machine :=
  { m with releases := m.releases.insert name ⟨files, m.now⟩ }

def removeDirectory (m : Machine) (name : String) : Machine := { m with releases := m.releases.erase name }

/-- `os.replace` of a staged release. -/
def moveInto (m : Machine) (staging version : String) : Machine :=
  match m.releases.lookup staging with
  | none => m
  | some dir =>
    { m with
      releases := (m.releases.erase staging).insert version dir
      installs := (version, m.readBad) :: m.installs }

def setNew (m : Machine) (target : Option (List String)) : Machine := { m with currentNew := target }

def repoint (m : Machine) : Machine :=
  { m with current := m.currentNew, currentNew := none, changes := m.changes + 1 }

/-- The service starts anew, from the files as they are. -/
def start (m : Machine) : Machine :=
  { m with process := some ⟨m.currentVersion, m.text .secrets, m.changes⟩ }

def stopped (m : Machine) : Machine := { m with process := none }

/-- A probe of the running process answers well. -/
def see (m : Machine) : Machine := { m with seen := (m.process.bind Process.release).toList ++ m.seen }

end Machine

end Skimasque.Deploy
