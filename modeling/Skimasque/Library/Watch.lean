import Mathlib.Tactic.Common

/-! A watch cell: one shared value, of which a receiver sees the latest and whether it is new. -/

set_option autoImplicit false

namespace Skimasque.Library.Watch

structure Cell (α : Type) where
  value : α
  version : Nat
  closed : Bool
  deriving Repr

/-- The version a receiver has seen. -/
structure Receiver where
  seen : Nat
  deriving DecidableEq, Repr

inductive Changed where
  | ready
  | closed
  | pending
  deriving DecidableEq, Repr

variable {α : Type}

def channel (value : α) : Cell α := ⟨value, 0, false⟩

namespace Cell

def subscribe (cell : Cell α) : Receiver := ⟨cell.version⟩

/-- `modify` returns the next value and whether receivers are to be told of it. -/
def sendIfModified (cell : Cell α) (modify : α → α × Bool) : Cell α :=
  let (value, modified) := modify cell.value
  { cell with value, version := if modified then cell.version + 1 else cell.version }

def borrowAndUpdate (cell : Cell α) (_ : Receiver) : α × Receiver := (cell.value, ⟨cell.version⟩)

/-- One poll for a version not seen yet, which it marks as seen. -/
def changed (cell : Cell α) (receiver : Receiver) : Changed × Receiver :=
  if receiver.seen ≠ cell.version then (.ready, ⟨cell.version⟩)
  else if cell.closed then (.closed, receiver)
  else (.pending, receiver)

end Cell

end Skimasque.Library.Watch
