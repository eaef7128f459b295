import Skimasque.Library.Transition

/-! A TCP connection of the userspace stack: the application's stream and the stack's socket hand each other bytes through
two buffers, and either side waits for the other.

The socket itself is smoltcp's. What a round of the runner asks of it comes with the round.
-/

set_option autoImplicit false

namespace Skimasque.Native.TcpStream
open Library Library.Transition

inductive TcpSocketState where
  | normal
  | close
  | closing
  | closed
  deriving DecidableEq, Repr

/-- A task that can be woken; two wakers that `will_wake` each other are one. -/
abbrev Waker := Nat

structure TcpSocketControl where
  sendBuffer : List UInt8 := []
  sendWaker : Option Waker := none
  recvBuffer : List UInt8 := []
  recvWaker : Option Waker := none
  recvState : TcpSocketState := .normal
  sendState : TcpSocketState := .normal
  deriving DecidableEq, Repr

/-- The sizes of the two buffers. -/
structure Sizes where
  send : Nat
  recv : Nat

/-- `old_waker.wake()`, unless it is the one that takes its place. -/
def replaced (old : Option Waker) (waker : Waker) : List Waker :=
  old.toList.filter (· ≠ waker)

/-! ## The stream -/

inductive ReadAnswer where
  | pending
  /-- No bytes for a buffer that has room are the end of the stream. -/
  | ready (bytes : List UInt8)
  deriving DecidableEq, Repr

inductive WriteAnswer where
  | pending
  | brokenPipe
  | ready (count : Nat)
  deriving DecidableEq, Repr

inductive ShutdownAnswer where
  | pending
  | ready
  deriving DecidableEq, Repr

/-- A poll's answer, what it leaves, and whom it wakes. -/
structure Polled (α : Type) where
  answer : α
  control : TcpSocketControl
  wakes : List Waker
  deriving DecidableEq, Repr

def pollRead (control : TcpSocketControl) (waker : Waker) (len : Nat) : Polled ReadAnswer :=
  if control.recvBuffer = [] then
    if control.recvState = .closed then ⟨.ready [], control, []⟩
    else ⟨.pending, { control with recvWaker := some waker }, replaced control.recvWaker waker⟩
  else ⟨.ready (control.recvBuffer.take len), { control with recvBuffer := control.recvBuffer.drop len }, []⟩

def pollWrite (sizes : Sizes) (control : TcpSocketControl) (waker : Waker) (buf : List UInt8) : Polled WriteAnswer :=
  if control.sendState ≠ .normal then ⟨.brokenPipe, control, []⟩
  else if sizes.send ≤ control.sendBuffer.length then
    ⟨.pending, { control with sendWaker := some waker }, replaced control.sendWaker waker⟩
  else
    let count := min buf.length (sizes.send - control.sendBuffer.length)
    ⟨.ready count, { control with sendBuffer := control.sendBuffer ++ buf.take count }, []⟩

def pollShutdown (control : TcpSocketControl) (waker : Waker) : Polled ShutdownAnswer :=
  if control.sendState = .closing ∨ control.sendState = .closed then ⟨.ready, control, []⟩
  else
    let sendState := if control.sendState = .normal then .close else control.sendState
    ⟨.pending, { control with sendState, sendWaker := some waker }, replaced control.sendWaker waker⟩

/-- `Drop for TcpStream`. -/
def dropped (control : TcpSocketControl) : TcpSocketControl :=
  { control with
    recvState := if control.recvState = .normal then .close else control.recvState
    sendState := if control.sendState = .normal then .close else control.sendState }

/-! ## The runner -/

/-- What is seen of the socket: what it received and was not asked for yet, all that it was given to send, and how it was
ended. -/
structure Socket where
  rx : List UInt8 := []
  tx : List UInt8 := []
  /-- The remote end has sent its FIN: the socket has left the states that `handle_socket` lists. -/
  peerFinished : Bool := false
  /-- `close()` was called, so that a FIN follows what was given. -/
  finished : Bool := false
  aborted : Bool := false
  /-- It is still in the set of sockets. -/
  present : Bool := true
  deriving DecidableEq, Repr

structure Round where
  /-- The state is `Closed` once the interface was polled. -/
  closed : Bool
  /-- `recv` fails after so many bytes. -/
  recvFault : Option Nat
  /-- What the transmit buffer takes; nothing where `can_send` is false. -/
  room : Nat
  sendFault : Option Nat
  deriving DecidableEq, Repr

/-- How many bytes a loop moves that ends after `most`, and whether it fails before. -/
def moved (most : Nat) : Option Nat → Nat × Bool
  | some fault => if fault < most then (fault, true) else (most, false)
  | none => (most, false)

structure State where
  control : TcpSocketControl := {}
  socket : Socket := {}
  /-- The bytes that `poll_write` has accepted. -/
  written : List UInt8 := []
  /-- The bytes that the socket has received. -/
  received : List UInt8 := []
  /-- The bytes that `poll_read` has answered with. -/
  delivered : List UInt8 := []
  /-- The stream has been dropped. -/
  gone : Bool := false
  woken : List Waker := []
  deriving DecidableEq, Repr

/-- The socket is closed: both halves are, and whoever waits is woken. -/
def remove (state : State) : State :=
  { state with
    control := { state.control with
      sendState := .closed, recvState := .closed, sendWaker := none, recvWaker := none }
    socket := { state.socket with present := false }
    woken := state.woken ++ state.control.sendWaker.toList ++ state.control.recvWaker.toList }

/-- The write half is closed once its buffer has been drained. -/
def finish (state : State) : State :=
  if state.control.sendState = .close ∧ state.control.sendBuffer = [] then
    { state with
      control := { state.control with sendState := .closing, sendWaker := none }
      socket := { state.socket with finished := true }
      woken := state.woken ++ state.control.sendWaker.toList }
  else state

/-- `if wake_receiver`. -/
def wakeReceiver (wake : Bool) (state : State) : State :=
  if wake then
    { state with
      control := { state.control with recvWaker := none }
      woken := state.woken ++ state.control.recvWaker.toList }
  else state

def wakeSender (wake : Bool) (state : State) : State :=
  if wake then
    { state with
      control := { state.control with sendWaker := none }
      woken := state.woken ++ state.control.sendWaker.toList }
  else state

/-- `while socket.can_recv() && !recv_buffer.is_full()`, and the end of the receive half. -/
def pull (sizes : Sizes) (fault : Option Nat) (state : State) : State :=
  let (count, failed) := moved (min state.socket.rx.length (sizes.recv - state.control.recvBuffer.length)) fault
  let rx := state.socket.rx.drop count
  -- A failed `recv` aborts the socket; it is removed by the next round.
  let afterLoop := if failed ∧ state.control.recvState = .normal then .closed else state.control.recvState
  let ended := afterLoop = .normal ∧ state.socket.peerFinished ∧ rx = []
  wakeReceiver (count ≠ 0 ∨ failed ∨ ended)
    { state with
      control := { state.control with
        recvBuffer := state.control.recvBuffer ++ state.socket.rx.take count
        recvState := if ended then .closed else afterLoop }
      socket := { state.socket with rx, aborted := state.socket.aborted || failed } }

/-- `while socket.can_send() && !send_buffer.is_empty()`. -/
def push (room : Nat) (fault : Option Nat) (state : State) : State :=
  let (count, failed) := moved (min state.control.sendBuffer.length room) fault
  wakeSender (count ≠ 0 ∨ failed)
    { state with
      control := { state.control with
        sendBuffer := state.control.sendBuffer.drop count
        sendState := if failed ∧ state.control.sendState = .normal then .closed else state.control.sendState }
      socket := { state.socket with
        tx := state.socket.tx ++ state.control.sendBuffer.take count
        aborted := state.socket.aborted || failed } }

/-- What a round of `handle_socket` does with one socket. -/
def serve (sizes : Sizes) (round : Round) (state : State) : State :=
  -- An aborted socket is closed at once.
  if round.closed ∨ state.socket.aborted ∨ state.control.recvState = .close then
    remove { state with socket := { state.socket with aborted := state.socket.aborted || state.control.recvState = .close } }
  else
    let state := pull sizes round.recvFault (finish state)
    push (if state.socket.aborted ∨ state.socket.finished then 0 else round.room) round.sendFault state

/-! ## A connection -/

inductive Event where
  | read (waker : Waker) (len : Nat)
  | write (waker : Waker) (buf : List UInt8)
  | shutdown (waker : Waker)
  | dropped
  | arrived (bytes : List UInt8)
  | peerFinished
  | round (round : Round)
  deriving DecidableEq, Repr

def Polled.keep {α : Type} (polled : Polled α) (state : State) : State :=
  { state with control := polled.control, woken := state.woken ++ polled.wakes }

def step (sizes : Sizes) (state : State) : Event → Option State
  | .read waker len =>
    let polled := pollRead state.control waker len
    let bytes := match polled.answer with
      | .ready bytes => bytes
      | .pending => []
    if state.gone then none else some { polled.keep state with delivered := state.delivered ++ bytes }
  | .write waker buf =>
    let polled := pollWrite sizes state.control waker buf
    let count := match polled.answer with
      | .ready count => count
      | _ => 0
    if state.gone then none else some { polled.keep state with written := state.written ++ buf.take count }
  | .shutdown waker => if state.gone then none else some ((pollShutdown state.control waker).keep state)
  | .dropped => if state.gone then none else some { state with control := dropped state.control, gone := true }
  | .arrived bytes =>
    if state.socket.present ∧ ¬state.socket.peerFinished ∧ ¬state.socket.aborted then
      some { state with
        socket := { state.socket with rx := state.socket.rx ++ bytes }
        received := state.received ++ bytes }
    else none
  | .peerFinished =>
    if state.socket.present then some { state with socket := { state.socket with peerFinished := true } } else none
  | .round round => if state.socket.present then some (serve sizes round state) else none

def start : State := {}

/-! ## What a part of a round does -/

theorem moved_le (most : Nat) (fault : Option Nat) : (moved most fault).1 ≤ most := by
  cases fault with
  | none => exact Nat.le_refl most
  | some fault =>
    simp only [moved]
    split <;> omega

/-- Where something can be moved, either something is or the socket fails. -/
theorem moved_some {most : Nat} (fault : Option Nat) (some_left : 0 < most) :
    (moved most fault).1 ≠ 0 ∨ (moved most fault).2 = true := by
  cases fault with
  | none => exact Or.inl (Nat.ne_of_gt some_left)
  | some fault =>
    simp only [moved]
    split
    · exact Or.inr rfl
    · exact Or.inl (Nat.ne_of_gt some_left)

@[simp] theorem moved_zero (fault : Option Nat) : moved 0 fault = (0, false) := by
  cases fault <;> rfl

theorem moved_none (most : Nat) : moved most none = (most, false) := rfl

section Wakes
variable (wake : Bool) (state : State)

@[simp] theorem wakeReceiver_socket : (wakeReceiver wake state).socket = state.socket := by
  cases wake <;> rfl
@[simp] theorem wakeReceiver_written : (wakeReceiver wake state).written = state.written := by
  cases wake <;> rfl
@[simp] theorem wakeReceiver_received : (wakeReceiver wake state).received = state.received := by
  cases wake <;> rfl
@[simp] theorem wakeReceiver_delivered : (wakeReceiver wake state).delivered = state.delivered := by
  cases wake <;> rfl
@[simp] theorem wakeReceiver_gone : (wakeReceiver wake state).gone = state.gone := by
  cases wake <;> rfl
@[simp] theorem wakeReceiver_sendBuffer :
    (wakeReceiver wake state).control.sendBuffer = state.control.sendBuffer := by
  cases wake <;> rfl
@[simp] theorem wakeReceiver_recvBuffer :
    (wakeReceiver wake state).control.recvBuffer = state.control.recvBuffer := by
  cases wake <;> rfl
@[simp] theorem wakeReceiver_sendState :
    (wakeReceiver wake state).control.sendState = state.control.sendState := by
  cases wake <;> rfl
@[simp] theorem wakeReceiver_recvState :
    (wakeReceiver wake state).control.recvState = state.control.recvState := by
  cases wake <;> rfl
@[simp] theorem wakeReceiver_sendWaker :
    (wakeReceiver wake state).control.sendWaker = state.control.sendWaker := by
  cases wake <;> rfl
theorem wakeReceiver_recvWaker :
    (wakeReceiver wake state).control.recvWaker = if wake then none else state.control.recvWaker := by
  cases wake <;> rfl

@[simp] theorem wakeSender_socket : (wakeSender wake state).socket = state.socket := by
  cases wake <;> rfl
@[simp] theorem wakeSender_written : (wakeSender wake state).written = state.written := by
  cases wake <;> rfl
@[simp] theorem wakeSender_received : (wakeSender wake state).received = state.received := by
  cases wake <;> rfl
@[simp] theorem wakeSender_delivered : (wakeSender wake state).delivered = state.delivered := by
  cases wake <;> rfl
@[simp] theorem wakeSender_gone : (wakeSender wake state).gone = state.gone := by
  cases wake <;> rfl
@[simp] theorem wakeSender_sendBuffer :
    (wakeSender wake state).control.sendBuffer = state.control.sendBuffer := by
  cases wake <;> rfl
@[simp] theorem wakeSender_recvBuffer :
    (wakeSender wake state).control.recvBuffer = state.control.recvBuffer := by
  cases wake <;> rfl
@[simp] theorem wakeSender_sendState :
    (wakeSender wake state).control.sendState = state.control.sendState := by
  cases wake <;> rfl
@[simp] theorem wakeSender_recvState :
    (wakeSender wake state).control.recvState = state.control.recvState := by
  cases wake <;> rfl
@[simp] theorem wakeSender_recvWaker :
    (wakeSender wake state).control.recvWaker = state.control.recvWaker := by
  cases wake <;> rfl
theorem wakeSender_sendWaker :
    (wakeSender wake state).control.sendWaker = if wake then none else state.control.sendWaker := by
  cases wake <;> rfl

end Wakes

/-! ## The bytes -/

/-- Every byte taken from the writer is in the socket or in the send buffer, and every byte received was read or waits to be,
each in order. -/
structure Kept (sizes : Sizes) (state : State) : Prop where
  outgoing : state.socket.tx ++ state.control.sendBuffer = state.written
  incoming : state.delivered ++ state.control.recvBuffer ++ state.socket.rx = state.received
  sendBound : state.control.sendBuffer.length ≤ sizes.send
  recvBound : state.control.recvBuffer.length ≤ sizes.recv
  drained : state.socket.finished = true → state.control.sendBuffer = []
  refusing : state.socket.finished = true → state.control.sendState = .closing ∨ state.control.sendState = .closed
  shut : state.control.sendState = .closing ∨ state.control.sendState = .closed →
    state.socket.finished = true ∨ state.socket.aborted = true ∨ state.socket.present = false
  heard : state.control.recvState = .closed →
    (state.socket.rx = [] ∧ state.socket.peerFinished = true) ∨ state.socket.aborted = true ∨ state.socket.present = false

section Bytes
variable {sizes : Sizes} {state : State}

theorem start_kept : Kept sizes start := by
  constructor <;> simp [start]

theorem remove_kept (kept : Kept sizes state) : Kept sizes (remove state) where
  outgoing := kept.outgoing
  incoming := kept.incoming
  sendBound := kept.sendBound
  recvBound := kept.recvBound
  drained := kept.drained
  refusing _ := Or.inr rfl
  shut _ := Or.inr (Or.inr rfl)
  heard _ := Or.inr (Or.inr rfl)

theorem finish_kept (kept : Kept sizes state) : Kept sizes (finish state) := by
  unfold finish
  split
  next closing =>
    exact { kept with
      drained := fun _ => closing.2
      refusing := fun _ => Or.inl rfl
      shut := fun _ => Or.inl rfl }
  next => exact kept

theorem pull_kept (kept : Kept sizes state) (fault : Option Nat) : Kept sizes (pull sizes fault state) := by
  have most := moved_le (min state.socket.rx.length (sizes.recv - state.control.recvBuffer.length)) fault
  unfold pull
  generalize moved _ fault = result at most ⊢
  obtain ⟨count, failed⟩ := result
  simp only at most ⊢
  constructor <;> simp only [wakeReceiver_socket, wakeReceiver_written, wakeReceiver_received, wakeReceiver_delivered,
    wakeReceiver_sendBuffer, wakeReceiver_recvBuffer, wakeReceiver_sendState, wakeReceiver_recvState]
  case outgoing => exact kept.outgoing
  case incoming => simpa using kept.incoming
  case sendBound => exact kept.sendBound
  case recvBound =>
    have := kept.recvBound
    simp only [List.length_append, List.length_take]
    omega
  case drained => exact kept.drained
  case refusing => exact kept.refusing
  case shut =>
    intro closed
    rcases kept.shut closed with finished | aborted | removed
    · exact Or.inl finished
    · simp [aborted]
    · exact Or.inr (Or.inr removed)
  case heard =>
    intro closed
    have before := kept.heard
    cases failed <;> grind

theorem push_kept (kept : Kept sizes state) (room : Nat) (fault : Option Nat) (shut : state.socket.finished = true → room = 0) :
    Kept sizes (push room fault state) := by
  unfold push
  generalize result_eq : moved _ fault = result
  obtain ⟨count, failed⟩ := result
  have still : state.socket.finished = true → failed = false := by
    intro finished
    rw [shut finished, Nat.min_zero, moved_zero] at result_eq
    simp_all
  simp only
  constructor <;> simp only [wakeSender_socket, wakeSender_written, wakeSender_received, wakeSender_delivered,
    wakeSender_sendBuffer, wakeSender_recvBuffer, wakeSender_sendState, wakeSender_recvState]
  case outgoing => simpa using kept.outgoing
  case incoming => exact kept.incoming
  case sendBound =>
    have := kept.sendBound
    simp only [List.length_drop]
    omega
  case recvBound => exact kept.recvBound
  case drained =>
    intro finished
    simp [kept.drained finished]
  case refusing =>
    intro finished
    simpa [still finished] using kept.refusing finished
  case shut =>
    intro closed
    have before := kept.shut
    cases failed <;> grind
  case heard =>
    intro closed
    rcases kept.heard closed with silent | aborted | removed
    · exact Or.inl silent
    · simp [aborted]
    · exact Or.inr (Or.inr removed)

theorem serve_kept (kept : Kept sizes state) (round : Round) : Kept sizes (serve sizes round state) := by
  unfold serve
  split
  · apply remove_kept
    exact { kept with
      shut := fun closed => by
        rcases kept.shut closed with finished | aborted | removed
        · exact Or.inl finished
        · simp [aborted]
        · exact Or.inr (Or.inr removed)
      heard := fun closed => by
        rcases kept.heard closed with silent | aborted | removed
        · exact Or.inl silent
        · simp [aborted]
        · exact Or.inr (Or.inr removed) }
  · apply push_kept (pull_kept (finish_kept kept) round.recvFault)
    intro finished
    simp [finished]

theorem read_kept (kept : Kept sizes state) (waker : Waker) (len : Nat) {state' : State}
    (stepped : step sizes state (.read waker len) = some state') : Kept sizes state' := by
  simp only [step, pollRead, Option.ite_none_left_eq_some, Option.some.injEq] at stepped
  obtain ⟨-, rfl⟩ := stepped
  have incoming := kept.incoming
  have recvBound := kept.recvBound
  split
  · split
    · exact { kept with incoming := by simpa [Polled.keep] using incoming }
    · exact { kept with incoming := by simpa [Polled.keep] using incoming }
  · exact { kept with
      incoming := by simpa [Polled.keep, List.append_assoc] using incoming
      recvBound := by
        simp only [Polled.keep, List.length_drop]
        omega }

theorem write_kept (kept : Kept sizes state) (waker : Waker) (buf : List UInt8) {state' : State}
    (stepped : step sizes state (.write waker buf) = some state') : Kept sizes state' := by
  simp only [step, pollWrite, Option.ite_none_left_eq_some, Option.some.injEq] at stepped
  obtain ⟨-, rfl⟩ := stepped
  have outgoing := kept.outgoing
  split
  next => exact { kept with outgoing := by simpa [Polled.keep] using outgoing }
  next normal =>
    have accepting : state.socket.finished ≠ true := by
      intro finished
      have := kept.refusing finished
      simp_all
    split
    next => exact { kept with outgoing := by simpa [Polled.keep] using outgoing }
    next =>
      exact { kept with
        outgoing := by simp [Polled.keep, ← outgoing]
        sendBound := by
          simp only [Polled.keep, List.length_append, List.length_take]
          omega
        drained := fun finished => absurd finished accepting }

theorem shutdown_kept (kept : Kept sizes state) (waker : Waker) {state' : State}
    (stepped : step sizes state (.shutdown waker) = some state') : Kept sizes state' := by
  simp only [step, pollShutdown, Option.ite_none_left_eq_some, Option.some.injEq] at stepped
  obtain ⟨-, rfl⟩ := stepped
  have refusing := kept.refusing
  have shut := kept.shut
  split
  · exact { kept with }
  · exact { kept with
      refusing := by simp only [Polled.keep]; grind
      shut := by simp only [Polled.keep]; grind }

theorem step_kept (kept : Kept sizes state) {event : Event} {state' : State}
    (stepped : step sizes state event = some state') : Kept sizes state' := by
  cases event with
  | read waker len => exact read_kept kept waker len stepped
  | write waker buf => exact write_kept kept waker buf stepped
  | shutdown waker => exact shutdown_kept kept waker stepped
  | dropped =>
    simp only [step, Option.ite_none_left_eq_some, Option.some.injEq] at stepped
    obtain ⟨-, rfl⟩ := stepped
    have refusing := kept.refusing
    have shut := kept.shut
    have heard := kept.heard
    exact { kept with
      refusing := by simp only [dropped]; grind
      shut := by simp only [dropped]; grind
      heard := by simp only [dropped]; grind }
  | arrived bytes =>
    simp only [step, Option.ite_none_right_eq_some, Option.some.injEq] at stepped
    obtain ⟨⟨present, unfinished, working⟩, rfl⟩ := stepped
    exact { kept with
      incoming := by simp [← kept.incoming]
      heard := fun closed => by
        have := kept.heard closed
        simp_all }
  | peerFinished =>
    simp only [step, Option.ite_none_right_eq_some, Option.some.injEq] at stepped
    obtain ⟨-, rfl⟩ := stepped
    exact { kept with
      heard := fun closed => (kept.heard closed).imp (fun silent => ⟨silent.1, rfl⟩) id }
  | round round =>
    simp only [step, Option.ite_none_right_eq_some, Option.some.injEq] at stepped
    obtain ⟨-, rfl⟩ := stepped
    exact serve_kept kept round

theorem run_kept {events : List Event} (ran : run (step sizes) start events = some state) : Kept sizes state :=
  run_invariant (Kept sizes) (fun _ _ _ kept stepped => step_kept kept stepped) start_kept ran

/-- A stream that answers the end of the stream has handed out all that the socket had received, and a `shutdown` that
returns has sent all that was written, unless the socket was aborted or is gone. -/
theorem connection_keeps_bytes {events : List Event} (ran : run (step sizes) start events = some state) :
    state.socket.tx ++ state.control.sendBuffer = state.written ∧
    state.delivered ++ state.control.recvBuffer ++ state.socket.rx = state.received ∧
    state.control.sendBuffer.length ≤ sizes.send ∧ state.control.recvBuffer.length ≤ sizes.recv ∧
    (state.socket.finished = true → state.socket.tx = state.written) ∧
    (∀ waker, (pollShutdown state.control waker).answer = .ready →
      state.socket.tx = state.written ∨ state.socket.aborted = true ∨ state.socket.present = false) ∧
    ∀ waker len, 0 < len → (pollRead state.control waker len).answer = .ready [] →
      state.delivered ++ state.socket.rx = state.received ∧
        (state.socket.rx = [] ∧ state.socket.peerFinished = true ∨ state.socket.aborted = true ∨
          state.socket.present = false) := by
  have kept := run_kept ran
  have sent : state.socket.finished = true → state.socket.tx = state.written := by
    intro finished
    rw [← kept.outgoing, kept.drained finished, List.append_nil]
  refine ⟨kept.outgoing, kept.incoming, kept.sendBound, kept.recvBound, sent, ?_, ?_⟩
  · intro waker answered
    have closed : state.control.sendState = .closing ∨ state.control.sendState = .closed := by
      by_contra accepting
      simp [pollShutdown, accepting] at answered
    rcases kept.shut closed with finished | ended
    · exact Or.inl (sent finished)
    · exact Or.inr ended
  · intro waker len room answered
    have silent : state.control.recvBuffer = [] ∧ state.control.recvState = .closed := by
      unfold pollRead at answered
      split at answered
      next empty =>
        split at answered
        next closed => exact ⟨empty, closed⟩
        next => cases answered
      next held =>
        rcases List.take_eq_nil_iff.mp (ReadAnswer.ready.inj answered) with no_room | empty
        · exact absurd no_room (Nat.ne_of_gt room)
        · exact absurd empty held
    have incoming := kept.incoming
    rw [silent.1, List.append_nil] at incoming
    exact ⟨incoming, kept.heard silent.2⟩

/-- A peer that sends two bytes and its end, a reader that takes them one at a time, a writer that shuts down. -/
def exchange : List Event :=
  [.arrived [1, 2], .write 7 [3], .shutdown 7, .peerFinished, .round ⟨false, none, 0, none⟩, .read 7 1,
    .round ⟨false, none, 4, none⟩, .read 7 1, .round ⟨false, none, 4, none⟩]

theorem connection_keeps_bytes_exchange :
    ∃ state, run (step ⟨1, 1⟩) start exchange = some state ∧ state.socket.tx = [3] ∧ state.delivered = [1, 2] ∧
      state.socket.rx = [] ∧ state.socket.peerFinished = true := by
  have ran : ∃ state, run (step ⟨1, 1⟩) start exchange = some state ∧ state.socket.finished = true ∧
      state.control.recvBuffer = [] ∧ state.control.recvState = .closed ∧ state.written = [3] ∧
      state.received = [1, 2] ∧ state.socket.aborted = false ∧ state.socket.present = true :=
    ⟨_, rfl, rfl, rfl, rfl, rfl, rfl, rfl, rfl⟩
  obtain ⟨state, ran, finished, empty, closed, written, received, working, present⟩ := ran
  obtain ⟨-, -, -, -, sent, -, ended⟩ := connection_keeps_bytes ran
  have read := ended 7 1 (by decide) (by simp [pollRead, empty, closed])
  have silent : state.socket.rx = [] ∧ state.socket.peerFinished = true := by
    simpa [working, present] using read.2
  refine ⟨state, ran, (sent finished).trans written, ?_, silent⟩
  have all := read.1
  rwa [silent.1, List.append_nil, received] at all

end Bytes

/-! ## Who waits -/

/-- A task is parked only where it has something to wait for. -/
structure Parked (sizes : Sizes) (state : State) : Prop where
  reader : state.control.recvWaker ≠ none → state.control.recvBuffer = [] ∧ state.control.recvState ≠ .closed
  sender : state.control.sendWaker ≠ none →
    (state.control.sendState = .normal ∧ sizes.send ≤ state.control.sendBuffer.length) ∨ state.control.sendState = .close
  leaving : state.control.recvState = .close → state.gone = true
  left : state.gone = true → state.control.recvState ≠ .normal
  -- Only the write half is closed in two steps.
  atOnce : state.control.recvState ≠ .closing

section Waiting
variable {sizes : Sizes} {state : State}

theorem start_parked : Parked sizes start := by
  constructor <;> simp [start]

theorem finish_parked (parked : Parked sizes state) : Parked sizes (finish state) := by
  unfold finish
  split
  next => exact { parked with sender := fun waits => absurd rfl waits }
  next => exact parked

theorem pull_parked (parked : Parked sizes state) (fault : Option Nat) : Parked sizes (pull sizes fault state) := by
  unfold pull
  generalize moved _ fault = result
  obtain ⟨count, failed⟩ := result
  simp only
  constructor <;> simp only [wakeReceiver_recvWaker, wakeReceiver_sendWaker, wakeReceiver_gone, wakeReceiver_sendBuffer,
    wakeReceiver_recvBuffer, wakeReceiver_sendState, wakeReceiver_recvState]
  case sender => exact parked.sender
  case reader =>
    intro waits
    have reader := parked.reader
    cases failed <;> grind
  case leaving =>
    intro closes
    apply parked.leaving
    cases failed <;> grind
  case left =>
    intro gone
    have left := parked.left gone
    cases failed <;> grind
  case atOnce =>
    have atOnce := parked.atOnce
    cases failed <;> grind

theorem push_parked (parked : Parked sizes state) (room : Nat) (fault : Option Nat) : Parked sizes (push room fault state) := by
  unfold push
  generalize moved _ fault = result
  obtain ⟨count, failed⟩ := result
  simp only
  constructor <;> simp only [wakeSender_recvWaker, wakeSender_sendWaker, wakeSender_gone, wakeSender_sendBuffer,
    wakeSender_recvBuffer, wakeSender_sendState, wakeSender_recvState]
  case reader => exact parked.reader
  case leaving => exact parked.leaving
  case left => exact parked.left
  case atOnce => exact parked.atOnce
  case sender =>
    intro waits
    have sender := parked.sender
    cases failed <;> grind

theorem serve_parked (parked : Parked sizes state) (round : Round) : Parked sizes (serve sizes round state) := by
  unfold serve
  split
  · constructor <;> simp [remove]
  · exact push_parked (pull_parked (finish_parked parked) _) _ _

theorem step_parked (parked : Parked sizes state) {event : Event} {state' : State}
    (stepped : step sizes state event = some state') : Parked sizes state' := by
  cases event with
  | read waker len =>
    simp only [step, Option.ite_none_left_eq_some, Option.some.injEq] at stepped
    obtain ⟨-, rfl⟩ := stepped
    unfold pollRead
    split
    · rename_i empty
      split
      · exact { parked with }
      · rename_i running
        exact { parked with reader := fun _ => ⟨empty, running⟩ }
    · rename_i filled
      exact { parked with reader := fun waits => absurd (parked.reader waits).1 filled }
  | write waker buf =>
    simp only [step, Option.ite_none_left_eq_some, Option.some.injEq] at stepped
    obtain ⟨-, rfl⟩ := stepped
    unfold pollWrite
    split
    · exact { parked with }
    · rename_i normal
      rw [ne_eq, not_not] at normal
      split
      · rename_i full
        exact { parked with sender := fun _ => .inl ⟨normal, full⟩ }
      · rename_i space
        refine { parked with sender := fun waits => ?_ }
        obtain ⟨_, full⟩ | closes := parked.sender waits
        · exact absurd full space
        · rw [normal] at closes
          cases closes
  | shutdown waker =>
    simp only [step, Option.ite_none_left_eq_some, Option.some.injEq] at stepped
    obtain ⟨-, rfl⟩ := stepped
    unfold pollShutdown
    split
    · exact { parked with }
    · rename_i running
      refine { parked with sender := fun _ => .inr ?_ }
      cases sends : state.control.sendState <;> simp_all [Polled.keep]
  | dropped =>
    have reader := parked.reader
    have sender := parked.sender
    have leaving := parked.leaving
    have left := parked.left
    have atOnce := parked.atOnce
    simp only [step, Option.ite_none_left_eq_some, Option.some.injEq] at stepped
    obtain ⟨-, rfl⟩ := stepped
    constructor <;> simp only [dropped] <;> grind
  | arrived bytes =>
    simp only [step, Option.ite_none_right_eq_some, Option.some.injEq] at stepped
    obtain ⟨-, rfl⟩ := stepped
    exact { parked with }
  | peerFinished =>
    simp only [step, Option.ite_none_right_eq_some, Option.some.injEq] at stepped
    obtain ⟨-, rfl⟩ := stepped
    exact { parked with }
  | round round =>
    simp only [step, Option.ite_none_right_eq_some, Option.some.injEq] at stepped
    obtain ⟨-, rfl⟩ := stepped
    exact serve_parked parked round

theorem run_parked {events : List Event} (ran : run (step sizes) start events = some state) : Parked sizes state :=
  run_invariant (Parked sizes) (fun _ _ _ parked stepped => step_parked parked stepped) start_parked ran

section Finish

@[simp] theorem finish_rx : (finish state).socket.rx = state.socket.rx := by
  unfold finish; split <;> rfl
@[simp] theorem finish_peerFinished : (finish state).socket.peerFinished = state.socket.peerFinished := by
  unfold finish; split <;> rfl
@[simp] theorem finish_aborted : (finish state).socket.aborted = state.socket.aborted := by
  unfold finish; split <;> rfl
@[simp] theorem finish_recvBuffer : (finish state).control.recvBuffer = state.control.recvBuffer := by
  unfold finish; split <;> rfl
@[simp] theorem finish_sendBuffer : (finish state).control.sendBuffer = state.control.sendBuffer := by
  unfold finish; split <;> rfl
@[simp] theorem finish_recvState : (finish state).control.recvState = state.control.recvState := by
  unfold finish; split <;> rfl
@[simp] theorem finish_recvWaker : (finish state).control.recvWaker = state.control.recvWaker := by
  unfold finish; split <;> rfl

end Finish

/-- The slot is emptied by waking whom it held, or another takes it after waking them. -/
structure Remembered (before after : State) : Prop where
  woken : before.woken <+: after.woken
  reader : ∀ waker, before.control.recvWaker = some waker →
    after.control.recvWaker = some waker ∨ waker ∈ after.woken.drop before.woken.length
  sender : ∀ waker, before.control.sendWaker = some waker →
    after.control.sendWaker = some waker ∨ waker ∈ after.woken.drop before.woken.length

theorem Remembered.refl : Remembered state state :=
  ⟨List.prefix_rfl, fun _ => Or.inl, fun _ => Or.inl⟩

theorem Remembered.trans {first second third : State} (one : Remembered first second) (two : Remembered second third) :
    Remembered first third := by
  have onwards {waker : Waker} : waker ∈ second.woken.drop first.woken.length ∨ waker ∈ third.woken.drop second.woken.length →
      waker ∈ third.woken.drop first.woken.length := by
    rintro (early | late)
    · obtain ⟨later, woken⟩ := two.woken
      rw [← woken, List.drop_append_of_le_length one.woken.length_le]
      exact List.mem_append_left _ early
    · exact List.drop_subset_drop_left third.woken one.woken.length_le late
  constructor
  · exact one.woken.trans two.woken
  · intro waker waits
    rcases one.reader waker waits with still | woken
    · exact (two.reader waker still).imp id fun woken => onwards (Or.inr woken)
    · exact Or.inr (onwards (Or.inl woken))
  · intro waker waits
    rcases one.sender waker waits with still | woken
    · exact (two.sender waker still).imp id fun woken => onwards (Or.inr woken)
    · exact Or.inr (onwards (Or.inl woken))

/-- A step that wakes `wakes` and leaves the two slots so. -/
theorem remembered_of_wakes {before after : State} (wakes : List Waker) (woken : after.woken = before.woken ++ wakes)
    (reader : ∀ waker, before.control.recvWaker = some waker → after.control.recvWaker = some waker ∨ waker ∈ wakes)
    (sender : ∀ waker, before.control.sendWaker = some waker → after.control.sendWaker = some waker ∨ waker ∈ wakes) :
    Remembered before after := by
  constructor
  · exact ⟨wakes, woken.symm⟩
  · simpa [woken] using reader
  · simpa [woken] using sender

theorem remove_remembered : Remembered state (remove state) := by
  apply remembered_of_wakes (state.control.sendWaker.toList ++ state.control.recvWaker.toList)
  · simp [remove]
  · intro waker waits
    simp [waits]
  · intro waker waits
    simp [waits]

theorem finish_remembered : Remembered state (finish state) := by
  unfold finish
  split
  · apply remembered_of_wakes state.control.sendWaker.toList
    · simp
    · intro waker waits
      exact Or.inl waits
    · intro waker waits
      simp [waits]
  · exact Remembered.refl

theorem wakeReceiver_remembered (wake : Bool) : Remembered state (wakeReceiver wake state) := by
  cases wake
  · exact Remembered.refl
  · apply remembered_of_wakes state.control.recvWaker.toList
    · simp [wakeReceiver]
    · intro waker waits
      simp [waits]
    · intro waker waits
      exact Or.inl waits

theorem wakeSender_remembered (wake : Bool) : Remembered state (wakeSender wake state) := by
  cases wake
  · exact Remembered.refl
  · apply remembered_of_wakes state.control.sendWaker.toList
    · simp [wakeSender]
    · intro waker waits
      exact Or.inl waits
    · intro waker waits
      simp [waits]

theorem remembered_of_same {before after : State} (woken : after.woken = before.woken)
    (reader : after.control.recvWaker = before.control.recvWaker)
    (sender : after.control.sendWaker = before.control.sendWaker) : Remembered before after := by
  apply remembered_of_wakes []
  · simp [woken]
  · intro waker waits
    exact Or.inl (reader.trans waits)
  · intro waker waits
    exact Or.inl (sender.trans waits)

theorem pull_remembered (fault : Option Nat) : Remembered state (pull sizes fault state) := by
  unfold pull
  apply Remembered.trans _ (wakeReceiver_remembered _)
  exact remembered_of_same rfl rfl rfl

theorem push_remembered (room : Nat) (fault : Option Nat) : Remembered state (push room fault state) := by
  unfold push
  apply Remembered.trans _ (wakeSender_remembered _)
  exact remembered_of_same rfl rfl rfl

theorem serve_remembered (round : Round) : Remembered state (serve sizes round state) := by
  unfold serve
  split
  · apply Remembered.trans _ remove_remembered
    exact remembered_of_same rfl rfl rfl
  · exact finish_remembered.trans ((pull_remembered _).trans (push_remembered _ _))

theorem replaced_remembers {old : Option Waker} {waker held : Waker} (waits : old = some held) :
    some waker = some held ∨ held ∈ replaced old waker := by
  by_cases same : waker = held
  · exact Or.inl (congrArg some same)
  · exact Or.inr (by simp [replaced, waits, Ne.symm same])

theorem step_remembered {event : Event} {state' : State} (stepped : step sizes state event = some state') :
    Remembered state state' := by
  cases event with
  | read waker len =>
    simp only [step, pollRead, Option.ite_none_left_eq_some, Option.some.injEq] at stepped
    obtain ⟨-, rfl⟩ := stepped
    split
    · split
      · exact remembered_of_same (by simp [Polled.keep]) rfl rfl
      · exact remembered_of_wakes _ rfl (fun _ => replaced_remembers) (fun _ => Or.inl)
    · exact remembered_of_same (by simp [Polled.keep]) rfl rfl
  | write waker buf =>
    simp only [step, pollWrite, Option.ite_none_left_eq_some, Option.some.injEq] at stepped
    obtain ⟨-, rfl⟩ := stepped
    split
    · exact remembered_of_same (by simp [Polled.keep]) rfl rfl
    · split
      · exact remembered_of_wakes _ rfl (fun _ => Or.inl) (fun _ => replaced_remembers)
      · exact remembered_of_same (by simp [Polled.keep]) rfl rfl
  | shutdown waker =>
    simp only [step, pollShutdown, Option.ite_none_left_eq_some, Option.some.injEq] at stepped
    obtain ⟨-, rfl⟩ := stepped
    split
    · exact remembered_of_same (by simp [Polled.keep]) rfl rfl
    · exact remembered_of_wakes _ rfl (fun _ => Or.inl) (fun _ => replaced_remembers)
  | dropped =>
    simp only [step, Option.ite_none_left_eq_some, Option.some.injEq] at stepped
    obtain ⟨-, rfl⟩ := stepped
    exact remembered_of_same rfl rfl rfl
  | arrived bytes =>
    simp only [step, Option.ite_none_right_eq_some, Option.some.injEq] at stepped
    obtain ⟨-, rfl⟩ := stepped
    exact remembered_of_same rfl rfl rfl
  | peerFinished =>
    simp only [step, Option.ite_none_right_eq_some, Option.some.injEq] at stepped
    obtain ⟨-, rfl⟩ := stepped
    exact remembered_of_same rfl rfl rfl
  | round round =>
    simp only [step, Option.ite_none_right_eq_some, Option.some.injEq] at stepped
    obtain ⟨-, rfl⟩ := stepped
    exact serve_remembered round

theorem run_remembered {state' : State} {events : List Event} (ran : run (step sizes) state events = some state') :
    Remembered state state' :=
  run_invariant (Remembered state) (fun _ _ _ before stepped => before.trans (step_remembered stepped)) Remembered.refl ran

theorem pull_recvWaker (fault : Option Nat) (waiting : state.control.recvBuffer = []) (normal : state.control.recvState = .normal)
    (room : 0 < sizes.recv) :
    (pull sizes fault state).control.recvWaker =
      if state.socket.rx ≠ [] ∨ state.socket.peerFinished = true then none else state.control.recvWaker := by
  simp only [pull, waiting, List.length_nil, Nat.sub_zero, wakeReceiver_recvWaker, normal]
  by_cases silent : state.socket.rx = []
  · simp [silent]
  · have some_left : 0 < min state.socket.rx.length sizes.recv :=
      Nat.lt_min.mpr ⟨List.length_pos_iff.mpr silent, room⟩
    have moves := moved_some fault some_left
    rw [if_pos, if_pos (Or.inl silent)]
    rcases moves with moves | fails
    · simp [moves]
    · simp [fails]

theorem pull_sendWaker (fault : Option Nat) : (pull sizes fault state).control.sendWaker = state.control.sendWaker :=
  wakeReceiver_sendWaker _ _

theorem push_recvWaker (room : Nat) (fault : Option Nat) :
    (push room fault state).control.recvWaker = state.control.recvWaker :=
  wakeSender_recvWaker _ _

theorem push_sendWaker {room : Nat} (fault : Option Nat) (takes : 0 < room) (held : state.control.sendBuffer ≠ []) :
    (push room fault state).control.sendWaker = none := by
  have moves := moved_some fault (Nat.lt_min.mpr ⟨List.length_pos_iff.mpr held, takes⟩)
  simp only [push, wakeSender_sendWaker]
  rw [if_pos]
  rcases moves with moves | fails
  · simp [moves]
  · simp [fails]

/-- A parked reader is woken by a round exactly if it has something to be told. -/
theorem serve_wakes_reader (parked : Parked sizes state) (round : Round) (room : 0 < sizes.recv)
    (waits : state.control.recvWaker ≠ none) :
    (serve sizes round state).control.recvWaker = none ↔ round.closed = true ∨ state.socket.aborted = true ∨
      state.gone = true ∨ state.socket.rx ≠ [] ∨ state.socket.peerFinished = true := by
  have waiting := parked.reader waits
  have normal_unless_gone : state.control.recvState = .normal ∧ state.gone = false ∨
      state.control.recvState = .close ∧ state.gone = true := by
    have leaving := parked.leaving
    have left := parked.left
    have atOnce := parked.atOnce
    cases recvs : state.control.recvState <;> simp_all
  unfold serve
  split
  next ends =>
    simp only [remove, true_iff]
    rcases ends with closed | aborted | closing
    · exact Or.inl closed
    · exact Or.inr (Or.inl aborted)
    · exact Or.inr (Or.inr (Or.inl (parked.leaving closing)))
  next goes =>
    rw [not_or, not_or] at goes
    have normal : state.control.recvState = .normal ∧ state.gone = false :=
      normal_unless_gone.resolve_right fun closing => goes.2.2 closing.1
    rw [push_recvWaker, pull_recvWaker round.recvFault (by simpa using waiting.1) (by simpa using normal.1) room]
    simp only [finish_rx, finish_peerFinished, finish_recvWaker, goes.1, goes.2.1, normal.2]
    by_cases told : state.socket.rx ≠ [] ∨ state.socket.peerFinished = true
    · simp [told]
    · simp [told, waits]

theorem finish_still (held : state.control.sendBuffer ≠ []) : finish state = state := by
  rw [finish, if_neg fun closing => held closing.2]

theorem finish_wakes (closing : state.control.sendState = .close ∧ state.control.sendBuffer = []) :
    (finish state).control.sendWaker = none := by
  rw [finish, if_pos closing]

theorem push_wakes_still {room : Nat} {fault : Option Nat} (woken : state.control.sendWaker = none) :
    (push room fault state).control.sendWaker = none := by
  simp [push, wakeSender_sendWaker, woken]

/-- A parked sender is woken by a round that removes the socket, finds its buffer drained, or sends. -/
theorem serve_wakes_sender (kept : Kept sizes state) (parked : Parked sizes state) (round : Round) (room : 0 < sizes.send)
    (waits : state.control.sendWaker ≠ none)
    (cause : round.closed = true ∨ state.socket.aborted = true ∨ state.control.recvState = .close ∨
      state.control.sendState = .close ∧ state.control.sendBuffer = [] ∨ 0 < round.room ∧ round.recvFault = none) :
    (serve sizes round state).control.sendWaker = none := by
  have waiting := parked.sender waits
  have unfinished : state.socket.finished = false := by
    by_contra finished
    have := kept.refusing (by simpa using finished)
    rcases waiting with ⟨normal, -⟩ | closing <;> simp_all
  unfold serve
  split
  next => rfl
  next goes =>
    rw [not_or, not_or] at goes
    by_cases drained : state.control.sendBuffer = []
    · have closing : state.control.sendState = .close := by
        rcases waiting with ⟨-, full⟩ | closing
        · rw [drained, List.length_nil] at full
          omega
        · exact closing
      apply push_wakes_still
      rw [pull_sendWaker]
      exact finish_wakes ⟨closing, drained⟩
    · have sends : 0 < round.room ∧ round.recvFault = none := by
        rcases cause with closed | aborted | left | finishes | sends
        · exact absurd closed goes.1
        · exact absurd aborted goes.2.1
        · exact absurd left goes.2.2
        · exact absurd finishes.2 drained
        · exact sends
      rw [finish_still drained, sends.2]
      apply push_sendWaker
      · simp [pull, moved_none, goes.2.1, unfinished, sends.1]
      · simpa [pull] using drained

/-- A task is parked only where it has something to wait for, it is taken out of its slot only by being woken, and a round
that has something to tell it wakes it. -/
theorem no_task_forgotten {sizes : Sizes} {earlier later : List Event} {middle state : State} (recvRoom : 0 < sizes.recv)
    (sendRoom : 0 < sizes.send) (ran : run (step sizes) start earlier = some middle)
    (onwards : run (step sizes) middle later = some state) :
    (∀ waker, middle.control.recvWaker = some waker →
      middle.control.recvBuffer = [] ∧ middle.control.recvState ≠ .closed ∧
      (state.control.recvWaker = some waker ∨ waker ∈ state.woken.drop middle.woken.length)) ∧
    (∀ waker, middle.control.sendWaker = some waker →
      (middle.control.sendState = .normal ∧ middle.control.sendBuffer.length = sizes.send ∨ middle.control.sendState = .close) ∧
      (state.control.sendWaker = some waker ∨ waker ∈ state.woken.drop middle.woken.length)) ∧
    ∀ round, (middle.control.recvWaker ≠ none →
        ((serve sizes round middle).control.recvWaker = none ↔ round.closed = true ∨ middle.socket.aborted = true ∨
          middle.gone = true ∨ middle.socket.rx ≠ [] ∨ middle.socket.peerFinished = true)) ∧
      (middle.control.sendWaker ≠ none →
        round.closed = true ∨ middle.socket.aborted = true ∨ middle.control.recvState = .close ∨
          middle.control.sendState = .close ∧ middle.control.sendBuffer = [] ∨ 0 < round.room ∧ round.recvFault = none →
        (serve sizes round middle).control.sendWaker = none) := by
  have kept := run_kept ran
  have parked := run_parked ran
  have remembered := run_remembered onwards
  refine ⟨?_, ?_, fun round => ⟨?_, ?_⟩⟩
  · intro waker waits
    have waiting := parked.reader (by simp [waits])
    exact ⟨waiting.1, waiting.2, remembered.reader waker waits⟩
  · intro waker waits
    have waiting := parked.sender (by simp [waits])
    have full {buffered : Nat} (most : buffered ≤ sizes.send) (least : sizes.send ≤ buffered) : buffered = sizes.send := by
      omega
    exact ⟨waiting.imp (fun normal => ⟨normal.1, full kept.sendBound normal.2⟩) id, remembered.sender waker waits⟩
  · exact serve_wakes_reader parked round recvRoom
  · exact serve_wakes_sender kept parked round sendRoom

/-- A reader that waits for the first byte, and a writer for whom there is no room. -/
theorem no_task_forgotten_exchange :
    ∃ middle state, run (step ⟨1, 1⟩) start [.read 7 1, .write 8 [3], .write 8 [4]] = some middle ∧
      run (step ⟨1, 1⟩) middle [.read 9 1] = some state ∧ 7 ∈ state.woken.drop middle.woken.length ∧
      state.control.sendWaker = some 8 ∧ (serve ⟨1, 1⟩ ⟨false, none, 1, none⟩ middle).control.sendWaker = none := by
  let events : List Event := [.read 7 1, .write 8 [3], .write 8 [4]]
  have ran : run (step ⟨1, 1⟩) start events =
      some { control := { sendBuffer := [3], sendWaker := some 8, recvWaker := some 7 }, written := [3] } := by
    simp [events, run, step, start, pollRead, pollWrite, Polled.keep, replaced]
  have onwards : run (step ⟨1, 1⟩)
      { control := { sendBuffer := [3], sendWaker := some 8, recvWaker := some 7 }, written := [3] } [.read 9 1] =
      some { control := { sendBuffer := [3], sendWaker := some 8, recvWaker := some 9 }, written := [3], woken := [7] } := by
    simp [run, step, pollRead, Polled.keep, replaced]
  obtain ⟨reader, sender, rounds⟩ := no_task_forgotten (by decide) (by decide) ran onwards
  refine ⟨_, _, ran, onwards, ?_, ?_, ?_⟩
  · exact (reader 7 rfl).2.2.resolve_left (by decide)
  · rfl
  · exact (rounds _).2 (by decide) (by decide)

end Waiting

end Skimasque.Native.TcpStream
