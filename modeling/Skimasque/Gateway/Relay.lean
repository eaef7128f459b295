import Skimasque.Core.Datagram
import Skimasque.Gateway.Request
import Skimasque.Library.Transition

/-! The two relays: payloads between a tunnel and its target, with the transfer ceiling and the tenant's meter.

Each relay is one task. Its events are what its awaits return, in any order the two ends, the clock and
the owner of the task may bring about.
-/

set_option autoImplicit false

namespace Skimasque.Gateway.Relay
open Library Library.Transition Engine Skimasque.Core

/-! ## The books of a relay -/

inductive Direction where
  | toTarget
  | toClient
  deriving DecidableEq, Repr

/-- The byte counters of a tenant's meter, which wrap. -/
structure TunnelMeter where
  bytesToTarget : UInt64
  bytesToClient : UInt64
  deriving DecidableEq, Repr

def countRelayed (direction : Direction) (bytes : UInt64) (meter : TunnelMeter) : TunnelMeter :=
  match direction with
  | .toTarget => { meter with bytesToTarget := meter.bytesToTarget + bytes }
  | .toClient => { meter with bytesToClient := meter.bytesToClient + bytes }

def maxU64 : Nat := 2 ^ 64 - 1

def saturatingAdd (moved : UInt64) (n : Nat) : UInt64 := UInt64.ofNat (min (moved.toNat + n) maxU64)

/-- The total after `n` more bytes, and whether it has reached the ceiling. -/
def transferExceeded (moved : UInt64) (n : Nat) (cap : Option UInt64) : UInt64 × Bool :=
  let moved := saturatingAdd moved n
  (moved, cap.any (· ≤ moved))

/-- What became of a payload the relay took. -/
inductive Outcome where
  | written
  /-- A reply that could not be sent. -/
  | dropped
  /-- A write that failed, which ends the relay. -/
  | failed
  /-- Of an unknown context, or malformed. -/
  | ignored
  deriving DecidableEq, Repr

structure Chunk where
  direction : Direction
  payload : Bytes
  outcome : Outcome
  deriving DecidableEq, Repr

structure Ledger where
  moved : UInt64
  meter : Option TunnelMeter
  /-- Every payload so far, in order. -/
  log : List Chunk
  deriving DecidableEq, Repr

def Ledger.new (meter : Option TunnelMeter) : Ledger := ⟨0, meter, []⟩

def Ledger.note (ledger : Ledger) (chunk : Chunk) : Ledger := { ledger with log := ledger.log ++ [chunk] }

/-- Meter a payload that was written, add it to the total either way, and say whether that is the ceiling. -/
def Ledger.settle (ledger : Ledger) (cap : Option UInt64) (direction : Direction) (payload : Bytes) (written : Bool) :
    Ledger × Bool :=
  let meter := if written then ledger.meter.map (countRelayed direction (UInt64.ofNat payload.length)) else ledger.meter
  let (moved, exceeded) := transferExceeded ledger.moved payload.length cap
  let outcome := if written then .written else .dropped
  ({ moved, meter, log := ledger.log ++ [⟨direction, payload, outcome⟩] }, exceeded)

/-! ## Datagrams -/

namespace Udp

/-- Where the task is. It can be dropped wherever it awaits, which is everywhere but in `replying`. -/
inductive Phase where
  /-- Made, not yet polled. -/
  | made
  | selecting
  /-- Waiting for as many limiters. -/
  | pacing (direction : Direction) (payload : Bytes) (waits : Nat)
  | sending (payload : Bytes)
  | replying (payload : Bytes)
  | closed
  deriving DecidableEq, Repr

structure State where
  phase : Phase
  ledger : Ledger
  deriving DecidableEq, Repr

inductive Event where
  /-- The first poll, which spawns the reader of the request stream. -/
  | polled
  | inbound (payload : Bytes)
  | inboundClosed
  | received (payload : Bytes)
  | receiveFailed
  | paced
  | sent (ok : Bool)
  | replied (ok : Bool)
  | readerDone
  | idle
  /-- The future is dropped by its owner. -/
  | dropped
  deriving DecidableEq, Repr

def waits (limits : TunnelLimits) : Nat := limits.bandwidth.isSome.toNat + limits.packetRate.isSome.toNat

def afterPacing (direction : Direction) (payload : Bytes) : Phase :=
  match direction with
  | .toTarget => .sending payload
  | .toClient => .replying payload

/-- Every limiter that is set is waited for in turn. -/
def pace (direction : Direction) (payload : Bytes) : Nat → Phase
  | 0 => afterPacing direction payload
  | waits + 1 => .pacing direction payload (waits + 1)

def settled (state : State) (limits : TunnelLimits) (direction : Direction) (payload : Bytes) (written : Bool) : State :=
  let (ledger, exceeded) := state.ledger.settle limits.totalBytes direction payload written
  ⟨if exceeded then .closed else .selecting, ledger⟩

def step (limits : TunnelLimits) (idle : Option Duration) (state : State) : Event → Option State
  | .polled => if state.phase = .made then some { state with phase := .selecting } else none
  | .inbound payload =>
    if state.phase = .selecting then
      match decodePayload payload with
      | .ok (.udpPayload payload) => some { state with phase := pace .toTarget payload (waits limits) }
      -- Dropped, and never a failure of the tunnel.
      | .ok (.unknownContext _ _) | .error _ =>
        some { state with ledger := state.ledger.note ⟨.toTarget, payload, .ignored⟩ }
    else none
  | .received payload =>
    if state.phase = .selecting then some { state with phase := pace .toClient payload (waits limits) } else none
  | .paced =>
    match state.phase with
    | .pacing direction payload (waits + 1) => some { state with phase := pace direction payload waits }
    | _ => none
  | .sent ok =>
    match state.phase with
    | .sending payload =>
      if ok then some (settled state limits .toTarget payload true)
      else some ⟨.closed, state.ledger.note ⟨.toTarget, payload, .failed⟩⟩
    | _ => none
  | .replied ok =>
    match state.phase with
    | .replying payload => some (settled state limits .toClient payload ok)
    | _ => none
  | .inboundClosed | .receiveFailed | .readerDone =>
    if state.phase = .selecting then some { state with phase := .closed } else none
  | .idle => if state.phase = .selecting ∧ idle.isSome then some { state with phase := .closed } else none
  | .dropped =>
    match state.phase with
    | .replying _ | .closed => none
    | _ => some { state with phase := .closed }

def start (meter : Option TunnelMeter) : State := ⟨.made, .new meter⟩

end Udp

/-! ## Byte streams -/

namespace Tcp

def tcpRelayBuffer : Nat := 64 * 1024

/-- Where the task is. `left` is how much of a payload in hand is not yet written. -/
inductive Phase where
  | selecting
  | pacing (direction : Direction) (payload : Bytes)
  | writing (payload : Bytes) (left : Nat)
  | sending (payload : Bytes) (left : Nat)
  | shutting
  | finishing
  | closed
  deriving DecidableEq, Repr

structure State where
  phase : Phase
  clientDone : Bool
  targetDone : Bool
  ledger : Ledger
  deriving DecidableEq, Repr

inductive Event where
  | chunk (payload : Bytes)
  | clientFin
  | clientFailed
  | read (payload : Bytes)
  | targetEof
  | readFailed
  | paced
  /-- The target's socket took as many bytes. -/
  | wrote (n : Nat)
  | writeFailed
  /-- The client's stream took as many bytes. -/
  | sent (n : Nat)
  | sendFailed
  | shut
  | finished
  | idle
  | dropped
  deriving DecidableEq, Repr

/-- The loop goes on until both ends are done. -/
def loopHead (clientDone targetDone : Bool) : Phase := if clientDone && targetDone then .closed else .selecting

def afterPacing (direction : Direction) (payload : Bytes) : Phase :=
  match direction with
  | .toTarget => .writing payload payload.length
  | .toClient => .sending payload payload.length

def pace (limits : TunnelLimits) (direction : Direction) (payload : Bytes) : Phase :=
  if limits.bandwidth.isSome then .pacing direction payload else afterPacing direction payload

def settled (state : State) (limits : TunnelLimits) (direction : Direction) (payload : Bytes) : State :=
  let (ledger, exceeded) := state.ledger.settle limits.totalBytes direction payload true
  { state with phase := if exceeded then .closed else loopHead state.clientDone state.targetDone, ledger }

def fail (state : State) (direction : Direction) (payload : Bytes) : State :=
  { state with phase := .closed, ledger := state.ledger.note ⟨direction, payload, .failed⟩ }

/-- `n` of the `left` bytes are taken: at least one, unless there is nothing to take. -/
def advances (n left : Nat) : Prop := n ≤ left ∧ (n = 0 → left = 0)

instance (n left : Nat) : Decidable (advances n left) := inferInstanceAs (Decidable (_ ∧ _))

def step (limits : TunnelLimits) (idle : Option Duration) (state : State) : Event → Option State
  | .chunk payload =>
    if state.phase = .selecting ∧ state.clientDone = false then
      some { state with phase := pace limits .toTarget payload }
    else none
  | .clientFin =>
    if state.phase = .selecting ∧ state.clientDone = false then
      some { state with phase := .shutting, clientDone := true }
    else none
  | .clientFailed =>
    if state.phase = .selecting ∧ state.clientDone = false then some { state with phase := .closed } else none
  | .read payload =>
    if state.phase = .selecting ∧ state.targetDone = false ∧ payload ≠ [] ∧ payload.length ≤ tcpRelayBuffer then
      some { state with phase := pace limits .toClient payload }
    else none
  | .targetEof =>
    if state.phase = .selecting ∧ state.targetDone = false then
      some { state with phase := .finishing, targetDone := true }
    else none
  | .readFailed =>
    if state.phase = .selecting ∧ state.targetDone = false then some { state with phase := .closed } else none
  | .paced =>
    match state.phase with
    | .pacing direction payload => some { state with phase := afterPacing direction payload }
    | _ => none
  | .wrote n =>
    match state.phase with
    | .writing payload left =>
      if advances n left then
        if n = left then some (settled state limits .toTarget payload)
        else some { state with phase := .writing payload (left - n) }
      else none
    | _ => none
  | .sent n =>
    match state.phase with
    | .sending payload left =>
      if advances n left then
        if n = left then some (settled state limits .toClient payload)
        else some { state with phase := .sending payload (left - n) }
      else none
    | _ => none
  | .writeFailed =>
    match state.phase with
    | .writing payload _ => some (fail state .toTarget payload)
    | _ => none
  | .sendFailed =>
    match state.phase with
    | .sending payload _ => some (fail state .toClient payload)
    | _ => none
  | .shut =>
    if state.phase = .shutting then some { state with phase := loopHead state.clientDone state.targetDone } else none
  | .finished =>
    if state.phase = .finishing then some { state with phase := loopHead state.clientDone state.targetDone } else none
  | .idle => if state.phase = .selecting ∧ idle.isSome then some { state with phase := .closed } else none
  | .dropped => if state.phase = .closed then none else some { state with phase := .closed }

def start (meter : Option TunnelMeter) : State := ⟨.selecting, false, false, .new meter⟩

end Tcp

/-! ## The ceiling and the meter -/

/-- The sizes of the payloads that were handled: written, or dropped as a reply. -/
def Ledger.handled (ledger : Ledger) : List Nat :=
  (ledger.log.filter fun chunk => chunk.outcome == .written || chunk.outcome == .dropped).map (·.payload.length)

/-- The sizes of the payloads that were written in a direction. -/
def Ledger.written (ledger : Ledger) (direction : Direction) : List Nat :=
  (ledger.log.filter fun chunk => chunk.outcome == .written && chunk.direction == direction).map (·.payload.length)

/-- The books agree with the log: the total counts what was handled and does not wrap, the meter what was written;
before the last payload the total was below the ceiling; and while the relay is open it still is. -/
structure Accounted (cap : Option UInt64) (meter : Option TunnelMeter) (isOpen : Bool) (ledger : Ledger) : Prop where
  total : ledger.moved.toNat = min ledger.handled.sum maxU64
  metered : ledger.meter = meter.map fun meter =>
    ⟨meter.bytesToTarget + UInt64.ofNat (ledger.written .toTarget).sum,
      meter.bytesToClient + UInt64.ofNat (ledger.written .toClient).sum⟩
  before : ∀ limit, cap = some limit → 0 < limit → ledger.handled.dropLast.sum < limit.toNat
  below : ∀ limit, cap = some limit → isOpen = true → ledger.handled = [] ∨ ledger.handled.sum < limit.toNat

section
variable {cap : Option UInt64} {meter : Option TunnelMeter} {isOpen : Bool} {ledger : Ledger}

theorem Accounted.close (accounted : Accounted cap meter isOpen ledger) : Accounted cap meter false ledger :=
  ⟨accounted.total, accounted.metered, accounted.before, fun _ _ isOpen => nomatch isOpen⟩

theorem handled_note {chunk : Chunk} (unhandled : chunk.outcome = .failed ∨ chunk.outcome = .ignored) :
    (ledger.note chunk).handled = ledger.handled := by
  rcases unhandled with outcome | outcome <;> simp [Ledger.handled, Ledger.note, outcome]

theorem written_note {chunk : Chunk} (unhandled : chunk.outcome = .failed ∨ chunk.outcome = .ignored)
    (direction : Direction) : (ledger.note chunk).written direction = ledger.written direction := by
  rcases unhandled with outcome | outcome <;> simp [Ledger.written, Ledger.note, outcome]

theorem Accounted.note (accounted : Accounted cap meter isOpen ledger) {chunk : Chunk}
    (unhandled : chunk.outcome = .failed ∨ chunk.outcome = .ignored) :
    Accounted cap meter isOpen (ledger.note chunk) := by
  refine ⟨?_, ?_, ?_, ?_⟩
  · rw [handled_note unhandled]
    exact accounted.total
  · rw [written_note unhandled, written_note unhandled]
    exact accounted.metered
  · rw [handled_note unhandled]
    exact accounted.before
  · rw [handled_note unhandled]
    exact accounted.below

variable {direction : Direction} {payload : Bytes} {written : Bool}

theorem handled_settle :
    (ledger.settle cap direction payload written).1.handled = ledger.handled ++ [payload.length] := by
  cases written with
  | false => simp [Ledger.settle, Ledger.handled]
  | true => simp [Ledger.settle, Ledger.handled]

theorem written_settle (other : Direction) :
    (ledger.settle cap direction payload written).1.written other =
      ledger.written other ++ (if written && direction == other then [payload.length] else []) := by
  cases written with
  | false => simp [Ledger.settle, Ledger.written]
  | true =>
    by_cases same : direction = other
    · simp [Ledger.settle, Ledger.written, same]
    · simp [Ledger.settle, Ledger.written, same]

/-- The total is that of the sizes, up to the largest number there is. -/
theorem saturatingAdd_toNat {moved : UInt64} {sum n : Nat} (total : moved.toNat = min sum maxU64) :
    (saturatingAdd moved n).toNat = min (sum + n) maxU64 := by
  unfold saturatingAdd
  rw [UInt64.toNat_ofNat_of_lt' (by simp only [UInt64.size, maxU64]; omega), total]
  unfold maxU64
  omega

/-- The ceiling is reached when the sizes add up to it. -/
theorem exceeded_iff (total : ledger.moved.toNat = min ledger.handled.sum maxU64) :
    (ledger.settle cap direction payload written).2 = true ↔
      ∃ limit, cap = some limit ∧ limit.toNat ≤ ledger.handled.sum + payload.length := by
  simp only [Ledger.settle, transferExceeded, Option.any_eq_true, decide_eq_true_eq, UInt64.le_iff_toNat_le,
    saturatingAdd_toNat total]
  refine exists_congr fun limit => and_congr_right fun _ => ?_
  have bound := limit.toNat_lt
  unfold maxU64
  omega

theorem Accounted.settle (accounted : Accounted cap meter true ledger) :
    Accounted cap meter (!(ledger.settle cap direction payload written).2)
      (ledger.settle cap direction payload written).1 := by
  refine ⟨?_, ?_, ?_, ?_⟩
  · rw [handled_settle, List.sum_append, List.sum_singleton]
    exact saturatingAdd_toNat accounted.total
  · rw [written_settle, written_settle]
    simp only [Ledger.settle, accounted.metered]
    cases meter with
    | none => cases written <;> rfl
    | some meter =>
      cases written with
      | false => simp
      | true => cases direction <;> simp [countRelayed, UInt64.ofNat_add, UInt64.add_assoc]
  · intro limit capped positive
    rw [handled_settle, List.dropLast_concat]
    rcases accounted.below limit capped rfl with none | below
    · rw [none]
      exact UInt64.lt_iff_toNat_lt.mp positive
    · exact below
  · intro limit capped isOpen
    rw [handled_settle, List.sum_append, List.sum_singleton]
    right
    by_contra reached
    have exceeded : (ledger.settle cap direction payload written).2 = true :=
      (exceeded_iff accounted.total).mpr ⟨limit, capped, by omega⟩
    simp [exceeded] at isOpen

/-- What one step does to the books: nothing, or a line in the log, or a payload settled; and whether the relay is open
after it. -/
inductive Effect (cap : Option UInt64) (ledger : Ledger) : Bool → Ledger → Prop
  | kept (isOpen : Bool) : Effect cap ledger isOpen ledger
  | noted (chunk : Chunk) (unhandled : chunk.outcome = .failed ∨ chunk.outcome = .ignored) (isOpen : Bool) :
    Effect cap ledger isOpen (ledger.note chunk)
  | settled (direction : Direction) (payload : Bytes) (written isOpen : Bool)
    (closes : isOpen = true → (ledger.settle cap direction payload written).2 = false) :
    Effect cap ledger isOpen (ledger.settle cap direction payload written).1

theorem Effect.accounted {after : Ledger} (effect : Effect cap ledger isOpen after)
    (accounted : Accounted cap meter true ledger) : Accounted cap meter isOpen after := by
  cases effect with
  | kept =>
    cases isOpen with
    | true => exact accounted
    | false => exact accounted.close
  | noted chunk unhandled =>
    cases isOpen with
    | true => exact accounted.note unhandled
    | false => exact (accounted.note unhandled).close
  | settled direction payload written _ closes =>
    have settled : Accounted cap meter _ (ledger.settle cap direction payload written).1 := accounted.settle
    cases isOpen with
    | true => rwa [closes rfl] at settled
    | false => exact settled.close

end

namespace Udp

variable {limits : TunnelLimits} {idle : Option Duration} {state after : State} {event : Event}

def State.isOpen (state : State) : Bool := state.phase ≠ .closed

theorem settled_effect (direction : Direction) (payload : Bytes) (written : Bool) :
    Effect limits.totalBytes state.ledger (settled state limits direction payload written).isOpen
      (settled state limits direction payload written).ledger := by
  refine .settled direction payload written _ fun isOpen => ?_
  by_contra exceeded
  simp [settled, State.isOpen, exceeded] at isOpen

theorem step_effect (stepped : step limits idle state event = some after) :
    Effect limits.totalBytes state.ledger after.isOpen after.ledger := by
  cases event with
  | inbound payload =>
    simp only [step] at stepped
    split at stepped
    · split at stepped <;> cases stepped
      · exact .kept _
      · exact .noted _ (.inr rfl) _
      · exact .noted _ (.inr rfl) _
    · cases stepped
  | sent ok =>
    simp only [step] at stepped
    split at stepped
    · rename_i payload _
      split at stepped <;> cases stepped
      · exact settled_effect .toTarget payload true
      · exact .noted _ (.inl rfl) _
    · cases stepped
  | replied ok =>
    simp only [step] at stepped
    split at stepped
    · rename_i payload _
      cases stepped
      exact settled_effect .toClient payload ok
    · cases stepped
  | paced | dropped =>
    simp only [step] at stepped
    split at stepped <;> cases stepped
    exact .kept _
  | polled | received | inboundClosed | receiveFailed | readerDone | idle =>
    simp only [step, Option.ite_none_right_eq_some] at stepped
    cases stepped.2
    exact .kept _

end Udp

namespace Tcp

variable {limits : TunnelLimits} {idle : Option Duration} {state after : State} {event : Event}

def State.isOpen (state : State) : Bool := state.phase ≠ .closed

theorem settled_effect (direction : Direction) (payload : Bytes) :
    Effect limits.totalBytes state.ledger (settled state limits direction payload).isOpen
      (settled state limits direction payload).ledger := by
  refine .settled direction payload true _ fun isOpen => ?_
  by_contra exceeded
  simp [settled, State.isOpen, exceeded] at isOpen

theorem step_effect (stepped : step limits idle state event = some after) :
    Effect limits.totalBytes state.ledger after.isOpen after.ledger := by
  cases event with
  | wrote n | sent n =>
    simp only [step] at stepped
    split at stepped
    · rename_i payload left _
      split at stepped
      · split at stepped <;> cases stepped
        · exact settled_effect _ payload
        · exact .kept _
      · cases stepped
    · cases stepped
  | writeFailed | sendFailed =>
    simp only [step] at stepped
    split at stepped <;> cases stepped
    exact .noted _ (.inl rfl) _
  | paced | dropped =>
    simp only [step] at stepped
    split at stepped <;> cases stepped
    exact .kept _
  | chunk | clientFin | clientFailed | read | targetEof | readFailed | shut | finished | idle =>
    simp only [step, Option.ite_none_right_eq_some] at stepped
    cases stepped.2
    exact .kept _

end Tcp

end Skimasque.Gateway.Relay
