import Skimasque.Gateway.Relay
import Skimasque.Gateway.Stack

/-! What a tunnel holds, who holds it, and what is left of it once the call that serves it has returned.

Three owners hold things: the call itself, the future of the relay, and the task that reads the request
stream of a UDP tunnel. What an owner holds is dropped when the owner ends, and not before.
-/

set_option autoImplicit false

namespace Skimasque.Gateway.Teardown
open Library Library.Transition Engine Skimasque.Core Relay

inductive Resource where
  /-- The entry of the stream in the datagram router. -/
  | route
  | inbound
  /-- The socket to the target. -/
  | socket
  | sendHalf
  | recvHalf
  /-- A sender into the tunnel's queue. -/
  | sink
  | permit (permit : Permit)
  deriving DecidableEq, Repr

/-- What the holdings stand for outside of the tunnel. -/
structure Shared where
  /-- The streams that have an entry in the router. -/
  active : Finset UInt64
  socketOpen : Bool
  quota : Quota

/-- Aborting a task only marks it: the runtime drops it when it next comes to it. -/
inductive Reader where
  | unspawned
  | running
  | aborted
  | finished
  deriving DecidableEq, Repr

inductive Running where
  | udp (state : Udp.State)
  | tcp (state : Tcp.State)
  deriving DecidableEq, Repr

inductive Stage where
  /-- The success response is on its way. -/
  | responding
  | relaying (relay : Running)
  | returned
  deriving DecidableEq, Repr

structure State where
  stage : Stage
  call : List Resource
  future : List Resource
  task : List Resource
  reader : Reader
  shared : Shared

inductive Event where
  | responded (ok : Bool)
  | udp (event : Udp.Event)
  | tcp (event : Tcp.Event)
  /-- The session is revoked or its credential expires, and `until_ended` drops the relay. -/
  | ended
  /-- The reader returns: the stream has ended, or the queue is gone. -/
  | readerFinished
  /-- The runtime drops the aborted reader. -/
  | reaped
  deriving DecidableEq, Repr

structure Tunnel where
  streamId : UInt64
  accepted : Accepted
  idle : Option Duration
  meter : Option TunnelMeter

def drop (streamId : UInt64) (shared : Shared) : Resource → Shared
  | .route => { shared with active := shared.active.erase streamId }
  | .socket => { shared with socketOpen := false }
  | .permit permit => { shared with quota := shared.quota.release permit }
  | _ => shared

def dropAll (streamId : UInt64) (shared : Shared) (holdings : List Resource) : Shared :=
  holdings.foldl (drop streamId) shared

namespace Tunnel

def permits (tunnel : Tunnel) : List Resource := tunnel.accepted.guards.map .permit

/-- A UDP tunnel claims its route before it responds. -/
def start (tunnel : Tunnel) (shared : Shared) : State where
  stage := .responding
  call := match tunnel.accepted.kind with
    | .udp _ _ => tunnel.permits ++ [.socket, .sendHalf, .recvHalf, .route, .inbound]
    | .tcp _ _ => tunnel.permits ++ [.socket, .sendHalf, .recvHalf]
  future := []
  task := []
  reader := .unspawned
  shared := match tunnel.accepted.kind with
    | .udp _ _ => { shared with socketOpen := true, active := insert tunnel.streamId shared.active }
    | .tcp _ _ => { shared with socketOpen := true }

/-- The stream is split and the relay's future made, with what the relay takes. -/
def opened (tunnel : Tunnel) (state : State) : State :=
  match tunnel.accepted.kind with
  | .udp _ _ =>
    { state with
      stage := .relaying (.udp (Udp.start tunnel.meter))
      call := tunnel.permits ++ [.sendHalf]
      future := [.socket, .route, .inbound, .recvHalf] }
  | .tcp _ _ =>
    { state with
      stage := .relaying (.tcp (Tcp.start tunnel.meter))
      call := tunnel.permits
      future := [.socket, .sendHalf, .recvHalf] }

/-- The future goes, then the call: nothing is awaited from the one to the other. -/
def returns (tunnel : Tunnel) (state : State) : State :=
  { state with
    stage := .returned
    call := []
    future := []
    shared := dropAll tunnel.streamId (dropAll tunnel.streamId state.shared state.future) state.call }

/-- `reader.abort()`. -/
def abort (reader : Reader) : Reader := if reader = .running then .aborted else reader

def spawned (state : State) : State :=
  { state with future := state.future.erase .recvHalf, task := [.recvHalf, .sink], reader := .running }

def afterUdp (tunnel : Tunnel) (state : State) (event : Udp.Event) (relay : Udp.State) : State :=
  let state := if event = .polled then spawned state else state
  -- The end of the loop is followed by the abort; a future that is dropped does not get there.
  if relay.phase = .closed then tunnel.returns { state with reader := abort state.reader }
  else { state with stage := .relaying (.udp relay) }

def afterTcp (tunnel : Tunnel) (state : State) (relay : Tcp.State) : State :=
  if relay.phase = .closed then tunnel.returns state else { state with stage := .relaying (.tcp relay) }

def limits (tunnel : Tunnel) : TunnelLimits := tunnel.accepted.limits

def step (tunnel : Tunnel) (state : State) : Event → Option State
  | .responded ok =>
    match state.stage with
    | .responding => if ok then some (tunnel.opened state) else some (tunnel.returns state)
    | _ => none
  | .udp event =>
    match state.stage with
    | .relaying (.udp relay) =>
      if event ≠ .dropped ∧ (event = .readerDone → state.reader = .finished) then
        (Udp.step tunnel.limits tunnel.idle relay event).map (tunnel.afterUdp state event)
      else none
    | _ => none
  | .tcp event =>
    match state.stage with
    | .relaying (.tcp relay) =>
      if event ≠ .dropped then (Tcp.step tunnel.limits tunnel.idle relay event).map (tunnel.afterTcp state) else none
    | _ => none
  | .ended =>
    match state.stage with
    | .relaying (.udp relay) =>
      if tunnel.limits.tunnelEnd.isSome then
        (Udp.step tunnel.limits tunnel.idle relay .dropped).map fun _ => tunnel.returns state
      else none
    | .relaying (.tcp relay) =>
      if tunnel.limits.tunnelEnd.isSome then
        (Tcp.step tunnel.limits tunnel.idle relay .dropped).map fun _ => tunnel.returns state
      else none
    | _ => none
  | .readerFinished =>
    if state.reader = .running then
      some { state with
        reader := .finished, task := [], shared := dropAll tunnel.streamId state.shared state.task }
    else none
  | .reaped =>
    if state.reader = .aborted then
      some { state with
        reader := .finished, task := [], shared := dropAll tunnel.streamId state.shared state.task }
    else none

end Tunnel

/-! ## One step -/

/-- What an event can do to a tunnel. -/
inductive Moves (tunnel : Tunnel) (state : State) : Event → State → Prop where
  | responded (responding : state.stage = .responding) : Moves tunnel state (.responded true) (tunnel.opened state)
  | unanswered (responding : state.stage = .responding) : Moves tunnel state (.responded false) (tunnel.returns state)
  | udp (event : Udp.Event) (relay next : Udp.State) (relaying : state.stage = .relaying (.udp relay)) :
      Moves tunnel state (.udp event) (tunnel.afterUdp state event next)
  | tcp (event : Tcp.Event) (relay next : Tcp.State) (relaying : state.stage = .relaying (.tcp relay)) :
      Moves tunnel state (.tcp event) (tunnel.afterTcp state next)
  | ended (relay : Running) (relaying : state.stage = .relaying relay) : Moves tunnel state .ended (tunnel.returns state)
  | readerGone {event : Event} (reader : state.reader = .running ∨ state.reader = .aborted) :
      Moves tunnel state event
        { state with reader := .finished, task := [], shared := dropAll tunnel.streamId state.shared state.task }

/-- Outside nothing is left of the tunnel: no route, no socket, and every permit is back. -/
def Tunnel.returnedTo (tunnel : Tunnel) (outside : Shared) : Shared where
  active := outside.active
  socketOpen := false
  quota := tunnel.accepted.guards.foldl Quota.release outside.quota

/-- What the reader holds, which depends on how far it is alone. -/
def Reader.holdings : Reader → List Resource
  | .unspawned | .finished => []
  | .running | .aborted => [.recvHalf, .sink]

/-- A UDP tunnel from the split of its stream on. The future has the stream too until the reader gets it. -/
def Tunnel.udpState (tunnel : Tunnel) (outside : Shared) (stage : Stage) (stream : List Resource) (reader : Reader) :
    State where
  stage := stage
  call := tunnel.permits ++ [.sendHalf]
  future := [.socket, .route, .inbound] ++ stream
  task := reader.holdings
  reader := reader
  shared := (tunnel.start outside).shared

def Tunnel.tcpState (tunnel : Tunnel) (outside : Shared) (stage : Stage) : State where
  stage := stage
  call := tunnel.permits
  future := [.socket, .sendHalf, .recvHalf]
  task := []
  reader := .unspawned
  shared := (tunnel.start outside).shared

/-- After the call, with whatever the reader still holds. -/
def Tunnel.doneState (tunnel : Tunnel) (outside : Shared) (reader : Reader) : State where
  stage := .returned
  call := []
  future := []
  task := reader.holdings
  reader := reader
  shared := tunnel.returnedTo outside

inductive Sound (tunnel : Tunnel) (outside : Shared) : State → Prop
  | responding : Sound tunnel outside (tunnel.start outside)
  | udp (socket : Socket) (peer : Library.Address.SocketAddr) (kind : tunnel.accepted.kind = .udp socket peer)
    (relay : Udp.State) (reader : Reader) (stream : List Resource) (held : stream = [] ∨ stream = [.recvHalf]) :
    Sound tunnel outside (tunnel.udpState outside (.relaying (.udp relay)) stream reader)
  | tcp (socket : Socket) (peer : Library.Address.SocketAddr) (kind : tunnel.accepted.kind = .tcp socket peer)
    (relay : Tcp.State) : Sound tunnel outside (tunnel.tcpState outside (.relaying (.tcp relay)))
  | returned (reader : Reader) : Sound tunnel outside (tunnel.doneState outside reader)

section
variable {tunnel : Tunnel} {outside : Shared}

@[simp] theorem udpState_task (stage : Stage) (stream : List Resource) (reader : Reader) :
    (tunnel.udpState outside stage stream reader).task = reader.holdings := rfl

@[simp] theorem doneState_task (reader : Reader) : (tunnel.doneState outside reader).task = reader.holdings := rfl

theorem dropAll_append (streamId : UInt64) (shared : Shared) (first second : List Resource) :
    dropAll streamId shared (first ++ second) = dropAll streamId (dropAll streamId shared first) second :=
  List.foldl_append

theorem dropAll_permits (streamId : UInt64) (shared : Shared) (permits : List Permit) :
    dropAll streamId shared (permits.map .permit) =
      { shared with quota := permits.foldl Quota.release shared.quota } := by
  induction permits generalizing shared with
  | nil => rfl
  | cons permit rest ih => exact ih _

theorem dropAll_holdings (streamId : UInt64) (shared : Shared) (reader : Reader) :
    dropAll streamId shared reader.holdings = shared := by
  cases reader <;> rfl

section
variable {socket : Socket} {peer : Library.Address.SocketAddr}

theorem start_udp (kind : tunnel.accepted.kind = .udp socket peer) :
    (tunnel.start outside).shared = ⟨insert tunnel.streamId outside.active, true, outside.quota⟩ := by
  simp only [Tunnel.start, kind]

theorem start_tcp (kind : tunnel.accepted.kind = .tcp socket peer) :
    (tunnel.start outside).shared = ⟨outside.active, true, outside.quota⟩ := by
  simp only [Tunnel.start, kind]

/-- Whatever the split between them, the future and the call drop all that the tunnel had. -/
theorem returns_udp (fresh : tunnel.streamId ∉ outside.active) (kind : tunnel.accepted.kind = .udp socket peer)
    {stage : Stage} {stream : List Resource} (held : stream = [] ∨ stream = [.recvHalf]) (reader : Reader) :
    tunnel.returns (tunnel.udpState outside stage stream reader) = tunnel.doneState outside reader := by
  have permits := dropAll_permits tunnel.streamId ⟨outside.active, false, outside.quota⟩ tunnel.accepted.guards
  have back := Finset.erase_insert fresh
  rcases held with rfl | rfl
  · simpa [Tunnel.returns, Tunnel.udpState, start_udp kind, Tunnel.permits, Tunnel.doneState, Tunnel.returnedTo, dropAll,
      drop, back] using permits
  · simpa [Tunnel.returns, Tunnel.udpState, start_udp kind, Tunnel.permits, Tunnel.doneState, Tunnel.returnedTo, dropAll,
      drop, back] using permits

theorem returns_tcp (kind : tunnel.accepted.kind = .tcp socket peer) {stage : Stage} :
    tunnel.returns (tunnel.tcpState outside stage) = tunnel.doneState outside .unspawned := by
  have permits := dropAll_permits tunnel.streamId ⟨outside.active, false, outside.quota⟩ tunnel.accepted.guards
  simpa [Tunnel.returns, Tunnel.tcpState, start_tcp kind, Tunnel.permits, Tunnel.doneState, Tunnel.returnedTo,
    Reader.holdings, dropAll, drop] using permits

/-- A response that cannot be sent ends the call with everything still in its hands. -/
theorem returns_start (fresh : tunnel.streamId ∉ outside.active) :
    tunnel.returns (tunnel.start outside) = tunnel.doneState outside .unspawned := by
  have permits := dropAll_permits tunnel.streamId
  cases kind : tunnel.accepted.kind with
  | udp socket peer =>
    simp [Tunnel.returns, Tunnel.start, kind, Tunnel.permits, dropAll_append, permits, Tunnel.doneState,
      Tunnel.returnedTo, Reader.holdings]
    simp [dropAll, drop, Finset.erase_insert fresh]
  | tcp socket peer =>
    simp [Tunnel.returns, Tunnel.start, kind, Tunnel.permits, dropAll_append, permits, Tunnel.doneState,
      Tunnel.returnedTo, Reader.holdings]
    simp [dropAll, drop]

theorem holdings_abort (reader : Reader) : (Tunnel.abort reader).holdings = reader.holdings := by
  cases reader <;> rfl

theorem udpState_abort {stage : Stage} {stream : List Resource} (reader : Reader) :
    { tunnel.udpState outside stage stream reader with reader := Tunnel.abort reader } =
      tunnel.udpState outside stage stream (Tunnel.abort reader) := by
  simp only [Tunnel.udpState, holdings_abort]

theorem sound_opened : Sound tunnel outside (tunnel.opened (tunnel.start outside)) := by
  cases kind : tunnel.accepted.kind with
  | udp socket peer =>
    have opened : Sound tunnel outside _ :=
      .udp socket peer kind (Udp.start tunnel.meter) .unspawned [.recvHalf] (.inr rfl)
    simp only [Tunnel.opened, Tunnel.udpState, Tunnel.start, kind] at opened ⊢
    exact opened
  | tcp socket peer =>
    have opened : Sound tunnel outside _ := .tcp socket peer kind (Tcp.start tunnel.meter)
    simp only [Tunnel.opened, Tunnel.tcpState, Tunnel.start, kind] at opened ⊢
    exact opened

/-- The first poll hands the stream to the reader. -/
theorem spawned_eq {stage : Stage} {stream : List Resource} (held : stream = [] ∨ stream = [.recvHalf])
    (reader : Reader) :
    Tunnel.spawned (tunnel.udpState outside stage stream reader) = tunnel.udpState outside stage [] .running := by
  rcases held with rfl | rfl
  · rfl
  · rfl

theorem sound_afterUdp (fresh : tunnel.streamId ∉ outside.active) (kind : tunnel.accepted.kind = .udp socket peer)
    {stage : Stage} {stream : List Resource} (held : stream = [] ∨ stream = [.recvHalf]) (reader : Reader)
    (event : Udp.Event) (relay : Udp.State) :
    Sound tunnel outside (tunnel.afterUdp (tunnel.udpState outside stage stream reader) event relay) := by
  -- Whoever has the stream, the loop is over or goes on.
  have turned {stream : List Resource} (held : stream = [] ∨ stream = [.recvHalf]) (reader : Reader) :
      Sound tunnel outside (if relay.phase = .closed then
          tunnel.returns { tunnel.udpState outside stage stream reader with reader := Tunnel.abort reader }
        else tunnel.udpState outside (.relaying (.udp relay)) stream reader) := by
    split
    · rw [udpState_abort, returns_udp fresh kind held]
      exact .returned _
    · exact .udp socket peer kind relay reader stream held
  by_cases first : event = .polled
  · simp only [Tunnel.afterUdp, if_pos first, spawned_eq held]
    exact turned (.inl rfl) .running
  · simp only [Tunnel.afterUdp, if_neg first]
    exact turned held reader

end

theorem Sound.step (fresh : tunnel.streamId ∉ outside.active) {state after : State} {event : Event}
    (sound : Sound tunnel outside state) (moves : Moves tunnel state event after) : Sound tunnel outside after := by
  cases sound with
  | responding =>
    cases moves with
    | responded => exact sound_opened
    | unanswered =>
      rw [returns_start fresh]
      exact .returned .unspawned
    | udp event relay next relaying => cases relaying
    | tcp event relay next relaying => cases relaying
    | ended relay relaying => cases relaying
    | readerGone reader => rcases reader with reader | reader <;> cases reader
  | udp socket peer kind relay reader stream held =>
    cases moves with
    | responded responding => cases responding
    | unanswered responding => cases responding
    | udp event relay next => exact sound_afterUdp fresh kind held reader event next
    | tcp event relay next relaying => cases relaying
    | ended =>
      rw [returns_udp fresh kind held]
      exact .returned reader
    | readerGone =>
      rw [udpState_task, dropAll_holdings]
      exact .udp socket peer kind relay .finished stream held
  | tcp socket peer kind relay =>
    cases moves with
    | responded responding => cases responding
    | unanswered responding => cases responding
    | udp event relay next relaying => cases relaying
    | tcp event relay next =>
      unfold Tunnel.afterTcp
      split
      · rw [returns_tcp kind]
        exact .returned .unspawned
      · exact .tcp socket peer kind next
    | ended =>
      rw [returns_tcp kind]
      exact .returned .unspawned
    | readerGone reader => rcases reader with reader | reader <;> cases reader
  | returned reader =>
    cases moves with
    | responded responding => cases responding
    | unanswered responding => cases responding
    | udp event relay next relaying => cases relaying
    | tcp event relay next relaying => cases relaying
    | ended relay relaying => cases relaying
    | readerGone =>
      rw [doneState_task, dropAll_holdings]
      exact .returned .finished

/-! ## After the call -/

end

end Skimasque.Gateway.Teardown
