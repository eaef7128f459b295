import Skimasque.Library.Tally
import Skimasque.Library.Transition

/-! The gateway's accept loops and its way down: a server of connections, each of them a server of tunnels.

On shutdown no connection is accepted any more, and those there are go on with their tunnels until the grace is over.
-/

set_option autoImplicit false

namespace Skimasque.Gateway.Drain
open Library Library.Tally Library.Transition

structure Limits where
  maxConnections : Option Nat
  maxTunnelsPerConnection : Option Nat
  grace : Nat

inductive TunnelPhase where
  /-- The request head is being read. -/
  | resolving
  /-- The service has it, or the response is on its way. -/
  | deciding
  /-- It holds an `ActiveTunnel`. -/
  | active
  /-- The task has ended and was not joined yet. -/
  | ended
  deriving DecidableEq, Repr

structure Tunnel where
  overLimit : Bool
  phase : TunnelPhase
  deriving DecidableEq, Repr

inductive ConnectionPhase where
  | spawned
  /-- It holds an `ActiveConnection` from here on. -/
  | handshaking
  | serving
  | ended
  deriving DecidableEq, Repr

structure Connection where
  phase : ConnectionPhase := .spawned
  draining : Bool := false
  tunnels : List Tunnel := []
  deriving DecidableEq, Repr

/-- `skimasque_connections_active` and `skimasque_tunnels_active`. -/
structure Gauges where
  connections : Nat := 0
  tunnels : Nat := 0
  deriving DecidableEq, Repr

def Tunnel.weight (tunnel : Tunnel) : Nat := if tunnel.phase = .active then 1 else 0

def Connection.weight (connection : Connection) : Nat :=
  if connection.phase = .handshaking ∨ connection.phase = .serving then 1 else 0

def Connection.activeTunnels (connection : Connection) : Nat := tally Tunnel.weight connection.tunnels

def atLimit (limit : Option Nat) (count : Nat) : Bool := limit.any (· ≤ count)

namespace Connection

/-- `connections.spawn`: the first poll of the task. -/
def starts (connection : Connection) (gauges : Gauges) : Option (Connection × Gauges) :=
  if connection.phase = .spawned then
    some ({ connection with phase := .handshaking }, { gauges with connections := gauges.connections + 1 })
  else none

def established (connection : Connection) (gauges : Gauges) : Option (Connection × Gauges) :=
  if connection.phase = .handshaking then some ({ connection with phase := .serving }, gauges) else none

/-- `serve_connection` returns. The tunnels it still has are aborted, and what they and it hold is dropped. -/
def ends (connection : Connection) (gauges : Gauges) : Connection × Gauges :=
  ({ connection with phase := .ended, tunnels := [] },
    ⟨gauges.connections - connection.weight, gauges.tunnels - connection.activeTunnels⟩)

/-- The handshake fails, or the connection is lost. -/
def lost (connection : Connection) (gauges : Gauges) : Option (Connection × Gauges) :=
  if connection.phase = .handshaking ∨ connection.phase = .serving then some (connection.ends gauges) else none

/-- What `try_join_next` leaves. -/
def running (connection : Connection) : List Tunnel := connection.tunnels.filter (·.phase ≠ .ended)

/-- `h3.accept` has a request. -/
def request (limits : Limits) (connection : Connection) (gauges : Gauges) : Option (Connection × Gauges) :=
  if connection.phase = .serving then
    let overLimit := atLimit limits.maxTunnelsPerConnection connection.running.length
    some ({ connection with tunnels := connection.running ++ [⟨overLimit, .resolving⟩] }, gauges)
  else none

/-- `drain.changed()`, and the GOAWAY. -/
def drains (connection : Connection) (gauges : Gauges) : Option (Connection × Gauges) :=
  if connection.phase = .serving ∧ ¬connection.draining then some ({ connection with draining := true }, gauges) else none

/-- `if draining && tunnels.is_empty() { break; }`. -/
def exits (connection : Connection) (gauges : Gauges) : Option (Connection × Gauges) :=
  if connection.phase = .serving ∧ connection.draining ∧ connection.tunnels = [] then some (connection.ends gauges) else none

def tunnelJoins (index : Nat) (connection : Connection) (gauges : Gauges) : Option (Connection × Gauges) :=
  if (connection.tunnels[index]?).any (·.phase = .ended) then
    some ({ connection with tunnels := connection.tunnels.eraseIdx index }, gauges)
  else none

def onTunnel (index : Nat) (change : Tunnel → Gauges → Option (Tunnel × Gauges)) (connection : Connection)
    (gauges : Gauges) : Option (Connection × Gauges) :=
  connection.tunnels[index]?.bind fun tunnel => (change tunnel gauges).map fun (tunnel, gauges) =>
    ({ connection with tunnels := connection.tunnels.set index tunnel }, gauges)

end Connection

namespace Tunnel

/-- The head is read, or cannot be. Over the limit the request is refused. -/
def resolves (ok : Bool) (tunnel : Tunnel) (gauges : Gauges) : Option (Tunnel × Gauges) :=
  if tunnel.phase = .resolving then
    some ({ tunnel with phase := if ok && !tunnel.overLimit then .deciding else .ended }, gauges)
  else none

/-- It is accepted and the response is sent, or it is not. -/
def decides (accepted : Bool) (tunnel : Tunnel) (gauges : Gauges) : Option (Tunnel × Gauges) :=
  if tunnel.phase = .deciding then
    if accepted then some ({ tunnel with phase := .active }, { gauges with tunnels := gauges.tunnels + 1 })
    else some ({ tunnel with phase := .ended }, gauges)
  else none

def ends (tunnel : Tunnel) (gauges : Gauges) : Option (Tunnel × Gauges) :=
  if tunnel.phase = .active then
    some ({ tunnel with phase := .ended }, { gauges with tunnels := gauges.tunnels - 1 })
  else none

end Tunnel

inductive Phase where
  | accepting
  /-- Since then, for as long as the grace. -/
  | draining (since : Nat)
  /-- The endpoint is closed and no task is left. -/
  | closed
  | returned
  deriving DecidableEq, Repr

inductive Refusal where
  | connectionLimit
  | perSourceRate
  | rateLimit
  deriving DecidableEq, Repr

/-- The tunnels that were active when the endpoint was closed, with when that was and when the draining began. -/
structure Cut where
  since : Nat
  time : Nat
  tunnels : Nat
  deriving DecidableEq, Repr

structure State where
  phase : Phase := .accepting
  now : Nat := 0
  connections : List Connection := []
  gauges : Gauges := {}
  accepted : Nat := 0
  refused : List Refusal := []
  cut : Option Cut := none
  deriving DecidableEq, Repr

inductive Event where
  | tick
  /-- A connection comes, and whether the two rate limits would let it in. -/
  | incoming (perSource rate : Bool)
  | shutdown
  | joins (connection : Nat)
  | starts (connection : Nat)
  | established (connection : Nat)
  | lost (connection : Nat)
  | request (connection : Nat)
  | drains (connection : Nat)
  | exits (connection : Nat)
  | tunnelJoins (connection tunnel : Nat)
  | resolves (connection tunnel : Nat) (ok : Bool)
  | decides (connection tunnel : Nat) (accepted : Bool)
  | tunnelEnds (connection tunnel : Nat)
  | closes
  | returns
  deriving DecidableEq, Repr

def State.onConnection (state : State) (index : Nat) (change : Connection → Gauges → Option (Connection × Gauges)) :
    Option State :=
  state.connections[index]?.bind fun connection => (change connection state.gauges).map fun (connection, gauges) =>
    { state with connections := state.connections.set index connection, gauges }

def State.incoming (limits : Limits) (state : State) (perSource rate : Bool) : State :=
  let connections := state.connections.filter (·.phase ≠ .ended)
  let state := { state with connections }
  if atLimit limits.maxConnections connections.length then
    { state with refused := state.refused ++ [.connectionLimit] }
  else if !perSource then { state with refused := state.refused ++ [.perSourceRate] }
  else if !rate then { state with refused := state.refused ++ [.rateLimit] }
  else { state with connections := connections ++ [({} : Connection)], accepted := state.accepted + 1 }

/-- `self.close()` and `connections.shutdown()`. -/
def State.closes (state : State) (since : Nat) : State :=
  { state with
    phase := .closed
    connections := []
    gauges := ⟨state.gauges.connections - tally Connection.weight state.connections,
      state.gauges.tunnels - tally Connection.activeTunnels state.connections⟩
    cut := some ⟨since, state.now, tally Connection.activeTunnels state.connections⟩ }

def step (limits : Limits) (state : State) : Event → Option State
  | .tick => some { state with now := state.now + 1 }
  | .incoming perSource rate =>
    if state.phase = .accepting then some (state.incoming limits perSource rate) else none
  -- The endpoint may also be closed from outside, which ends the loop in the same way.
  | .shutdown =>
    if state.phase = .accepting then some { state with phase := .draining state.now } else none
  | .joins index =>
    if (state.connections[index]?).any (·.phase = .ended) then
      some { state with connections := state.connections.eraseIdx index }
    else none
  | .starts index => state.onConnection index Connection.starts
  | .established index => state.onConnection index Connection.established
  | .lost index => state.onConnection index Connection.lost
  | .request index => state.onConnection index (Connection.request limits)
  | .drains index => if state.phase ≠ .accepting then state.onConnection index Connection.drains else none
  | .exits index => state.onConnection index Connection.exits
  | .tunnelJoins index tunnel => state.onConnection index (Connection.tunnelJoins tunnel)
  | .resolves index tunnel ok => state.onConnection index (Connection.onTunnel tunnel (Tunnel.resolves ok))
  | .decides index tunnel accepted => state.onConnection index (Connection.onTunnel tunnel (Tunnel.decides accepted))
  | .tunnelEnds index tunnel => state.onConnection index (Connection.onTunnel tunnel Tunnel.ends)
  | .closes =>
    match state.phase with
    | .draining since =>
      if state.connections = [] ∨ since + limits.grace ≤ state.now then some (state.closes since) else none
    | _ => none
  | .returns => if state.phase = .closed then some { state with phase := .returned } else none

def start : State := {}

/-! ## What a connection may do -/

/-- An admitted tunnel that has not ended. -/
def Tunnel.admitted (tunnel : Tunnel) : Nat := if tunnel.overLimit = false ∧ tunnel.phase ≠ .ended then 1 else 0

/-- What is over the limit goes no further than its refusal. -/
def TunnelSound (tunnel : Tunnel) : Prop :=
  tunnel.phase = .deciding ∨ tunnel.phase = .active → tunnel.overLimit = false

structure ConnectionSound (limits : Limits) (connection : Connection) : Prop where
  tunnels : ∀ tunnel ∈ connection.tunnels, TunnelSound tunnel
  admitted : ∀ max, limits.maxTunnelsPerConnection = some max → tally Tunnel.admitted connection.tunnels ≤ max
  quiet : connection.phase ≠ .serving → connection.tunnels = []

/-- The gauges move with what they count. -/
structure Moves (limits : Limits) (before after : Connection) (gauges gauges' : Gauges) : Prop where
  sound : ConnectionSound limits after
  connections : gauges'.connections + before.weight = gauges.connections + after.weight
  tunnels : gauges'.tunnels + before.activeTunnels = gauges.tunnels + after.activeTunnels

section
variable {limits : Limits} {connection after : Connection} {gauges gauges' : Gauges}

theorem ends_moves (counted : connection.weight ≤ gauges.connections) (active : connection.activeTunnels ≤ gauges.tunnels)
    (went : connection.ends gauges = (after, gauges')) : Moves limits connection after gauges gauges' := by
  cases went
  constructor
  case sound => exact ⟨fun _ never => (nomatch never), fun _ _ => Nat.zero_le _, fun _ => rfl⟩
  case connections => exact Nat.sub_add_cancel counted
  case tunnels => exact Nat.sub_add_cancel active

/-- A change of phase that leaves the tunnels there are. -/
theorem phase_moves (sound : ConnectionSound limits connection) {phase : ConnectionPhase}
    (quiet : phase ≠ .serving → connection.tunnels = []) {connections : Nat}
    (moved : connections + connection.weight = gauges.connections + Connection.weight { connection with phase }) :
    Moves limits connection { connection with phase } gauges { gauges with connections } where
  sound := ⟨sound.tunnels, sound.admitted, quiet⟩
  connections := moved
  tunnels := rfl

theorem admitted_le_one (tunnel : Tunnel) : tunnel.admitted ≤ 1 := by
  unfold Tunnel.admitted
  split <;> omega

theorem ended_weightless {tunnel : Tunnel} (ended : decide (tunnel.phase ≠ .ended) = false) :
    tunnel.weight = 0 ∧ tunnel.admitted = 0 := by
  simp only [ne_eq, decide_eq_false_iff_not, not_not] at ended
  simp [Tunnel.weight, Tunnel.admitted, ended]

/-- One more request than the limit allows is there to be refused. -/
theorem request_moves (sound : ConnectionSound limits connection)
    (went : connection.request limits gauges = some (after, gauges')) : Moves limits connection after gauges gauges' := by
  simp only [Connection.request, Option.ite_none_right_eq_some, Option.some.injEq, Prod.mk.injEq] at went
  obtain ⟨serving, rfl, rfl⟩ := went
  have weights : tally Tunnel.weight connection.running = connection.activeTunnels :=
    tally_filter fun _ _ ended => (ended_weightless ended).1
  have few : tally Tunnel.admitted connection.running ≤ connection.running.length :=
    tally_le_length fun tunnel _ => admitted_le_one tunnel
  have same : tally Tunnel.admitted connection.running = tally Tunnel.admitted connection.tunnels :=
    tally_filter fun _ _ ended => (ended_weightless ended).2
  constructor
  case connections => rfl
  case tunnels => simpa [Connection.activeTunnels, Tunnel.weight] using weights.symm
  case sound =>
    constructor
    · intro tunnel member
      rcases List.mem_append.mp member with there | new
      · exact sound.tunnels tunnel (List.mem_of_mem_filter there)
      · rw [List.mem_singleton.mp new]
        simp [TunnelSound]
    · intro max limited
      have before := sound.admitted max limited
      rw [tally_append, tally_cons, tally_nil, Nat.add_zero]
      by_cases full : max ≤ connection.running.length
      · simpa [Tunnel.admitted, atLimit, limited, full, same] using before
      · have one := admitted_le_one ⟨atLimit limits.maxTunnelsPerConnection connection.running.length, .resolving⟩
        omega
    · exact fun elsewhere => absurd serving elsewhere

theorem tunnelJoins_moves (sound : ConnectionSound limits connection) {index : Nat}
    (went : connection.tunnelJoins index gauges = some (after, gauges')) : Moves limits connection after gauges gauges' := by
  simp only [Connection.tunnelJoins, Option.ite_none_right_eq_some, Option.some.injEq, Prod.mk.injEq, Option.any_eq_true,
    decide_eq_true_eq] at went
  obtain ⟨⟨tunnel, there, ended⟩, rfl, rfl⟩ := went
  have weightless := @ended_weightless tunnel (by simp [ended])
  have weights : tally Tunnel.weight (connection.tunnels.eraseIdx index) + tunnel.weight = connection.activeTunnels :=
    tally_eraseIdx there
  have admitted : tally Tunnel.admitted (connection.tunnels.eraseIdx index) + tunnel.admitted =
      tally Tunnel.admitted connection.tunnels := tally_eraseIdx there
  constructor
  case connections => rfl
  case tunnels =>
    simp only [Connection.activeTunnels] at weights ⊢
    omega
  case sound =>
    constructor
    · exact fun other member => sound.tunnels other (List.mem_of_mem_eraseIdx member)
    · intro max limited
      have := sound.admitted max limited
      simp only
      omega
    · intro elsewhere
      simp [sound.quiet elsewhere]

/-- What a tunnel may do: nothing is admitted that was not, and the gauge moves with it. -/
structure TunnelMoves (before after : Tunnel) (gauges gauges' : Gauges) : Prop where
  sound : TunnelSound after
  admitted : after.admitted ≤ before.admitted
  connections : gauges'.connections = gauges.connections
  tunnels : gauges'.tunnels + before.weight = gauges.tunnels + after.weight

theorem onTunnel_moves (sound : ConnectionSound limits connection) {index : Nat}
    {change : Tunnel → Gauges → Option (Tunnel × Gauges)}
    (moves : ∀ tunnel changed gauges', TunnelSound tunnel → tunnel.weight ≤ gauges.tunnels →
      change tunnel gauges = some (changed, gauges') → TunnelMoves tunnel changed gauges gauges')
    (active : connection.activeTunnels ≤ gauges.tunnels)
    (went : connection.onTunnel index change gauges = some (after, gauges')) :
    Moves limits connection after gauges gauges' := by
  simp only [Connection.onTunnel, Option.bind_eq_some_iff, Option.map_eq_some_iff, Prod.mk.injEq] at went
  obtain ⟨tunnel, there, ⟨changed, moved⟩, went, rfl, rfl⟩ := went
  have member := List.mem_of_getElem? there
  have light : tunnel.weight ≤ connection.activeTunnels := weight_le_tally there
  have step := moves tunnel changed moved (sound.tunnels tunnel member) (Nat.le_trans light active) went
  have weights : tally Tunnel.weight (connection.tunnels.set index changed) + tunnel.weight =
      connection.activeTunnels + changed.weight := tally_set there
  have admitted : tally Tunnel.admitted (connection.tunnels.set index changed) + tunnel.admitted =
      tally Tunnel.admitted connection.tunnels + changed.admitted := tally_set there
  have gauge := step.tunnels
  have fewer := step.admitted
  constructor
  case connections =>
    rw [step.connections]
    rfl
  case tunnels =>
    simp only [Connection.activeTunnels] at weights ⊢
    omega
  case sound =>
    constructor
    · intro other there
      rcases List.mem_or_eq_of_mem_set there with before | rfl
      · exact sound.tunnels other before
      · exact step.sound
    · intro max limited
      have := sound.admitted max limited
      simp only
      omega
    · intro elsewhere
      simp [sound.quiet elsewhere] at member

theorem resolves_moves {tunnel changed : Tunnel} {ok : Bool} (went : tunnel.resolves ok gauges = some (changed, gauges')) :
    TunnelMoves tunnel changed gauges gauges' := by
  simp only [Tunnel.resolves, Option.ite_none_right_eq_some, Option.some.injEq, Prod.mk.injEq] at went
  obtain ⟨resolving, rfl, rfl⟩ := went
  obtain ⟨overLimit, phase⟩ := tunnel
  cases resolving
  cases ok <;> cases overLimit <;> constructor <;> simp [Tunnel.admitted, Tunnel.weight, TunnelSound]

theorem decides_moves {tunnel changed : Tunnel} {accepted : Bool} (sound : TunnelSound tunnel)
    (went : tunnel.decides accepted gauges = some (changed, gauges')) : TunnelMoves tunnel changed gauges gauges' := by
  simp only [Tunnel.decides, Option.ite_none_right_eq_some] at went
  obtain ⟨deciding, went⟩ := went
  have within := sound (Or.inl deciding)
  obtain ⟨overLimit, phase⟩ := tunnel
  cases deciding
  cases within
  cases accepted <;> cases went <;> constructor <;> simp [Tunnel.admitted, Tunnel.weight, TunnelSound]

theorem tunnelEnds_moves {tunnel changed : Tunnel} (counted : tunnel.weight ≤ gauges.tunnels)
    (went : tunnel.ends gauges = some (changed, gauges')) : TunnelMoves tunnel changed gauges gauges' := by
  simp only [Tunnel.ends, Option.ite_none_right_eq_some, Option.some.injEq, Prod.mk.injEq] at went
  obtain ⟨active, rfl, rfl⟩ := went
  obtain ⟨overLimit, phase⟩ := tunnel
  cases active
  have one : 1 ≤ gauges.tunnels := counted
  constructor <;> simp [Tunnel.admitted, Tunnel.weight, TunnelSound]
  omega

theorem starts_moves (sound : ConnectionSound limits connection)
    (went : connection.starts gauges = some (after, gauges')) : Moves limits connection after gauges gauges' := by
  simp only [Connection.starts, Option.ite_none_right_eq_some, Option.some.injEq, Prod.mk.injEq] at went
  obtain ⟨spawned, rfl, rfl⟩ := went
  have none_yet : connection.tunnels = [] := sound.quiet (by simp [spawned])
  apply phase_moves sound fun _ => none_yet
  simp [Connection.weight, spawned]

theorem established_moves (sound : ConnectionSound limits connection)
    (went : connection.established gauges = some (after, gauges')) : Moves limits connection after gauges gauges' := by
  simp only [Connection.established, Option.ite_none_right_eq_some, Option.some.injEq, Prod.mk.injEq] at went
  obtain ⟨handshaking, rfl, rfl⟩ := went
  apply phase_moves sound fun elsewhere => absurd rfl elsewhere
  simp [Connection.weight, handshaking]

theorem drains_moves (sound : ConnectionSound limits connection)
    (went : connection.drains gauges = some (after, gauges')) : Moves limits connection after gauges gauges' := by
  simp only [Connection.drains, Option.ite_none_right_eq_some, Option.some.injEq, Prod.mk.injEq] at went
  obtain ⟨-, rfl, rfl⟩ := went
  exact ⟨⟨sound.tunnels, sound.admitted, sound.quiet⟩, rfl, rfl⟩

end

/-! ## The server -/

structure Sound (limits : Limits) (state : State) : Prop where
  connections : ∀ connection ∈ state.connections, ConnectionSound limits connection
  bounded : ∀ max, limits.maxConnections = some max → state.connections.length ≤ max
  connectionGauge : state.gauges.connections = tally Connection.weight state.connections
  tunnelGauge : state.gauges.tunnels = tally Connection.activeTunnels state.connections
  emptied : state.phase = .closed ∨ state.phase = .returned → state.connections = []
  cut : ∀ cut, state.cut = some cut → 0 < cut.tunnels → cut.since + limits.grace ≤ cut.time

section
variable {limits : Limits} {state state' : State}

theorem start_sound : Sound limits start := by
  constructor <;> simp [start]

theorem onConnection_sound (sound : Sound limits state) {index : Nat}
    {change : Connection → Gauges → Option (Connection × Gauges)}
    (moves : ∀ connection after gauges', ConnectionSound limits connection →
      connection.weight ≤ state.gauges.connections → connection.activeTunnels ≤ state.gauges.tunnels →
      change connection state.gauges = some (after, gauges') → Moves limits connection after state.gauges gauges')
    (went : state.onConnection index change = some state') : Sound limits state' := by
  simp only [State.onConnection, Option.bind_eq_some_iff, Option.map_eq_some_iff] at went
  obtain ⟨connection, there, ⟨after, gauges'⟩, went, rfl⟩ := went
  have member := List.mem_of_getElem? there
  have counted : connection.weight ≤ tally Connection.weight state.connections := weight_le_tally there
  have active : connection.activeTunnels ≤ tally Connection.activeTunnels state.connections := weight_le_tally there
  rw [← sound.connectionGauge] at counted
  rw [← sound.tunnelGauge] at active
  have moved := moves connection after gauges' (sound.connections connection member) counted active went
  have weights : tally Connection.weight (state.connections.set index after) + connection.weight =
      tally Connection.weight state.connections + after.weight := tally_set there
  have tunnels : tally Connection.activeTunnels (state.connections.set index after) + connection.activeTunnels =
      tally Connection.activeTunnels state.connections + after.activeTunnels := tally_set there
  exact { sound with
    connections := fun other inside => by
      rcases List.mem_or_eq_of_mem_set inside with before | rfl
      · exact sound.connections other before
      · exact moved.sound
    bounded := fun max limited => by
      rw [List.length_set]
      exact sound.bounded max limited
    connectionGauge := by
      have := moved.connections
      have := sound.connectionGauge
      simp only
      omega
    tunnelGauge := by
      have := moved.tunnels
      have := sound.tunnelGauge
      simp only
      omega
    emptied := fun emptied => by simp [sound.emptied emptied] at member }

theorem ended_uncounted {connection : Connection} (sound : ConnectionSound limits connection)
    (ended : connection.phase = .ended) : connection.weight = 0 ∧ connection.activeTunnels = 0 := by
  have quiet := sound.quiet (by simp [ended])
  simp [Connection.weight, Connection.activeTunnels, ended, quiet]

theorem incoming_sound (sound : Sound limits state) (perSource rate : Bool) (accepting : state.phase = .accepting) :
    Sound limits (state.incoming limits perSource rate) := by
  have uncounted (connection : Connection) (member : connection ∈ state.connections)
      (dropped : decide (connection.phase ≠ .ended) = false) :
      connection.weight = 0 ∧ connection.activeTunnels = 0 :=
    ended_uncounted (sound.connections connection member) (by simpa using dropped)
  have weights : tally Connection.weight (state.connections.filter (·.phase ≠ .ended)) =
      tally Connection.weight state.connections := tally_filter fun _ member dropped => (uncounted _ member dropped).1
  have tunnels : tally Connection.activeTunnels (state.connections.filter (·.phase ≠ .ended)) =
      tally Connection.activeTunnels state.connections := tally_filter fun _ member dropped => (uncounted _ member dropped).2
  have reaped : Sound limits { state with connections := state.connections.filter (·.phase ≠ .ended) } :=
    { sound with
      connections := fun connection member => sound.connections connection (List.mem_of_mem_filter member)
      bounded := fun max limited => Nat.le_trans (List.length_filter_le _ _) (sound.bounded max limited)
      connectionGauge := by rw [weights, sound.connectionGauge]
      tunnelGauge := by rw [tunnels, sound.tunnelGauge]
      emptied := fun emptied => by simp [accepting] at emptied }
  simp only [State.incoming]
  split
  next => exact { reaped with }
  next room =>
    split
    next => exact { reaped with }
    next =>
      split
      next => exact { reaped with }
      next =>
        exact { reaped with
          connections := fun connection member => by
            rcases List.mem_append.mp member with there | new
            · exact reaped.connections connection there
            · rw [List.mem_singleton.mp new]
              exact ⟨fun _ never => (nomatch never), fun _ _ => Nat.zero_le _, fun _ => rfl⟩
          bounded := fun max limited => by
            rw [List.length_append]
            apply Nat.lt_of_not_le
            simpa [atLimit, limited] using room
          connectionGauge := by simpa [Connection.weight] using reaped.connectionGauge
          tunnelGauge := by simpa [Connection.activeTunnels] using reaped.tunnelGauge
          emptied := fun emptied => by simp [accepting] at emptied }

theorem joins_sound (sound : Sound limits state) {index : Nat} {connection : Connection}
    (there : state.connections[index]? = some connection) (ended : connection.phase = .ended) :
    Sound limits { state with connections := state.connections.eraseIdx index } := by
  have member := List.mem_of_getElem? there
  have uncounted := ended_uncounted (sound.connections connection member) ended
  have weights : tally Connection.weight (state.connections.eraseIdx index) + connection.weight =
      tally Connection.weight state.connections := tally_eraseIdx there
  have tunnels : tally Connection.activeTunnels (state.connections.eraseIdx index) + connection.activeTunnels =
      tally Connection.activeTunnels state.connections := tally_eraseIdx there
  exact { sound with
    connections := fun other inside => sound.connections other (List.mem_of_mem_eraseIdx inside)
    bounded := fun max limited =>
      Nat.le_trans (List.eraseIdx_sublist _ _).length_le (sound.bounded max limited)
    connectionGauge := by
      have := sound.connectionGauge
      simp only
      omega
    tunnelGauge := by
      have := sound.tunnelGauge
      simp only
      omega
    emptied := fun emptied => by simp [sound.emptied emptied] at member }

theorem closes_sound (sound : Sound limits state) {since : Nat}
    (due : state.connections = [] ∨ since + limits.grace ≤ state.now) : Sound limits (state.closes since) where
  connections := fun _ never => (nomatch never)
  bounded := fun _ _ => Nat.zero_le _
  connectionGauge := by simp [State.closes, sound.connectionGauge]
  tunnelGauge := by simp [State.closes, sound.tunnelGauge]
  emptied := fun _ => rfl
  cut := by
    rintro cut ⟨⟩ some_cut
    rcases due with drained | emptied
    · simp [drained] at some_cut
    · exact emptied

theorem step_sound {event : Event} (sound : Sound limits state) (stepped : step limits state event = some state') :
    Sound limits state' := by
  cases event with
  | tick =>
    cases stepped
    exact { sound with }
  | incoming perSource rate =>
    simp only [step, Option.ite_none_right_eq_some, Option.some.injEq] at stepped
    obtain ⟨accepting, rfl⟩ := stepped
    exact incoming_sound sound perSource rate accepting
  | shutdown =>
    simp only [step, Option.ite_none_right_eq_some, Option.some.injEq] at stepped
    obtain ⟨-, rfl⟩ := stepped
    exact { sound with emptied := by simp }
  | joins index =>
    simp only [step, Option.ite_none_right_eq_some, Option.some.injEq, Option.any_eq_true, decide_eq_true_eq] at stepped
    obtain ⟨⟨connection, there, ended⟩, rfl⟩ := stepped
    exact joins_sound sound there ended
  | starts index => exact onConnection_sound sound (fun _ _ _ own _ _ => starts_moves own) stepped
  | established index => exact onConnection_sound sound (fun _ _ _ own _ _ => established_moves own) stepped
  | lost index =>
    apply onConnection_sound sound _ stepped
    intro connection after gauges' own counted active went
    simp only [Connection.lost, Option.ite_none_right_eq_some, Option.some.injEq] at went
    exact ends_moves counted active went.2
  | request index => exact onConnection_sound sound (fun _ _ _ own _ _ => request_moves own) stepped
  | drains index =>
    simp only [step, Option.ite_none_right_eq_some] at stepped
    exact onConnection_sound sound (fun _ _ _ own _ _ => drains_moves own) stepped.2
  | exits index =>
    apply onConnection_sound sound _ stepped
    intro connection after gauges' own counted active went
    simp only [Connection.exits, Option.ite_none_right_eq_some, Option.some.injEq] at went
    exact ends_moves counted active went.2
  | tunnelJoins index tunnel => exact onConnection_sound sound (fun _ _ _ own _ _ => tunnelJoins_moves own) stepped
  | resolves index tunnel ok =>
    exact onConnection_sound sound (fun _ _ _ own _ active =>
      onTunnel_moves own (fun _ _ _ _ _ => resolves_moves) active) stepped
  | decides index tunnel accepted =>
    exact onConnection_sound sound (fun _ _ _ own _ active =>
      onTunnel_moves own (fun _ _ _ within _ => decides_moves within) active) stepped
  | tunnelEnds index tunnel =>
    exact onConnection_sound sound (fun _ _ _ own _ active =>
      onTunnel_moves own (fun _ _ _ _ counted => tunnelEnds_moves counted) active) stepped
  | closes =>
    simp only [step] at stepped
    split at stepped
    next since _ =>
      rw [Option.ite_none_right_eq_some] at stepped
      obtain ⟨due, stepped⟩ := stepped
      cases stepped
      exact closes_sound sound due
    next => cases stepped
  | returns =>
    simp only [step, Option.ite_none_right_eq_some, Option.some.injEq] at stepped
    obtain ⟨closed, rfl⟩ := stepped
    exact { sound with emptied := fun _ => sound.emptied (Or.inl closed) }

theorem run_sound {events : List Event} (ran : run (step limits) start events = some state) : Sound limits state :=
  run_invariant (Sound limits) (fun _ _ _ sound stepped => step_sound sound stepped) start_sound ran

end

end Skimasque.Gateway.Drain
