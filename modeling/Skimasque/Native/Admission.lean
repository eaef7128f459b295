import Skimasque.Library.Map
import Skimasque.Native.TcpStream
import Mathlib.Data.List.Nodup
import Mathlib.Data.List.Perm.Subperm

/-! Which TCP connections the userspace stack admits, and who holds them.

A connection lives as long as one of its two ends does: the stream, in the listener's queue or with a relay, or the socket, in
the runner's queue or its table.
-/

set_option autoImplicit false

namespace Skimasque.Native.Admission
open Library Library.Transition TcpStream

/-- `Semaphore::new(1024)`. -/
def permits : Nat := 1024

/-- The capacity of the listener's queue, of the runner's queue and of the interface's. -/
def capacity : Nat := 512

/-- The relays that `native::tcp::serve` keeps. -/
def maxTasks : Nat := 1024

section
variable {α : Type}

/-- A connection by the two addresses of its first packet. -/
structure Connection (α : Type) where
  key : α
  control : TcpSocketControl
  deriving DecidableEq, Repr

inductive Packet (α : Type) where
  | invalid
  | icmp
  | malformed
  | tcp (key : α) (syn ack : Bool)
  deriving DecidableEq, Repr

variable [DecidableEq α]

structure State (α : Type) [DecidableEq α] where
  available : Nat := permits
  /-- The controls that someone holds. -/
  controls : AList (fun _ : Nat => Connection α) := ∅
  /-- `flows`, with the controls that the weak references were made from. -/
  flows : AList (fun _ : α => Nat) := ∅
  streams : List Nat := []
  creations : List Nat := []
  sockets : List Nat := []
  /-- The relays that run, by their streams. -/
  tasks : List Nat := []
  /-- The relays that ended and were not joined yet. -/
  ended : Nat := 0
  ingress : List (Packet α) := []
  next : Nat := 0
  /-- `handle_packet` has returned an error. -/
  stopped : Bool := false

namespace State

def Held (state : State α) (id : Nat) : Prop :=
  id ∈ state.streams ∨ id ∈ state.tasks ∨ id ∈ state.creations ∨ id ∈ state.sockets

instance (state : State α) (id : Nat) : Decidable (state.Held id) := inferInstanceAs (Decidable (_ ∨ _ ∨ _ ∨ _))

/-- The control goes with the last who held it, and its permit goes back. -/
def reap (state : State α) (id : Nat) : State α :=
  if state.Held id then state
  else { state with controls := state.controls.erase id, available := state.available + 1 }

def update (state : State α) (id : Nat) (change : TcpSocketControl → TcpSocketControl) : State α :=
  match state.controls.lookup id with
  | some connection =>
    { state with controls := state.controls.insert id { connection with control := change connection.control } }
  | none => state

/-- `control.upgrade().is_some_and(|c| c.lock().recv_state != TcpSocketState::Closed)`. -/
def isOpen (state : State α) (id : Nat) : Bool :=
  (state.controls.lookup id).any fun connection => connection.control.recvState ≠ .closed

def retainFlows (state : State α) : State α :=
  { state with flows := Map.retain state.isOpen state.flows }

/-- What a first handshake packet of a connection not known makes. -/
def newConnection (state : State α) (key : α) (listens : Bool) : Option (State α) :=
  if 0 < state.available ∧ state.streams.length < capacity ∧ state.creations.length < capacity ∧ listens then
    some { state with
      available := state.available - 1
      controls := state.controls.insert state.next ⟨key, {}⟩
      flows := state.flows.insert key state.next
      streams := state.streams ++ [state.next]
      creations := state.creations ++ [state.next]
      next := state.next + 1 }
  else none

def offer (state : State α) (packet : Packet α) : State α :=
  if state.ingress.length < capacity then { state with ingress := state.ingress ++ [packet] } else state

/-- One packet of `handle_packet`; `listens` is what `listen` on a new socket would answer. -/
def handlePacket (state : State α) (packet : Packet α) (listens : Bool) : State α :=
  match packet with
  | .invalid => state
  | .malformed => state
  | .icmp =>
    if state.ingress.length < capacity then { state with ingress := state.ingress ++ [packet] }
    else { state with stopped := true }
  | .tcp key syn ack =>
    let state := state.retainFlows
    if syn ∧ ¬ack ∧ key ∉ state.flows then
      match state.newConnection key listens with
      | some state => state.offer packet
      -- The packet of a connection not admitted is not passed on.
      | none => state
    else state.offer packet

/-- A stream is dropped by whoever had it. -/
def dropStream (state : State α) (id : Nat) : State α := (state.update id dropped).reap id

/-- `native::tcp::serve` takes the next stream. -/
def accept (state : State α) : Option (State α) :=
  match state.streams with
  | [] => none
  | id :: streams =>
    if maxTasks ≤ state.tasks.length + state.ended then some (dropStream { state with streams } id)
    else some { state with streams, tasks := state.tasks ++ [id] }

end State

inductive Event (α : Type) where
  | packet (packet : Packet α) (listens : Bool)
  | accept
  | taskEnds (id : Nat)
  | joined
  /-- The runner takes over what waits in its queue. -/
  | adopt
  /-- It reads from the interface. -/
  | polled (count : Nat)
  /-- The receive half of a socket ends. -/
  | receiveEnds (id : Nat)
  /-- A socket is found closed and removed. -/
  | closed (id : Nat)
  deriving DecidableEq, Repr

def closeReceive (control : TcpSocketControl) : TcpSocketControl :=
  { control with recvState := if control.recvState = .normal then .closed else control.recvState }

def closeBoth (control : TcpSocketControl) : TcpSocketControl :=
  { control with recvState := .closed, sendState := .closed, recvWaker := none, sendWaker := none }

def step (state : State α) (event : Event α) : Option (State α) :=
  if state.stopped then none
  else match event with
    | .packet packet listens => some (state.handlePacket packet listens)
    | .accept => state.accept
    | .taskEnds id =>
      if id ∈ state.tasks then
        some (State.dropStream { state with tasks := state.tasks.erase id, ended := state.ended + 1 } id)
      else none
    | .joined => if 0 < state.ended then some { state with ended := state.ended - 1 } else none
    | .adopt => some { state with sockets := state.sockets ++ state.creations, creations := [] }
    | .polled count => some { state with ingress := state.ingress.drop count }
    | .receiveEnds id => if id ∈ state.sockets then some (state.update id closeReceive) else none
    | .closed id =>
      if id ∈ state.sockets then
        some (State.reap { state.update id closeBoth with sockets := state.sockets.erase id } id)
      else none

def start : State α := {}

/-- What holds of the tables and the queues, where the loose connections may have lost their last holder. -/
structure Sound (state : State α) (loose : Nat → Prop) : Prop where
  balance : state.available + state.controls.keys.length = permits
  streamsBound : state.streams.length ≤ capacity
  creationsBound : state.creations.length ≤ capacity
  ingressBound : state.ingress.length ≤ capacity
  streamOnce : (state.streams ++ state.tasks).Nodup
  socketOnce : (state.creations ++ state.sockets).Nodup
  held : ∀ id, state.Held id → id ∈ state.controls
  live : ∀ id ∈ state.controls, ¬loose id → state.Held id
  fresh : ∀ id ∈ state.controls, id < state.next
  flowsFresh : ∀ key id, state.flows.lookup key = some id → id < state.next
  /-- A connection that is open is the one its addresses lead to. -/
  known : ∀ id connection, state.controls.lookup id = some connection → connection.control.recvState ≠ .closed →
    state.flows.lookup connection.key = some id
  flowKey : ∀ key id connection, state.flows.lookup key = some id → state.controls.lookup id = some connection →
    connection.key = key
  flowsBound : state.flows.keys.length ≤ permits

section
variable {state : State α} {loose : Nat → Prop}

theorem start_sound : Sound (start : State α) loose := by
  constructor <;> simp [start, permits, capacity, State.Held]

theorem Sound.mono {tighter : Nat → Prop} (sound : Sound state loose) (fewer : ∀ id, loose id → tighter id) :
    Sound state tighter :=
  { sound with live := fun id member held => sound.live id member fun is => held (fewer id is) }

theorem erase_length {id : Nat} (member : id ∈ state.controls) :
    (state.controls.erase id).keys.length + 1 = state.controls.keys.length := by
  rw [AList.keys_erase, List.length_erase_of_mem (AList.mem_keys.mp member)]
  have := List.length_pos_of_mem (AList.mem_keys.mp member)
  omega

theorem reap_sound (state : State α) {id : Nat} (sound : Sound state (· = id)) (member : id ∈ state.controls) :
    Sound (state.reap id) (fun _ => False) := by
  unfold State.reap
  split
  next held =>
    exact { sound with
      live := fun other there _ => by
        by_cases same : other = id
        · exact same ▸ held
        · exact sound.live other there same }
  next free =>
    exact { sound with
      balance := by
        have := erase_length member
        have := sound.balance
        simp only
        omega
      held := fun other held => by
        refine AList.mem_erase.mpr ⟨fun same => free (same ▸ held), sound.held other held⟩
      live := fun other there _ => by
        have there := AList.mem_erase.mp there
        exact sound.live other there.2 there.1
      fresh := fun other there => sound.fresh other (AList.mem_erase.mp there).2
      known := fun other connection found => by
        have different : other ≠ id := by
          rintro rfl
          simp [AList.lookup_erase] at found
        rw [AList.lookup_erase_ne different] at found
        exact sound.known other connection found
      flowKey := fun key other connection flow found => by
        have different : other ≠ id := by
          rintro rfl
          simp [AList.lookup_erase] at found
        rw [AList.lookup_erase_ne different] at found
        exact sound.flowKey key other connection flow found }

theorem insert_length {id : Nat} {connection : Connection α} (member : id ∈ state.controls) :
    (state.controls.insert id connection).keys.length = state.controls.keys.length := by
  rw [AList.keys_insert, List.length_cons, List.length_erase_of_mem (AList.mem_keys.mp member)]
  have := List.length_pos_of_mem (AList.mem_keys.mp member)
  omega

/-- A change of a control that does not open it again. -/
theorem update_sound (sound : Sound state loose) (id : Nat) {change : TcpSocketControl → TcpSocketControl}
    (closes : ∀ control, control.recvState = .closed → (change control).recvState = .closed) :
    Sound (state.update id change) loose := by
  unfold State.update
  split
  next connection found =>
    have member : id ∈ state.controls := AList.lookup_isSome.mp (by simp [found])
    have among (other : Nat) : other ∈ state.controls.insert id { connection with control := change connection.control } ↔
        other ∈ state.controls := by
      rw [AList.mem_insert]
      exact or_iff_right_of_imp fun same => same ▸ member
    exact { sound with
      balance := by rw [insert_length member]; exact sound.balance
      held := fun other held => (among other).mpr (sound.held other held)
      live := fun other there => sound.live other ((among other).mp there)
      fresh := fun other there => sound.fresh other ((among other).mp there)
      known := fun other changed there still => by
        by_cases same : other = id
        · subst same
          rw [AList.lookup_insert] at there
          cases there
          exact sound.known other connection found fun closed => still (closes _ closed)
        · rw [AList.lookup_insert_ne same] at there
          exact sound.known other changed there still
      flowKey := fun key other changed flow there => by
        by_cases same : other = id
        · subst same
          rw [AList.lookup_insert] at there
          cases there
          exact sound.flowKey key other connection flow found
        · rw [AList.lookup_insert_ne same] at there
          exact sound.flowKey key other changed flow there }
  next => exact sound

theorem mem_update {id other : Nat} {change : TcpSocketControl → TcpSocketControl} :
    other ∈ (state.update id change).controls ↔ other ∈ state.controls := by
  unfold State.update
  split
  next connection found =>
    have member : id ∈ state.controls := AList.lookup_isSome.mp (by simp [found])
    rw [AList.mem_insert]
    exact or_iff_right_of_imp fun same => same ▸ member
  next => rfl

theorem retained {key : α} {id : Nat} : state.retainFlows.flows.lookup key = some id ↔
    state.flows.lookup key = some id ∧ ∃ connection, state.controls.lookup id = some connection ∧
      connection.control.recvState ≠ .closed := by
  rw [State.retainFlows, Map.lookup_retain, Option.filter_eq_some_iff]
  simp [State.isOpen, Option.any_eq_true]

/-- Without the flows that ended, each is a connection of its own. -/
theorem retain_length (sound : Sound state loose) :
    state.retainFlows.flows.keys.length ≤ state.controls.keys.length := by
  let identity (key : α) : Nat := (state.retainFlows.flows.lookup key).getD 0
  have entry {key : α} (member : key ∈ state.retainFlows.flows.keys) :
      state.retainFlows.flows.lookup key = some (identity key) := by
    obtain ⟨id, found⟩ := Option.isSome_iff_exists.mp (AList.lookup_isSome.mpr (AList.mem_keys.mpr member))
    simp [identity, found]
  have distinct : (state.retainFlows.flows.keys.map identity).Nodup := by
    apply List.Nodup.map_on _ state.retainFlows.flows.keys_nodup
    intro first firstMember second secondMember same
    obtain ⟨firstFlow, connection, found, -⟩ := retained.mp (entry firstMember)
    have secondFlow := (retained.mp (entry secondMember)).1
    rw [← same] at secondFlow
    rw [← sound.flowKey first _ connection firstFlow found, sound.flowKey second _ connection secondFlow found]
  have among : state.retainFlows.flows.keys.map identity ⊆ state.controls.keys := by
    intro id member
    obtain ⟨key, keyMember, rfl⟩ := List.mem_map.mp member
    obtain ⟨-, connection, found, -⟩ := retained.mp (entry keyMember)
    exact AList.mem_keys.mp (AList.lookup_isSome.mp (by simp [found]))
  simpa using (List.subperm_of_subset distinct among).length_le

theorem retain_sound (sound : Sound state loose) : Sound state.retainFlows loose :=
  { sound with
    flowsFresh := fun key id found => sound.flowsFresh key id (retained.mp found).1
    known := fun id connection found still => retained.mpr ⟨sound.known id connection found still, connection, found, still⟩
    flowKey := fun key id connection flow => sound.flowKey key id connection (retained.mp flow).1
    flowsBound := by
      have := retain_length sound
      have := sound.balance
      omega }

theorem offer_sound (sound : Sound state loose) (packet : Packet α) : Sound (state.offer packet) loose := by
  unfold State.offer
  split
  next room => exact { sound with ingressBound := by rwa [List.length_append] }
  next => exact sound

theorem newConnection_some {key : α} {listens : Bool} {state' : State α}
    (admitted : state.newConnection key listens = some state') :
    (0 < state.available ∧ state.streams.length < capacity ∧ state.creations.length < capacity ∧ listens = true) ∧
    state' = { state with
      available := state.available - 1
      controls := state.controls.insert state.next ⟨key, {}⟩
      flows := state.flows.insert key state.next
      streams := state.streams ++ [state.next]
      creations := state.creations ++ [state.next]
      next := state.next + 1 } := by
  rw [State.newConnection, Option.ite_none_right_eq_some] at admitted
  exact ⟨admitted.1, (Option.some.inj admitted.2).symm⟩

theorem admit_sound {key : α} {listens : Bool} {state' : State α} (sound : Sound state fun _ => False)
    (unknown : key ∉ state.flows) (few : state.flows.keys.length ≤ state.controls.keys.length)
    (admitted : state.newConnection key listens = some state') : Sound state' fun _ => False := by
  obtain ⟨⟨available, streams, creations, -⟩, rfl⟩ := newConnection_some admitted
  have new : state.next ∉ state.controls := fun member => Nat.lt_irrefl _ (sound.fresh _ member)
  have unheld : ¬state.Held state.next := fun held => new (sound.held _ held)
  simp only [State.Held, not_or] at unheld
  have older {id : Nat} (member : id ∈ state.controls) : id ≠ state.next := Nat.ne_of_lt (sound.fresh id member)
  have balance := sound.balance
  constructor
  case balance =>
    rw [AList.keys_insert, List.erase_of_not_mem (mt AList.mem_keys.mpr new), List.length_cons]
    simp only
    omega
  case streamsBound => rwa [List.length_append]
  case creationsBound => rwa [List.length_append]
  case ingressBound => exact sound.ingressBound
  case streamOnce =>
    have once := sound.streamOnce
    simp only [List.append_assoc, List.nodup_append, List.mem_append, List.mem_singleton, List.nodup_cons] at once ⊢
    grind
  case socketOnce =>
    have once := sound.socketOnce
    simp only [List.append_assoc, List.nodup_append, List.mem_append, List.mem_singleton, List.nodup_cons] at once ⊢
    grind
  case held =>
    intro id held
    rw [AList.mem_insert]
    have before := sound.held id
    simp only [State.Held, List.mem_append, List.mem_singleton] at held before
    tauto
  case live =>
    intro id member _
    have before := fun there => sound.live id there (fun never => never)
    rw [AList.mem_insert] at member
    simp only [State.Held, List.mem_append, List.mem_singleton] at before ⊢
    tauto
  case fresh =>
    intro id member
    rcases (AList.mem_insert _).mp member with rfl | there
    · exact Nat.lt_succ_self _
    · exact Nat.lt_succ_of_lt (sound.fresh id there)
  case flowsFresh =>
    intro other id found
    by_cases same : other = key
    · rw [same, AList.lookup_insert] at found
      cases found
      exact Nat.lt_succ_self _
    · rw [AList.lookup_insert_ne same] at found
      exact Nat.lt_succ_of_lt (sound.flowsFresh other id found)
  case known =>
    intro id connection found still
    by_cases same : id = state.next
    · subst same
      rw [AList.lookup_insert] at found
      cases found
      exact AList.lookup_insert _
    · rw [AList.lookup_insert_ne same] at found
      have flow := sound.known id connection found still
      have different : connection.key ≠ key := by
        rintro rfl
        rw [AList.lookup_eq_none.mpr unknown] at flow
        cases flow
      rw [AList.lookup_insert_ne different]
      exact flow
  case flowKey =>
    intro other id connection flow found
    by_cases same : other = key
    · subst same
      rw [AList.lookup_insert] at flow
      cases flow
      rw [AList.lookup_insert] at found
      cases found
      rfl
    · rw [AList.lookup_insert_ne same] at flow
      rw [AList.lookup_insert_ne (Nat.ne_of_lt (sound.flowsFresh other id flow))] at found
      exact sound.flowKey other id connection flow found
  case flowsBound =>
    rw [AList.keys_insert, List.erase_of_not_mem (mt AList.mem_keys.mpr unknown), List.length_cons]
    omega

theorem handlePacket_sound (sound : Sound state fun _ => False) (packet : Packet α) (listens : Bool) :
    Sound (state.handlePacket packet listens) fun _ => False := by
  cases packet with
  | invalid => exact sound
  | malformed => exact sound
  | icmp =>
    simp only [State.handlePacket]
    split
    next room => exact { sound with ingressBound := by rwa [List.length_append] }
    next => exact { sound with }
  | tcp key syn ack =>
    have kept := retain_sound sound
    simp only [State.handlePacket]
    split
    next first =>
      split
      next state' admitted =>
        exact offer_sound (admit_sound kept first.2.2 (retain_length sound) admitted) _
      next => exact kept
    next => exact offer_sound kept _

theorem dropped_closed (control : TcpSocketControl) (closed : control.recvState = .closed) :
    (dropped control).recvState = .closed := by
  simp [dropped, closed]

/-- A stream taken out of its list is dropped. -/
theorem dropStream_sound (state : State α) {id : Nat} (sound : Sound state (· = id)) (member : id ∈ state.controls) :
    Sound (state.dropStream id) fun _ => False :=
  reap_sound _ (update_sound sound id dropped_closed) (mem_update.mpr member)

theorem accept_sound {state' : State α} (sound : Sound state fun _ => False) (accepted : state.accept = some state') :
    Sound state' fun _ => False := by
  unfold State.accept at accepted
  split at accepted
  next => cases accepted
  next id streams first =>
    have once := sound.streamOnce
    have bound := sound.streamsBound
    have held := sound.held
    have live := sound.live
    simp only [first, List.cons_append, List.nodup_cons, List.length_cons, State.Held, List.mem_cons, List.mem_append]
      at once bound held live
    have member : id ∈ state.controls := held id (Or.inl (Or.inl rfl))
    split at accepted
    · cases accepted
      apply dropStream_sound { state with streams } _ member
      exact { sound with
        streamsBound := Nat.le_of_succ_le bound
        streamOnce := once.2
        held := fun other holds => by
          simp only [State.Held] at holds
          exact held other (by tauto)
        live := fun other there different => by
          have := live other there not_false
          simp only [State.Held]
          tauto }
    · cases accepted
      exact { sound with
        streamsBound := Nat.le_of_succ_le bound
        streamOnce := by
          simp only
          rw [← List.append_assoc, List.nodup_append_comm, List.singleton_append, List.nodup_cons, List.mem_append]
          exact once
        held := fun other holds => by
          simp only [State.Held, List.mem_append, List.mem_singleton] at holds
          exact held other (by tauto)
        live := fun other there different => by
          have := live other there not_false
          simp only [State.Held, List.mem_append, List.mem_singleton]
          tauto }

theorem closeReceive_closed (control : TcpSocketControl) (closed : control.recvState = .closed) :
    (closeReceive control).recvState = .closed := by
  simp [closeReceive, closed]

theorem taskEnds_sound {id : Nat} (sound : Sound state fun _ => False) (running : id ∈ state.tasks) :
    Sound (State.dropStream { state with tasks := state.tasks.erase id, ended := state.ended + 1 } id) fun _ => False := by
  have member : id ∈ state.controls := sound.held id (Or.inr (Or.inl running))
  apply dropStream_sound { state with tasks := state.tasks.erase id, ended := state.ended + 1 } _ member
  exact { sound with
    streamOnce := sound.streamOnce.sublist ((List.erase_sublist ..).append_left _)
    held := fun other holds => sound.held other (by
      simp only [State.Held] at holds ⊢
      exact holds.imp_right (Or.imp_left List.mem_of_mem_erase))
    live := fun other there different => by
      have := sound.live other there not_false
      simp only [State.Held] at this ⊢
      rwa [List.mem_erase_of_ne different] }

theorem adopt_sound (sound : Sound state loose) :
    Sound { state with sockets := state.sockets ++ state.creations, creations := [] } loose := by
  have same (id : Nat) :
      State.Held { state with sockets := state.sockets ++ state.creations, creations := [] } id ↔ state.Held id := by
    simp only [State.Held, List.not_mem_nil, List.mem_append]
    tauto
  exact { sound with
    creationsBound := Nat.zero_le _
    socketOnce := by simpa using List.nodup_append_comm.mp sound.socketOnce
    held := fun id holds => sound.held id ((same id).mp holds)
    live := fun id there fixed => (same id).mpr (sound.live id there fixed) }

theorem update_sockets (state : State α) (id : Nat) (change : TcpSocketControl → TcpSocketControl) :
    (state.update id change).streams = state.streams ∧ (state.update id change).tasks = state.tasks ∧
    (state.update id change).creations = state.creations ∧ (state.update id change).sockets = state.sockets := by
  unfold State.update
  split <;> exact ⟨rfl, rfl, rfl, rfl⟩

theorem closed_sound {id : Nat} (sound : Sound state fun _ => False) (there : id ∈ state.sockets) :
    Sound (State.reap { state.update id closeBoth with sockets := state.sockets.erase id } id) fun _ => False := by
  have member : id ∈ state.controls := sound.held id (Or.inr (Or.inr (Or.inr there)))
  have changed := update_sound sound id (fun _ _ => rfl : ∀ control : TcpSocketControl, control.recvState = .closed →
    (closeBoth control).recvState = .closed)
  obtain ⟨streams, tasks, creations, sockets⟩ := update_sockets state id closeBoth
  apply reap_sound { state.update id closeBoth with sockets := state.sockets.erase id } _ (mem_update.mpr member)
  exact { changed with
    socketOnce := by
      rw [creations]
      exact sound.socketOnce.sublist ((List.erase_sublist ..).append_left _)
    held := fun other holds => mem_update.mpr (sound.held other (by
      simp only [State.Held, streams, tasks, creations] at holds ⊢
      exact holds.imp_right (Or.imp_right (Or.imp_right List.mem_of_mem_erase))))
    live := fun other there different => by
      have := sound.live other (mem_update.mp there) not_false
      simp only [State.Held, streams, tasks, creations] at this ⊢
      rwa [List.mem_erase_of_ne different] }

theorem step_sound {event : Event α} {state' : State α} (sound : Sound state fun _ => False)
    (stepped : step state event = some state') : Sound state' fun _ => False := by
  unfold step at stepped
  rw [Option.ite_none_left_eq_some] at stepped
  obtain ⟨-, stepped⟩ := stepped
  cases event with
  | packet packet listens =>
    cases stepped
    exact handlePacket_sound sound packet listens
  | accept => exact accept_sound sound stepped
  | taskEnds id =>
    rw [Option.ite_none_right_eq_some] at stepped
    obtain ⟨running, stepped⟩ := stepped
    cases stepped
    exact taskEnds_sound sound running
  | joined =>
    rw [Option.ite_none_right_eq_some] at stepped
    obtain ⟨-, stepped⟩ := stepped
    cases stepped
    exact { sound with }
  | adopt =>
    cases stepped
    exact adopt_sound sound
  | polled count =>
    cases stepped
    exact { sound with
      ingressBound := Nat.le_trans (by simp) sound.ingressBound }
  | receiveEnds id =>
    rw [Option.ite_none_right_eq_some] at stepped
    obtain ⟨-, stepped⟩ := stepped
    cases stepped
    exact update_sound sound id closeReceive_closed
  | closed id =>
    rw [Option.ite_none_right_eq_some] at stepped
    obtain ⟨there, stepped⟩ := stepped
    cases stepped
    exact closed_sound sound there

theorem run_sound {events : List (Event α)} (ran : run step start events = some state) :
    Sound state fun _ => False :=
  run_invariant (Sound · fun _ => False) (fun _ _ _ sound stepped => step_sound sound stepped) start_sound ran

/-! ## What is admitted -/

namespace State

/-- A connection of these addresses whose receive half has not ended. -/
def Known (state : State α) (key : α) : Prop :=
  ∃ id connection, state.controls.lookup id = some connection ∧ connection.key = key ∧
    connection.control.recvState ≠ .closed

/-- The addresses are free, and so is a permit and a place in either queue. -/
def Admits (state : State α) (key : α) (listens : Bool) : Prop :=
  ¬state.Known key ∧ 0 < state.available ∧ state.streams.length < capacity ∧ state.creations.length < capacity ∧
    listens = true

/-- A new connection was made, with a stream for the listener and a socket for the runner. -/
structure Made (before after : State α) (key : α) : Prop where
  new : before.next ∉ before.controls
  control : after.controls.lookup before.next = some ⟨key, {}⟩
  stream : after.streams = before.streams ++ [before.next]
  creation : after.creations = before.creations ++ [before.next]
  permit : after.available + 1 = before.available

/-- Nothing was made: the tables and queues of connections are as they were. -/
structure Same (before after : State α) : Prop where
  available : after.available = before.available
  controls : after.controls = before.controls
  streams : after.streams = before.streams
  creations : after.creations = before.creations

end State

theorem offer_same (state : State α) (packet : Packet α) : State.Same state (state.offer packet) := by
  unfold State.offer
  split <;> exact ⟨rfl, rfl, rfl, rfl⟩

theorem mem_retained_flows (sound : Sound state loose) {key : α} : key ∈ state.retainFlows.flows ↔ state.Known key := by
  rw [← AList.lookup_isSome, Option.isSome_iff_exists]
  constructor
  · rintro ⟨id, flow⟩
    obtain ⟨flow, connection, found, still⟩ := retained.mp flow
    exact ⟨id, connection, found, sound.flowKey key id connection flow found, still⟩
  · rintro ⟨id, connection, found, rfl, still⟩
    exact ⟨id, retained.mpr ⟨sound.known id connection found still, connection, found, still⟩⟩

theorem first_packet {key : α} {listens : Bool} {made : State α} (unknown : key ∉ state.retainFlows.flows)
    (admitted : state.retainFlows.newConnection key listens = some made) :
    State.Same made (state.handlePacket (.tcp key true false) listens) := by
  simp only [State.handlePacket, unknown, admitted, true_and, not_false_eq_true, Bool.false_eq_true, if_true]
  exact offer_same _ _

/-- A first handshake packet makes a stream and a socket, or nothing. -/
theorem handlePacket_admits (sound : Sound state loose) (key : α) (listens : Bool) :
    let after := state.handlePacket (.tcp key true false) listens
    (state.Admits key listens → State.Made state after key) ∧ (¬state.Admits key listens → State.Same state after) := by
  intro after
  have known : key ∈ state.retainFlows.flows ↔ state.Known key := mem_retained_flows sound
  have new : state.next ∉ state.controls := fun member => Nat.lt_irrefl _ (sound.fresh _ member)
  have same : State.Same state state.retainFlows := ⟨rfl, rfl, rfl, rfl⟩
  constructor
  · intro admits
    have unknown : key ∉ state.retainFlows.flows := mt known.mp admits.1
    have admitted : state.retainFlows.newConnection key listens = some _ := if_pos admits.2
    have kept := first_packet unknown admitted
    constructor
    case new => exact new
    case control =>
      rw [kept.controls]
      exact AList.lookup_insert _
    case stream => exact kept.streams
    case creation => exact kept.creations
    case permit =>
      rw [kept.available]
      exact Nat.sub_add_cancel admits.2.1
  · intro refused
    by_cases unknown : key ∉ state.retainFlows.flows
    · have rejected : state.retainFlows.newConnection key listens = none :=
        if_neg fun admits => refused ⟨mt known.mpr unknown, admits⟩
      simpa only [after, State.handlePacket, unknown, rejected, true_and, not_false_eq_true, Bool.false_eq_true, if_true]
        using same
    · have passed : after = state.retainFlows.offer (.tcp key true false) := by
        simp only [after, State.handlePacket, unknown, and_false, if_false]
      have kept := offer_same state.retainFlows (.tcp key true false)
      rw [← passed] at kept
      exact ⟨kept.available, kept.controls, kept.streams, kept.creations⟩

theorem taken_fewer (sound : Sound state fun _ => False) {id : Nat} {rest : List Nat} (first : state.streams = id :: rest) :
    state.tasks.length < maxTasks := by
  have once := sound.streamOnce
  have among : state.streams ++ state.tasks ⊆ state.controls.keys := by
    intro other member
    apply AList.mem_keys.mp (sound.held other _)
    rw [List.mem_append] at member
    simp only [State.Held]
    tauto
  have bound := (once.subperm among).length_le
  have balance := sound.balance
  simp only [first, List.length_append, List.length_cons, permits] at bound balance
  simp only [maxTasks]
  omega

end

/-- In every run a control has one of 1024 permits while anyone holds it, no two open connections share their addresses, a
first handshake packet makes both a stream and a socket or neither, and a stream that was admitted is turned away only while a
relay that ended waits to be joined. -/
theorem connections_are_admitted {events : List (Event α)} {state : State α} (ran : run step start events = some state) :
    state.available + state.controls.keys.length = permits ∧ state.flows.keys.length ≤ permits ∧
    state.streams.length ≤ capacity ∧ state.creations.length ≤ capacity ∧ state.ingress.length ≤ capacity ∧
    (∀ id, id ∈ state.controls ↔ state.Held id) ∧
    (∀ first second one two, state.controls.lookup first = some one → state.controls.lookup second = some two →
      one.key = two.key → one.control.recvState ≠ .closed → two.control.recvState ≠ .closed → first = second) ∧
    (∀ key listens,
      (state.Admits key listens → State.Made state (state.handlePacket (.tcp key true false) listens) key) ∧
      (¬state.Admits key listens → State.Same state (state.handlePacket (.tcp key true false) listens))) ∧
    ∀ id rest, state.streams = id :: rest → state.ended = 0 →
      state.accept = some { state with streams := rest, tasks := state.tasks ++ [id] } := by
  have sound := run_sound ran
  refine ⟨sound.balance, sound.flowsBound, sound.streamsBound, sound.creationsBound, sound.ingressBound,
    fun id => ⟨fun member => sound.live id member not_false, sound.held id⟩, ?_, handlePacket_admits sound, ?_⟩
  · intro first second one two foundOne foundTwo same openOne openTwo
    have flowOne := sound.known first one foundOne openOne
    have flowTwo := sound.known second two foundTwo openTwo
    rw [same, flowTwo] at flowOne
    exact (Option.some.inj flowOne).symm
  · intro id rest first none_ended
    have fewer := taken_fewer sound first
    rw [← Nat.add_zero state.tasks.length, ← none_ended] at fewer
    simp [State.accept, first, Nat.not_le.mpr fewer]

/-- A connection that is opened, accepted and left by its relay, and the same addresses once more. -/
def reopened : List (Event Nat) :=
  [.packet (.tcp 5 true false) true, .packet (.tcp 5 true false) true, .accept, .adopt, .taskEnds 0, .joined]

theorem connections_are_admitted_reopened :
    ∃ state, run step (start : State Nat) reopened = some state ∧ state.controls.keys.length = 1 ∧
      state.Held 0 ∧ State.Same state (state.handlePacket (.tcp 5 true false) true) := by
  have ran : ∃ state, run step (start : State Nat) reopened = some state ∧ state.available = 1023 ∧ state.sockets = [0] ∧
      state.controls.lookup 0 = some ⟨5, dropped {}⟩ := by
    refine ⟨_, rfl, ?_⟩
    decide
  obtain ⟨state, ran, available, sockets, found⟩ := ran
  obtain ⟨balance, -, -, -, -, -, -, packets, -⟩ := connections_are_admitted ran
  refine ⟨state, ran, ?_, ?_, ?_⟩
  · rw [available] at balance
    exact Nat.add_left_cancel balance
  · exact Or.inr (Or.inr (Or.inr (by simp [sockets])))
  · apply (packets 5 true).2
    exact fun admits => admits.1 ⟨0, _, found, rfl, by decide⟩

end

end Skimasque.Native.Admission
