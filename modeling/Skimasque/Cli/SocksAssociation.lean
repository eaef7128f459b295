import Mathlib.Data.List.Sublists
import Mathlib.Logic.Function.Basic
import Skimasque.Cli.SocksPacket
import Skimasque.Library.Queue
import Skimasque.Library.Transition

/-! A SOCKS5 UDP association: one task that takes the client's datagrams, and a pump for each tunnel it opens.

The two are joined by a queue of 256 datagrams. Everything that an await may return is an event, in any order.
-/

set_option autoImplicit false

namespace Skimasque.Cli
open Library Library.Address Library.Transition Skimasque.Core

def queueCapacity : Nat := 256

inductive Phase where
  | running
  /-- Out of its loop, waiting for `tunnel.close()`. -/
  | closing
  | ended
  deriving DecidableEq, Repr

/-- The task of one tunnel; what is left of its queue goes with it. -/
structure Pump where
  destination : SocksAddress
  client : SocketAddr
  target : Target
  queue : List Bytes
  phase : Phase
  deriving DecidableEq, Repr

/-- A datagram whose tunnel is being opened. -/
structure Opening where
  destination : SocksAddress
  client : SocketAddr
  target : Target
  payload : Bytes
  deriving DecidableEq, Repr

/-- A payload that went into a tunnel. -/
structure Sent where
  tunnel : Nat
  destination : SocksAddress
  payload : Bytes
  deriving DecidableEq, Repr

/-- A packet that went back to a client, and the payload of the tunnel in it. -/
structure Reply where
  tunnel : Nat
  client : SocketAddr
  packet : Bytes
  payload : Bytes
  deriving DecidableEq, Repr

/-- The association, the pumps it has spawned by their number, and what has passed so far. -/
structure Association where
  expectedClient : Option SocketAddr
  tunnels : SocksAddress → Option Nat
  pumps : Nat → Option Pump
  spawned : Nat
  opening : Option Opening
  closed : Bool
  /-- What the pinned client sent, in order. -/
  received : List (SocksAddress × Bytes)
  sent : List Sent
  replies : List Reply

def Association.start (expectedClient : Option SocketAddr) : Association where
  expectedClient
  tunnels _ := none
  pumps _ := none
  spawned := 0
  opening := none
  closed := false
  received := []
  sent := []
  replies := []

inductive PumpEvent where
  /-- `outbound.recv()` has a payload, and `tunnel.send` succeeds or not. -/
  | toTarget (sent : Bool)
  /-- `tunnel.recv()` has a reply, and `relay.send_to` succeeds or not. -/
  | toClient (reply : Bytes) (sent : Bool)
  | outboundClosed
  | tunnelClosed
  | idle
  /-- `tunnel.close()` has returned. -/
  | ended
  deriving DecidableEq, Repr

inductive AssociationEvent where
  | datagram (sender : SocketAddr) (packet : Bytes)
  /-- `session.connect_udp` has returned. -/
  | connected (ok : Bool)
  /-- The control connection or the relay socket ends the association. -/
  | finished
  | pump (tunnel : Nat) (event : PumpEvent)
  deriving DecidableEq, Repr

/-- `try_send` into the queue of a tunnel: its pump still has the other end, and there is room. -/
def Pump.offer (pump : Pump) (payload : Bytes) : Option Pump :=
  if pump.phase = .ended then none
  else (Queue.trySend queueCapacity pump.queue payload).map fun queue => { pump with queue }

namespace Association

/-- Have a tunnel opened for the datagram. -/
def openTunnel (s : Association) (destination : SocksAddress) (client : SocketAddr) (payload : Bytes) : Association :=
  match destination.toTarget with
  | .error _ => s
  | .ok target => { s with opening := some ⟨destination, client, target, payload⟩ }

/-- `forward`, up to where it waits for a tunnel. -/
def forward (s : Association) (packet : Bytes) (client : SocketAddr) : Association :=
  match decodeUdpPacket packet with
  | .error _ => s
  | .ok (frag, destination, payload) =>
    if frag ≠ 0 then s
    else
      let s := { s with received := s.received ++ [(destination, payload)] }
      match s.tunnels destination with
      | none => s.openTunnel destination client payload
      | some tunnel =>
        match (s.pumps tunnel).bind (·.offer payload) with
        | some pump => { s with pumps := Function.update s.pumps tunnel (some pump) }
        -- Taken to mean that the tunnel's task has gone.
        | none => { s with tunnels := Function.update s.tunnels destination none }.openTunnel destination client payload

/-- `forward` from there on: the queue, its first datagram, and the task. -/
def spawn (s : Association) (opening : Opening) : Association :=
  { s with
    tunnels := Function.update s.tunnels opening.destination (some s.spawned)
    pumps := Function.update s.pumps s.spawned
      (some ⟨opening.destination, opening.client, opening.target, [opening.payload], .running⟩)
    spawned := s.spawned + 1 }

def setPump (s : Association) (tunnel : Nat) (pump : Pump) : Association :=
  { s with pumps := Function.update s.pumps tunnel (some pump) }

/-- One turn of `pump`, where what it waits for can have come. -/
def pumpStep (s : Association) (tunnel : Nat) (pump : Pump) : PumpEvent → Option Association
  | .toTarget sent =>
    match pump.phase, pump.queue with
    | .running, payload :: queue =>
      let s := s.setPump tunnel { pump with queue }
      some (if sent then { s with sent := s.sent ++ [⟨tunnel, pump.destination, payload⟩] } else s)
    | _, _ => none
  | .toClient reply sent =>
    if pump.phase ≠ .running then none
    else if sent then
      some { s with replies := s.replies ++
        [⟨tunnel, pump.client, encodeUdpPacket pump.destination reply, reply⟩] }
    else some (s.setPump tunnel { pump with phase := .closing })
  | .outboundClosed =>
    -- The queue is empty and its sender is no longer in the map.
    if pump.phase = .running ∧ pump.queue = [] ∧ s.tunnels pump.destination ≠ some tunnel then
      some (s.setPump tunnel { pump with phase := .closing })
    else none
  | .tunnelClosed | .idle =>
    if pump.phase = .running then some (s.setPump tunnel { pump with phase := .closing }) else none
  | .ended => if pump.phase = .closing then some (s.setPump tunnel { pump with phase := .ended }) else none

def step (s : Association) : AssociationEvent → Option Association
  | .datagram sender packet =>
    if s.closed ∨ s.opening.isSome then none
    else
      match s.expectedClient with
      | some client => if client ≠ sender then some s else some (s.forward packet sender)
      | none => some ({ s with expectedClient := some sender }.forward packet sender)
  | .connected ok =>
    match s.opening with
    | none => none
    | some opening =>
      let s := { s with opening := none }
      some (if ok then s.spawn opening else s)
  | .finished =>
    if s.closed ∨ s.opening.isSome then none else some { s with closed := true, tunnels := fun _ => none }
  | .pump tunnel event => (s.pumps tunnel).bind fun pump => s.pumpStep tunnel pump event

/-! ## What an association keeps -/

def receivedFor (s : Association) (destination : SocksAddress) : List Bytes :=
  (s.received.filter fun entry => entry.1 = destination).map Prod.snd

def sentFor (s : Association) (destination : SocksAddress) : List Bytes :=
  (s.sent.filter fun sent => sent.destination = destination).map Sent.payload

/-- One open tunnel a destination, its payloads in the order they came, and every reply under the name
of its tunnel and to the pinned client. -/
structure KeepsTunnels (s : Association) : Prop where
  one : ∀ first second : Nat, ∀ pump other : Pump, s.pumps first = some pump → s.pumps second = some other →
    pump.phase ≠ .ended → other.phase ≠ .ended → pump.destination = other.destination → first = second
  ordered : ∀ destination, (s.sentFor destination).Sublist (s.receivedFor destination)
  labelled : ∀ reply ∈ s.replies, ∃ pump, s.pumps reply.tunnel = some pump ∧
    pump.destination.toTarget = .ok pump.target ∧
    decodeUdpPacket reply.packet = .ok (0, pump.destination, reply.payload) ∧ s.expectedClient = some reply.client

/-- A datagram of the client for a destination whose pump has not ended finds room in its queue. -/
def FindsRoom (s : Association) (event : AssociationEvent) : Prop :=
  ∀ sender packet destination payload tunnel pump, event = .datagram sender packet →
    s.expectedClient.getD sender = sender → decodeUdpPacket packet = .ok (0, destination, payload) →
      s.tunnels destination = some tunnel → s.pumps tunnel = some pump → pump.phase ≠ .ended →
        pump.queue.length < queueCapacity

/-- The datagram is on the record of what the client sent. -/
def receive (s : Association) (destination : SocksAddress) (payload : Bytes) : Association :=
  { s with received := s.received ++ [(destination, payload)] }

/-! ## What a step can do -/

@[simp] theorem setPump_self {s : Association} {tunnel : Nat} {pump : Pump} :
    (s.setPump tunnel pump).pumps tunnel = some pump := Function.update_self ..

theorem setPump_of_ne {s : Association} {tunnel other : Nat} {pump : Pump} (apart : other ≠ tunnel) :
    (s.setPump tunnel pump).pumps other = s.pumps other := Function.update_of_ne apart ..

theorem spawn_new {s : Association} {opening : Opening} : (s.spawn opening).pumps s.spawned =
    some ⟨opening.destination, opening.client, opening.target, [opening.payload], .running⟩ := Function.update_self ..

theorem spawn_of_ne {s : Association} {opening : Opening} {other : Nat} (apart : other ≠ s.spawned) :
    (s.spawn opening).pumps other = s.pumps other := Function.update_of_ne apart ..

theorem forward_cases {s : Association} {packet : Bytes} {client : SocketAddr} :
    s.forward packet client = s ∨
    ∃ destination payload, decodeUdpPacket packet = .ok (0, destination, payload) ∧
      ((∃ tunnel pump, s.tunnels destination = some tunnel ∧ s.pumps tunnel = some pump ∧ pump.phase ≠ .ended ∧
          s.forward packet client =
            (s.receive destination payload).setPump tunnel { pump with queue := pump.queue ++ [payload] }) ∨
       ((∀ tunnel pump, s.tunnels destination = some tunnel → s.pumps tunnel = some pump → pump.offer payload = none) ∧
          ∃ opening, (∀ o, opening = some o → s.opening = some o ∨ destination.toTarget = .ok o.target ∧
              o = ⟨destination, client, o.target, payload⟩) ∧
            s.forward packet client = { s.receive destination payload with
              tunnels := Function.update s.tunnels destination none, opening })) := by
  unfold forward
  split
  · exact Or.inl rfl
  rename_i frag destination payload decoded
  by_cases fragment : frag = 0
  swap
  · exact Or.inl (by rw [if_pos fragment])
  subst fragment
  apply Or.inr
  refine ⟨destination, payload, decoded, ?_⟩
  rw [if_neg (by simp)]
  have opens (t : Association) (kept : t.opening = s.opening) :
      ∃ opening, (∀ o, opening = some o → s.opening = some o ∨ destination.toTarget = .ok o.target ∧
          o = ⟨destination, client, o.target, payload⟩) ∧
        t.openTunnel destination client payload = { t with opening } := by
    unfold openTunnel
    split
    · exact ⟨t.opening, fun o same => Or.inl (kept ▸ same), rfl⟩
    · rename_i target found
      refine ⟨some ⟨destination, client, target, payload⟩, fun o same => Or.inr ?_, rfl⟩
      cases same
      exact ⟨found, rfl⟩
  dsimp only
  split
  · rename_i missing
    obtain ⟨opening, names, opened⟩ := opens (s.receive destination payload) rfl
    have unchanged : Function.update s.tunnels destination none = s.tunnels :=
      Function.update_eq_self_iff.mpr missing.symm
    refine Or.inr ⟨fun tunnel _ held => ?_, opening, names, ?_⟩
    · rw [show s.tunnels destination = none from missing] at held
      cases held
    · rw [unchanged]
      exact opened
  · rename_i tunnel found
    split
    · rename_i pump' offered
      obtain ⟨pump, held, accepted⟩ := Option.bind_eq_some_iff.mp offered
      unfold Pump.offer at accepted
      split at accepted
      · cases accepted
      · rename_i live
        obtain ⟨queue, room, same⟩ := Option.map_eq_some_iff.mp accepted
        unfold Queue.trySend at room
        split at room
        · cases room
          cases same
          exact Or.inl ⟨tunnel, pump, found, held, live, rfl⟩
        · cases room
    · rename_i refused
      obtain ⟨opening, names, opened⟩ := opens { s.receive destination payload with
        tunnels := Function.update s.tunnels destination none } rfl
      refine Or.inr ⟨fun other pump same held => ?_, opening, names, opened⟩
      cases found.symm.trans same
      have unwrapped := Option.bind_eq_none_iff.mp refused pump held
      exact unwrapped

theorem pumpStep_cases {s s' : Association} {tunnel : Nat} {pump : Pump} {event : PumpEvent}
    (stepped : s.pumpStep tunnel pump event = some s') :
    (∃ payload queue, pump.phase = .running ∧ pump.queue = payload :: queue ∧
      (s' = s.setPump tunnel { pump with queue } ∨
        s' = { s.setPump tunnel { pump with queue } with
          sent := s.sent ++ [⟨tunnel, pump.destination, payload⟩] })) ∨
    (∃ reply, s' = { s with replies := s.replies ++
      [⟨tunnel, pump.client, encodeUdpPacket pump.destination reply, reply⟩] }) ∨
    (∃ phase, pump.phase ≠ .ended ∧ s' = s.setPump tunnel { pump with phase }) := by
  have leaves {condition : Prop} [Decidable condition] {phase : Phase} (live : condition → pump.phase ≠ .ended)
      (left : (if condition then some (s.setPump tunnel { pump with phase }) else none) = some s') :
      ∃ phase, pump.phase ≠ .ended ∧ s' = s.setPump tunnel { pump with phase } := by
    split at left
    · rename_i holds
      cases left
      exact ⟨phase, live holds, rfl⟩
    · cases left
  cases event with
  | toTarget sent =>
    apply Or.inl
    dsimp only [pumpStep] at stepped
    split at stepped
    · rename_i payload queue running front
      refine ⟨payload, queue, running, front, ?_⟩
      cases sent with
      | true => exact Or.inr (Option.some.inj stepped).symm
      | false => exact Or.inl (Option.some.inj stepped).symm
    · cases stepped
  | toClient reply sent =>
    apply Or.inr
    dsimp only [pumpStep] at stepped
    split at stepped
    · cases stepped
    · rename_i running
      have live : pump.phase ≠ .ended := by
        intro ended
        rw [ended] at running
        exact running (by decide)
      cases sent with
      | true => exact Or.inl ⟨reply, (Option.some.inj stepped).symm⟩
      | false => exact Or.inr ⟨.closing, live, (Option.some.inj stepped).symm⟩
  | outboundClosed =>
    apply Or.inr
    apply Or.inr
    exact leaves (fun holds => by rw [holds.1]; decide) stepped
  | tunnelClosed =>
    apply Or.inr
    apply Or.inr
    exact leaves (fun running => by rw [running]; decide) stepped
  | idle =>
    apply Or.inr
    apply Or.inr
    exact leaves (fun running => by rw [running]; decide) stepped
  | ended =>
    apply Or.inr
    apply Or.inr
    exact leaves (fun closing => by rw [closing]; decide) stepped

/-! ## Labels -/

/-- What a pump or an opening was made with. -/
def Labelled (s : Association) (destination : SocksAddress) (client : SocketAddr) (target : Target) : Prop :=
  s.expectedClient = some client ∧ destination.toTarget = .ok target ∧ destination.Expressible

structure Labels (s : Association) : Prop where
  pump : ∀ tunnel pump, s.pumps tunnel = some pump → s.Labelled pump.destination pump.client pump.target
  opening : ∀ opening, s.opening = some opening → s.Labelled opening.destination opening.client opening.target
  reply : ∀ reply ∈ s.replies, ∃ pump, s.pumps reply.tunnel = some pump ∧ reply.client = pump.client ∧
    reply.packet = encodeUdpPacket pump.destination reply.payload

/-- Numbers are given once. -/
def Numbered (s : Association) : Prop := ∀ tunnel pump, s.pumps tunnel = some pump → tunnel < s.spawned

theorem Labels.setPump {s : Association} {tunnel : Nat} {pump pump' : Pump} (labels : s.Labels)
    (held : s.pumps tunnel = some pump) (same : pump'.destination = pump.destination ∧ pump'.client = pump.client ∧
      pump'.target = pump.target) : (s.setPump tunnel pump').Labels where
  pump other entry found := by
    by_cases here : other = tunnel
    · subst here
      rw [setPump_self] at found
      cases found
      rw [same.1, same.2.1, same.2.2]
      exact labels.pump other pump held
    · rw [setPump_of_ne here] at found
      exact labels.pump other entry found
  opening := labels.opening
  reply reply member := by
    obtain ⟨entry, found, client, packet⟩ := labels.reply reply member
    by_cases here : reply.tunnel = tunnel
    · rw [here] at found
      cases held.symm.trans found
      refine ⟨pump', ?_, client.trans same.2.1.symm, same.1 ▸ packet⟩
      rw [here, setPump_self]
    · refine ⟨entry, ?_, client, packet⟩
      rw [setPump_of_ne here]
      exact found

theorem Labels.forward {s : Association} (labels : s.Labels) {client : SocketAddr} (pinned : s.expectedClient = some client)
    (packet : Bytes) : (s.forward packet client).Labels := by
  obtain same | ⟨destination, payload, decoded, queued | ⟨_, opening, names, same⟩⟩ := forward_cases (s := s)
  · rw [same]
    exact labels
  · obtain ⟨tunnel, pump, _, held, _, same⟩ := queued
    rw [same]
    have received : (s.receive destination payload).Labels := ⟨labels.pump, labels.opening, labels.reply⟩
    exact received.setPump held ⟨rfl, rfl, rfl⟩
  · rw [same]
    refine ⟨labels.pump, fun o opened => ?_, labels.reply⟩
    obtain before | ⟨target, made⟩ := names o opened
    · exact labels.opening o before
    · rw [made]
      exact ⟨pinned, target, expressible_of_decodeUdpPacket decoded⟩

theorem Numbered.setPump {s : Association} {tunnel : Nat} {pump pump' : Pump} (numbered : s.Numbered)
    (held : s.pumps tunnel = some pump) : (s.setPump tunnel pump').Numbered := by
  intro other entry found
  by_cases here : other = tunnel
  · rw [here]
    exact numbered tunnel pump held
  · rw [setPump_of_ne here] at found
    exact numbered other entry found

theorem Numbered.forward {s : Association} (numbered : s.Numbered) (packet : Bytes) (client : SocketAddr) :
    (s.forward packet client).Numbered := by
  obtain same | ⟨destination, payload, _, ⟨tunnel, pump, _, held, _, same⟩ | ⟨_, opening, _, same⟩⟩ := forward_cases (s := s)
  · rw [same]
    exact numbered
  · rw [same]
    exact Numbered.setPump (s := s.receive destination payload) numbered held
  · rw [same]
    exact numbered

theorem Numbered.fresh {s : Association} (numbered : s.Numbered) : s.pumps s.spawned = none := by
  cases found : s.pumps s.spawned with
  | none => rfl
  | some pump => exact absurd (numbered _ pump found) (Nat.lt_irrefl _)

/-- Every pump was made with its labels, every reply under them, and a new number is free. -/
structure Named (s : Association) : Prop where
  labels : s.Labels
  numbered : s.Numbered

theorem Named.pumpStep {s s' : Association} {tunnel : Nat} {pump : Pump} {event : PumpEvent} (named : s.Named)
    (held : s.pumps tunnel = some pump) (stepped : s.pumpStep tunnel pump event = some s') : s'.Named := by
  have moved (pump' : Pump) (same : pump'.destination = pump.destination ∧ pump'.client = pump.client ∧
      pump'.target = pump.target) : (s.setPump tunnel pump').Named :=
    ⟨named.labels.setPump held same, named.numbered.setPump held⟩
  obtain ⟨payload, queue, _, _, same | same⟩ | ⟨reply, same⟩ | ⟨phase, _, same⟩ := pumpStep_cases stepped
  · rw [same]
    exact moved _ ⟨rfl, rfl, rfl⟩
  · have pumps := moved { pump with queue } ⟨rfl, rfl, rfl⟩
    rw [same]
    exact ⟨⟨pumps.labels.pump, pumps.labels.opening, pumps.labels.reply⟩, pumps.numbered⟩
  · rw [same]
    refine ⟨⟨named.labels.pump, named.labels.opening, fun entry member => ?_⟩, named.numbered⟩
    obtain before | new := List.mem_append.mp member
    · exact named.labels.reply entry before
    · rw [List.mem_singleton.mp new]
      exact ⟨pump, held, rfl, rfl⟩
  · rw [same]
    exact moved _ ⟨rfl, rfl, rfl⟩

theorem Named.spawn {s : Association} {opening : Opening} (named : s.Named)
    (labelled : s.Labelled opening.destination opening.client opening.target) : (s.spawn opening).Named where
  labels :=
    { pump := by
        intro tunnel pump found
        by_cases new : tunnel = s.spawned
        · rw [new, spawn_new] at found
          cases found
          exact labelled
        · rw [spawn_of_ne new] at found
          exact named.labels.pump tunnel pump found
      opening := named.labels.opening
      reply := by
        intro reply member
        obtain ⟨pump, found, label⟩ := named.labels.reply reply member
        have before : reply.tunnel ≠ s.spawned := Nat.ne_of_lt (named.numbered _ pump found)
        exact ⟨pump, by rw [spawn_of_ne before, found], label⟩ }
  numbered := by
    intro tunnel pump found
    by_cases new : tunnel = s.spawned
    · rw [new]
      exact Nat.lt_succ_self _
    · rw [spawn_of_ne new] at found
      exact Nat.lt_succ_of_lt (named.numbered tunnel pump found)

theorem Named.forward {s : Association} (named : s.Named) {client : SocketAddr} (pinned : s.expectedClient = some client)
    (packet : Bytes) : (s.forward packet client).Named :=
  ⟨named.labels.forward pinned packet, named.numbered.forward packet client⟩

/-- The first datagram fixes whose association it is. -/
theorem Named.pin {s : Association} (named : s.Named) (open_ : s.expectedClient = none) (client : SocketAddr) :
    Named { s with expectedClient := some client } where
  labels :=
    { pump := by
        intro tunnel pump found
        have pinned := (named.labels.pump tunnel pump found).1
        rw [open_] at pinned
        cases pinned
      opening := by
        intro opening opened
        have pinned := (named.labels.opening opening opened).1
        rw [open_] at pinned
        cases pinned
      reply := named.labels.reply }
  numbered := named.numbered

theorem Named.step {s s' : Association} {event : AssociationEvent} (named : s.Named) (stepped : s.step event = some s') :
    s'.Named := by
  cases event with
  | datagram sender packet =>
    dsimp only [Association.step] at stepped
    split at stepped
    · cases stepped
    split at stepped
    · rename_i client pinned
      split at stepped
      · cases stepped
        exact named
      · rename_i same
        cases stepped
        exact named.forward (by rw [pinned, Decidable.not_not.mp same]) packet
    · rename_i unpinned
      cases stepped
      exact (named.pin unpinned sender).forward rfl packet
  | connected ok =>
    dsimp only [Association.step] at stepped
    split at stepped
    · cases stepped
    · rename_i opening opened
      have released : Named { s with opening := none } := by
        refine ⟨⟨named.labels.pump, ?_, named.labels.reply⟩, named.numbered⟩
        intro _ absent
        cases absent
      cases ok with
      | true =>
        cases stepped
        exact released.spawn (named.labels.opening opening opened)
      | false =>
        cases stepped
        exact released
  | finished =>
    dsimp only [Association.step] at stepped
    split at stepped
    · cases stepped
    · cases stepped
      exact ⟨⟨named.labels.pump, named.labels.opening, named.labels.reply⟩, named.numbered⟩
  | pump tunnel event =>
    obtain ⟨pump, held, stepped⟩ := Option.bind_eq_some_iff.mp stepped
    exact named.pumpStep held stepped

/-! ## Order -/

theorem receive_receivedFor {s : Association} {destination other : SocksAddress} {payload : Bytes} :
    (s.receive destination payload).receivedFor other =
      s.receivedFor other ++ if destination = other then [payload] else [] := by
  unfold receivedFor receive
  by_cases same : destination = other
  · simp [same]
  · simp [same]

theorem sentFor_append {s t : Association} {tunnel : Nat} {destination other : SocksAddress} {payload : Bytes}
    (sent : t.sent = s.sent ++ [⟨tunnel, destination, payload⟩]) :
    t.sentFor other = s.sentFor other ++ if destination = other then [payload] else [] := by
  unfold sentFor
  by_cases same : destination = other
  · simp [sent, same]
  · simp [sent, same]

/-- What leads to a destination: the map to its one pump, and to no other while a datagram waits for a tunnel. -/
structure Routes (s : Association) : Prop where
  owned : ∀ destination tunnel, s.tunnels destination = some tunnel → ∃ pump, s.pumps tunnel = some pump ∧
    pump.destination = destination
  apart : ∀ first second : Nat, ∀ pump other : Pump, s.pumps first = some pump → s.pumps second = some other →
    pump.phase ≠ .ended → other.phase ≠ .ended → pump.destination = other.destination → first = second
  reached : ∀ tunnel pump, s.pumps tunnel = some pump → pump.phase ≠ .ended → s.closed = false →
    s.tunnels pump.destination = some tunnel
  alone : ∀ opening, s.opening = some opening → s.closed = false ∧ s.tunnels opening.destination = none

/-- What is still queued follows, in the order it came, what has been sent. -/
structure Ordered (s : Association) : Prop where
  sent : ∀ destination, (s.sentFor destination).Sublist (s.receivedFor destination)
  queued : ∀ tunnel pump, s.pumps tunnel = some pump → pump.phase ≠ .ended →
    (s.sentFor pump.destination ++ pump.queue).Sublist (s.receivedFor pump.destination)
  opening : ∀ opening, s.opening = some opening →
    (s.sentFor opening.destination ++ [opening.payload]).Sublist (s.receivedFor opening.destination)

structure Inv (s : Association) : Prop where
  named : s.Named
  routes : s.Routes
  ordered : s.Ordered

theorem Routes.opening_ne {s : Association} (routes : s.Routes) {opening : Opening} (opened : s.opening = some opening)
    {tunnel : Nat} {pump : Pump} (held : s.pumps tunnel = some pump) (live : pump.phase ≠ .ended) :
    opening.destination ≠ pump.destination := by
  intro same
  obtain ⟨active, absent⟩ := routes.alone opening opened
  have present := routes.reached tunnel pump held live active
  rw [← same, absent] at present
  cases present

/-- A pump that has not ended goes on under the same name. -/
theorem Routes.setPump {s : Association} {tunnel : Nat} {pump : Pump} (pump' : Pump) (routes : s.Routes)
    (held : s.pumps tunnel = some pump) (live : pump.phase ≠ .ended) (same : pump'.destination = pump.destination) :
    (s.setPump tunnel pump').Routes := by
  -- A live pump of the later state was a live pump of the earlier one, under its number.
  have earlier (other : Nat) (entry : Pump) (found : (s.setPump tunnel pump').pumps other = some entry)
      (alive : entry.phase ≠ .ended) : ∃ before, s.pumps other = some before ∧ before.phase ≠ .ended ∧
        before.destination = entry.destination := by
    by_cases here : other = tunnel
    · rw [here, setPump_self] at found
      cases found
      exact ⟨pump, here ▸ held, live, same.symm⟩
    · rw [setPump_of_ne here] at found
      exact ⟨entry, found, alive, rfl⟩
  constructor
  · intro destination other found
    obtain ⟨entry, heldEntry, name⟩ := routes.owned destination other found
    by_cases here : other = tunnel
    · rw [here] at heldEntry
      cases held.symm.trans heldEntry
      exact ⟨pump', by rw [here, setPump_self], same.trans name⟩
    · exact ⟨entry, by rw [setPump_of_ne here, heldEntry], name⟩
  · intro first second entry other foundFirst foundSecond aliveFirst aliveSecond agree
    obtain ⟨before, heldFirst, liveFirst, nameFirst⟩ := earlier first entry foundFirst aliveFirst
    obtain ⟨after, heldSecond, liveSecond, nameSecond⟩ := earlier second other foundSecond aliveSecond
    exact routes.apart first second before after heldFirst heldSecond liveFirst liveSecond
      (nameFirst.trans (agree.trans nameSecond.symm))
  · intro other entry found alive active
    obtain ⟨before, heldBefore, liveBefore, name⟩ := earlier other entry found alive
    rw [← name]
    exact routes.reached other before heldBefore liveBefore active
  · exact routes.alone

/-- What happens to one live pump concerns its destination alone. -/
theorem Ordered.advance {s t : Association} {tunnel : Nat} {pump : Pump} (pump' : Pump) (ordered : s.Ordered)
    (routes : s.Routes) (held : s.pumps tunnel = some pump) (live : pump.phase ≠ .ended) (same : pump'.destination = pump.destination)
    (pumps : t.pumps = (s.setPump tunnel pump').pumps) (opening : t.opening = s.opening)
    (elsewhere : ∀ other, pump.destination ≠ other →
      t.sentFor other = s.sentFor other ∧ t.receivedFor other = s.receivedFor other)
    (sent : (t.sentFor pump.destination ++ pump'.queue).Sublist (t.receivedFor pump.destination)) : t.Ordered := by
  have kept : ∀ destination, (t.sentFor destination).Sublist (t.receivedFor destination) := by
    intro destination
    by_cases here : pump.destination = destination
    · rw [← here]
      exact (List.sublist_append_left ..).trans sent
    · rw [(elsewhere destination here).1, (elsewhere destination here).2]
      exact ordered.sent destination
  refine ⟨kept, ?_, ?_⟩
  · intro other entry found alive
    rw [pumps] at found
    by_cases here : other = tunnel
    · rw [here, setPump_self] at found
      cases found
      rw [same]
      exact sent
    · rw [setPump_of_ne here] at found
      have differs : pump.destination ≠ entry.destination :=
        fun agree => here (routes.apart other tunnel entry pump found held alive live agree.symm)
      rw [(elsewhere _ differs).1, (elsewhere _ differs).2]
      exact ordered.queued other entry found alive
  · intro o opened
    rw [opening] at opened
    have differs : pump.destination ≠ o.destination := (routes.opening_ne opened held live).symm
    rw [(elsewhere _ differs).1, (elsewhere _ differs).2]
    exact ordered.opening o opened

/-- A pump that loses the front of its queue, or sends it, or leaves its loop. -/
theorem Inv.pumpStep {s s' : Association} {tunnel : Nat} {pump : Pump} {event : PumpEvent} (inv : s.Inv)
    (held : s.pumps tunnel = some pump) (stepped : s.pumpStep tunnel pump event = some s') : s'.Inv := by
  have named := inv.named.pumpStep held stepped
  have unsent (pump' : Pump) (live : pump.phase ≠ .ended) (same : pump'.destination = pump.destination)
      (rest : pump'.queue.Sublist pump.queue) : (s.setPump tunnel pump').Ordered := by
    refine inv.ordered.advance pump' inv.routes held live same rfl rfl (fun _ _ => ⟨rfl, rfl⟩) ?_
    exact (List.Sublist.append_left rest _).trans (inv.ordered.queued tunnel pump held live)
  obtain ⟨payload, queue, running, front, same | same⟩ | ⟨reply, same⟩ | ⟨phase, live, same⟩ := pumpStep_cases stepped
  · have live : pump.phase ≠ .ended := by
      rw [running]
      decide
    subst same
    refine ⟨named, inv.routes.setPump _ held live rfl, unsent _ live rfl ?_⟩
    rw [front]
    exact List.sublist_cons_self ..
  · have live : pump.phase ≠ .ended := by
      rw [running]
      decide
    have routes := inv.routes.setPump { pump with queue } held live rfl
    subst same
    refine ⟨named, ⟨routes.owned, routes.apart, routes.reached, routes.alone⟩, ?_⟩
    refine inv.ordered.advance { pump with queue } inv.routes held live rfl rfl rfl ?_ ?_
    · intro other differs
      refine ⟨?_, rfl⟩
      rw [sentFor_append (s := s) rfl, if_neg differs, List.append_nil]
    · rw [sentFor_append (s := s) rfl, if_pos rfl, List.append_assoc, List.singleton_append, ← front]
      exact inv.ordered.queued tunnel pump held live
  · subst same
    exact ⟨named, ⟨inv.routes.owned, inv.routes.apart, inv.routes.reached, inv.routes.alone⟩,
      ⟨inv.ordered.sent, inv.ordered.queued, inv.ordered.opening⟩⟩
  · subst same
    exact ⟨named, inv.routes.setPump _ held live rfl, unsent _ live rfl (List.Sublist.refl _)⟩

/-- A pump that refuses a datagram although it has room has ended. -/
theorem Pump.ended_of_refused {pump : Pump} {payload : Bytes} (refused : pump.offer payload = none)
    (room : pump.phase ≠ .ended → pump.queue.length < queueCapacity) : pump.phase = .ended := by
  by_contra live
  unfold Pump.offer Queue.trySend at refused
  rw [if_neg live, if_pos (room live)] at refused
  cases refused

/-- The record of what came grows at its end. -/
theorem receivedFor_sublist {s : Association} {destination other : SocksAddress} {payload : Bytes} :
    (s.receivedFor other).Sublist ((s.receive destination payload).receivedFor other) := by
  rw [receive_receivedFor]
  exact List.sublist_append_left ..

theorem Inv.forward {s : Association} (inv : s.Inv) {client : SocketAddr} {packet : Bytes}
    (pinned : s.expectedClient = some client) (idle : s.opening = none) (active : s.closed = false)
    (room : ∀ destination payload tunnel pump, decodeUdpPacket packet = .ok (0, destination, payload) →
      s.tunnels destination = some tunnel → s.pumps tunnel = some pump → pump.phase ≠ .ended →
        pump.queue.length < queueCapacity) : (s.forward packet client).Inv := by
  have named := inv.named.forward pinned packet
  obtain same | ⟨destination, payload, decoded, ⟨tunnel, pump, found, held, live, same⟩ | ⟨refused, opening, names, same⟩⟩ :=
    @forward_cases s packet client
  · rw [same]
    exact inv
  · rw [same] at named ⊢
    have received : (s.receive destination payload).Routes :=
      ⟨inv.routes.owned, inv.routes.apart, inv.routes.reached, inv.routes.alone⟩
    obtain ⟨entry, heldEntry, name⟩ := inv.routes.owned destination tunnel found
    cases held.symm.trans heldEntry
    refine ⟨named, received.setPump _ held live rfl, ?_⟩
    refine inv.ordered.advance { pump with queue := pump.queue ++ [payload] } inv.routes held live rfl rfl rfl ?_ ?_
    · intro other differs
      refine ⟨rfl, ?_⟩
      change (s.receive destination payload).receivedFor other = _
      rw [receive_receivedFor, if_neg (name ▸ differs), List.append_nil]
    · change (s.sentFor pump.destination ++ (pump.queue ++ [payload])).Sublist
        ((s.receive destination payload).receivedFor pump.destination)
      rw [receive_receivedFor, if_pos name.symm, ← List.append_assoc]
      exact List.Sublist.append_right (inv.ordered.queued tunnel pump held live) _
  · rw [same] at named ⊢
    -- Whatever was known for the destination, no pump of it is left.
    have gone (other : Nat) (entry : Pump) (heldEntry : s.pumps other = some entry) (alive : entry.phase ≠ .ended) :
        entry.destination ≠ destination := by
      intro agree
      have known := inv.routes.reached other entry heldEntry alive active
      rw [agree] at known
      have refusal := refused other entry known heldEntry
      exact alive (Pump.ended_of_refused refusal (room destination payload other entry decoded known heldEntry))
    have fresh : ∀ o, opening = some o → o = ⟨destination, client, o.target, payload⟩ := by
      intro o opened
      obtain before | ⟨_, made⟩ := names o opened
      · rw [idle] at before
        cases before
      · exact made
    refine ⟨named, ⟨?_, inv.routes.apart, ?_, ?_⟩, ⟨?_, ?_, ?_⟩⟩
    · intro other tunnel found
      by_cases here : other = destination
      · rw [here] at found
        cases (Function.update_self ..).symm.trans found
      · exact inv.routes.owned other tunnel ((Function.update_of_ne here ..).symm.trans found)
    · intro tunnel pump held live active
      change Function.update s.tunnels destination none pump.destination = some tunnel
      rw [Function.update_of_ne (gone tunnel pump held live)]
      exact inv.routes.reached tunnel pump held live active
    · intro o opened
      refine ⟨active, ?_⟩
      rw [fresh o opened]
      exact Function.update_self ..
    · intro other
      exact (inv.ordered.sent other).trans receivedFor_sublist
    · intro tunnel pump held live
      exact (inv.ordered.queued tunnel pump held live).trans receivedFor_sublist
    · intro o opened
      rw [fresh o opened]
      change (s.sentFor destination ++ [payload]).Sublist ((s.receive destination payload).receivedFor destination)
      rw [receive_receivedFor, if_pos rfl]
      exact List.Sublist.append_right (inv.ordered.sent destination) _

theorem Inv.spawn {s : Association} (inv : s.Inv) {opening : Opening} (opened : s.opening = some opening) :
    ({ s with opening := none }.spawn opening).Inv := by
  obtain ⟨active, absent⟩ := inv.routes.alone opening opened
  have released : Named { s with opening := none } := by
    refine ⟨⟨inv.named.labels.pump, ?_, inv.named.labels.reply⟩, inv.named.numbered⟩
    intro _ absent
    cases absent
  have named := released.spawn (inv.named.labels.opening opening opened)
  have differs (other : Nat) (entry : Pump) (held : s.pumps other = some entry) (live : entry.phase ≠ .ended) :
      opening.destination ≠ entry.destination := inv.routes.opening_ne opened held live
  -- A pump of the later state is the new one, or one there was.
  have split (other : Nat) (entry : Pump) (found : ({ s with opening := none }.spawn opening).pumps other = some entry) :
      (other = s.spawned ∧ entry = ⟨opening.destination, opening.client, opening.target, [opening.payload], .running⟩) ∨
        (other ≠ s.spawned ∧ s.pumps other = some entry) := by
    by_cases new : other = s.spawned
    · rw [new] at found
      exact Or.inl ⟨new, (Option.some.inj (spawn_new.symm.trans found)).symm⟩
    · exact Or.inr ⟨new, (spawn_of_ne new).symm.trans found⟩
  refine ⟨named, ⟨?_, ?_, ?_, ?_⟩, ⟨inv.ordered.sent, ?_, ?_⟩⟩
  · intro destination tunnel found
    by_cases here : destination = opening.destination
    · rw [here] at found
      cases (Function.update_self ..).symm.trans found
      exact ⟨_, spawn_new, here.symm⟩
    · obtain ⟨pump, held, name⟩ := inv.routes.owned destination tunnel ((Function.update_of_ne here ..).symm.trans found)
      have before : tunnel ≠ s.spawned := Nat.ne_of_lt (inv.named.numbered _ pump held)
      exact ⟨pump, (spawn_of_ne before).trans held, name⟩
  · intro first second pump other foundFirst foundSecond liveFirst liveSecond agree
    obtain ⟨numberFirst, isFirst⟩ | ⟨_, heldFirst⟩ := split first pump foundFirst
    · obtain ⟨numberSecond, _⟩ | ⟨_, heldSecond⟩ := split second other foundSecond
      · rw [numberFirst, numberSecond]
      · rw [isFirst] at agree
        exact absurd agree (differs second other heldSecond liveSecond)
    · obtain ⟨_, isSecond⟩ | ⟨_, heldSecond⟩ := split second other foundSecond
      · rw [isSecond] at agree
        exact absurd agree.symm (differs first pump heldFirst liveFirst)
      · exact inv.routes.apart first second pump other heldFirst heldSecond liveFirst liveSecond agree
  · intro tunnel pump found live active
    obtain ⟨number, same⟩ | ⟨_, held⟩ := split tunnel pump found
    · rw [same, number]
      exact Function.update_self ..
    · change Function.update s.tunnels opening.destination (some s.spawned) pump.destination = some tunnel
      rw [Function.update_of_ne (differs tunnel pump held live).symm]
      exact inv.routes.reached tunnel pump held live active
  · intro _ absent
    cases absent
  · intro tunnel pump found live
    obtain ⟨_, same⟩ | ⟨_, held⟩ := split tunnel pump found
    · rw [same]
      exact inv.ordered.opening opening opened
    · exact inv.ordered.queued tunnel pump held live
  · intro _ absent
    cases absent

theorem Inv.step {s s' : Association} {event : AssociationEvent} (inv : s.Inv) (room : s.FindsRoom event)
    (stepped : s.step event = some s') : s'.Inv := by
  have named := inv.named.step stepped
  cases event with
  | datagram sender packet =>
    dsimp only [Association.step] at stepped
    split at stepped
    · cases stepped
    rename_i ready
    have active : s.closed = false := by
      cases closed : s.closed with
      | false => rfl
      | true => exact absurd (Or.inl closed) ready
    have idle : s.opening = none := by
      cases opened : s.opening with
      | none => rfl
      | some opening => exact absurd (Or.inr (by rw [opened, Option.isSome_some])) ready
    split at stepped
    · rename_i client pinned
      split at stepped
      · cases stepped
        exact inv
      · rename_i same
        cases stepped
        refine inv.forward (by rw [pinned, Decidable.not_not.mp same]) idle active ?_
        intro destination payload tunnel pump decoded
        exact room sender packet destination payload tunnel pump rfl
          (by rw [pinned, Option.getD_some, Decidable.not_not.mp same]) decoded
    · rename_i unpinned
      cases stepped
      have pinned : Inv { s with expectedClient := some sender } :=
        ⟨inv.named.pin unpinned sender, ⟨inv.routes.owned, inv.routes.apart, inv.routes.reached, inv.routes.alone⟩,
          ⟨inv.ordered.sent, inv.ordered.queued, inv.ordered.opening⟩⟩
      refine pinned.forward rfl idle active ?_
      intro destination payload tunnel pump decoded
      exact room sender packet destination payload tunnel pump rfl (by rw [unpinned, Option.getD_none]) decoded
  | connected ok =>
    dsimp only [Association.step] at stepped
    split at stepped
    · cases stepped
    · rename_i opening opened
      cases ok with
      | true =>
        cases stepped
        exact inv.spawn opened
      | false =>
        cases stepped
        refine ⟨named, ⟨inv.routes.owned, inv.routes.apart, inv.routes.reached, ?_⟩,
          ⟨inv.ordered.sent, inv.ordered.queued, ?_⟩⟩
        · intro _ absent
          cases absent
        · intro _ absent
          cases absent
  | finished =>
    dsimp only [Association.step] at stepped
    split at stepped
    · cases stepped
    · rename_i ready
      cases stepped
      refine ⟨named, ⟨?_, inv.routes.apart, ?_, ?_⟩, ⟨inv.ordered.sent, inv.ordered.queued, inv.ordered.opening⟩⟩
      · intro _ _ absent
        cases absent
      · intro _ _ _ _ active
        cases active
      · intro opening opened
        have opened : s.opening = some opening := opened
        exact absurd (Or.inr (by rw [opened, Option.isSome_some])) ready
  | pump tunnel event =>
    obtain ⟨pump, held, stepped⟩ := Option.bind_eq_some_iff.mp stepped
    exact inv.pumpStep held stepped

theorem start_inv (expectedClient : Option SocketAddr) : (start expectedClient).Inv := by
  have noPump (tunnel : Nat) (pump : Pump) : (start expectedClient).pumps tunnel ≠ some pump := Option.some_ne_none _ ∘ Eq.symm
  have noOpening (opening : Opening) : (start expectedClient).opening ≠ some opening := Option.some_ne_none _ ∘ Eq.symm
  constructor
  · refine ⟨⟨?_, ?_, ?_⟩, ?_⟩
    · exact fun tunnel pump held => absurd held (noPump tunnel pump)
    · exact fun opening opened => absurd opened (noOpening opening)
    · exact fun reply member => absurd member List.not_mem_nil
    · exact fun tunnel pump held => absurd held (noPump tunnel pump)
  · refine ⟨?_, ?_, ?_, ?_⟩
    · exact fun destination tunnel found => absurd found (Option.some_ne_none _ ∘ Eq.symm)
    · exact fun first _ pump _ held => absurd held (noPump first pump)
    · exact fun tunnel pump held => absurd held (noPump tunnel pump)
    · exact fun opening opened => absurd opened (noOpening opening)
  · refine ⟨fun _ => List.Sublist.refl _, ?_, ?_⟩
    · exact fun tunnel pump held => absurd held (noPump tunnel pump)
    · exact fun opening opened => absurd opened (noOpening opening)

theorem Inv.keepsTunnels {s : Association} (inv : s.Inv) : s.KeepsTunnels where
  one := inv.routes.apart
  ordered := inv.ordered.sent
  labelled reply member := by
    obtain ⟨pump, held, client, packet⟩ := inv.named.labels.reply reply member
    obtain ⟨pinned, target, expressible⟩ := inv.named.labels.pump reply.tunnel pump held
    refine ⟨pump, held, target, ?_, client ▸ pinned⟩
    rw [packet]
    exact decodeUdpPacket_encodeUdpPacket expressible reply.payload

end Association

/-- One tunnel a destination, in every state of a run in which no live tunnel's queue is found full. -/
theorem association_keeps_tunnels {expectedClient : Option SocketAddr} {events : List AssociationEvent} {s : Association}
    (room : Along Association.step Association.FindsRoom (.start expectedClient) events)
    (ran : run Association.step (.start expectedClient) events = some s) : s.KeepsTunnels := by
  have inv : s.Inv := by
    apply run_invariant_along Association.Inv _ (Association.start_inv expectedClient) room ran
    intro s event s' inv found stepped
    exact inv.step found stepped
  exact inv.keepsTunnels

def localClient : SocketAddr := ⟨.v4 0x7f000001, 40000⟩
def resolver : SocksAddress := .ip ⟨.v4 0xc0000201, 53⟩

/-- A datagram of one byte to the resolver, and the event that it comes. -/
def query (byte : UInt8) : AssociationEvent := .datagram localClient [0, 0, 0, 1, 192, 0, 2, 1, 0, 53, byte]

theorem short_run_keeps_tunnels :
    ∃ s, run Association.step (.start none) [query 0, .connected true, query 1] = some s ∧ s.KeepsTunnels := by
  have short (s : Association) (event : AssociationEvent)
      (few : ∀ tunnel pump, s.pumps tunnel = some pump → pump.queue.length < queueCapacity) : s.FindsRoom event :=
    fun _ _ _ _ tunnel pump _ _ _ _ held _ => few tunnel pump held
  have room : Along Association.step Association.FindsRoom (.start none) [query 0, .connected true, query 1] := by
    refine ⟨short _ _ nofun, fun _ first => ⟨?_, fun _ second => ⟨?_, fun _ _ => trivial⟩⟩⟩
    · cases first
      exact short _ _ nofun
    · cases first
      cases second
      apply short
      intro tunnel pump held
      by_cases here : tunnel = 0
      · subst here
        cases held
        decide
      · cases (Function.update_of_ne here ..).symm.trans held
  exact ⟨_, rfl, association_keeps_tunnels room rfl⟩

/-! ## A queue found full -/

/-- The tunnel to the resolver, with that many datagrams behind the first. -/
def firstPump (count : Nat) : Pump where
  destination := resolver
  client := localClient
  target := ⟨.ip (.v4 0xc0000201), 53⟩
  queue := List.replicate (count + 1) [0]
  phase := .running

def behindFirst (count : Nat) : Association where
  expectedClient := some localClient
  tunnels := Function.update (fun _ => none) resolver (some 0)
  pumps := Function.update (fun _ => none) 0 (some (firstPump count))
  spawned := 1
  opening := none
  closed := false
  received := List.replicate (count + 1) (resolver, [0])
  sent := []
  replies := []

theorem step_behindFirst {count : Nat} (room : count < 255) :
    (behindFirst count).step (query 0) = some (behindFirst (count + 1)) := by
  have decoded : decodeUdpPacket [0, 0, 0, 1, 192, 0, 2, 1, 0, 53, 0] = .ok (0, resolver, [0]) := rfl
  have offered : (firstPump count).offer [0] = some (firstPump (count + 1)) := by
    have fits : (List.replicate (count + 1) ([0] : Bytes)).length < queueCapacity := by
      rw [List.length_replicate, queueCapacity]
      omega
    have running : (firstPump count).phase ≠ .ended := by simp [firstPump]
    rw [Pump.offer, if_neg running, Queue.trySend, firstPump, if_pos fits, Option.map_some, firstPump,
      ← List.replicate_succ']
  simp [Association.step, query, behindFirst, Association.forward, decoded, offered, ← List.replicate_succ']

theorem run_behindFirst {more : Nat} (room : more ≤ 255) :
    run Association.step (behindFirst 0) (List.replicate more (query 0)) = some (behindFirst more) := by
  induction more with
  | zero => rfl
  | succ more ih =>
    rw [List.replicate_succ', run_append, ih (by omega), Option.bind_some, run_cons, step_behindFirst (by omega),
      Option.bind_some, run_nil]

/-- 256 datagrams before the tunnel takes the first of them, and then one more. -/
def overflow : List AssociationEvent :=
  [query 0, .connected true] ++ (List.replicate 255 (query 0) ++
    [query 1, .connected true, .pump 1 (.toTarget true), .pump 0 (.toTarget true)])

/-- The datagram for which there is no room opens a second tunnel, whose pump may be the faster one. -/
theorem run_full {count : Nat} (full : 255 ≤ count) : ∃ s,
    run Association.step (behindFirst count)
      [query 1, .connected true, .pump 1 (.toTarget true), .pump 0 (.toTarget true)] = some s ∧
    s.pumps 0 = some { firstPump count with queue := List.replicate count [0] } ∧
    s.pumps 1 = some { firstPump 0 with queue := [] } ∧
    s.sentFor resolver = [[1], [0]] ∧ s.receivedFor resolver = List.replicate (count + 1) [0] ++ [[1]] := by
  have decoded : decodeUdpPacket [0, 0, 0, 1, 192, 0, 2, 1, 0, 53, 1] = .ok (0, resolver, [1]) := rfl
  have target : resolver.toTarget = .ok ⟨.ip (.v4 0xc0000201), 53⟩ := rfl
  have refused : (firstPump count).offer [1] = none := by
    have long : ¬ (List.replicate (count + 1) ([0] : Bytes)).length < queueCapacity := by
      rw [List.length_replicate, queueCapacity]
      omega
    rw [Pump.offer, if_neg (by simp [firstPump]), Queue.trySend, firstPump, if_neg long, Option.map_none]
  have reopened : (behindFirst count).step (query 1) = some { behindFirst count with
      tunnels := fun _ => none
      received := (behindFirst count).received ++ [(resolver, [1])]
      opening := some ⟨resolver, localClient, ⟨.ip (.v4 0xc0000201), 53⟩, [1]⟩ } := by
    simp [Association.step, query, behindFirst, Association.forward, decoded, refused, Association.openTunnel, target]
  rw [run_cons, reopened, Option.bind_some]
  refine ⟨_, rfl, rfl, rfl, rfl, ?_⟩
  change ((List.replicate (count + 1) (resolver, ([0] : Bytes)) ++ [(resolver, [1])]).filter
    fun entry : SocksAddress × Bytes => entry.1 = resolver).map Prod.snd = _
  simp

theorem run_overflow : run Association.step (.start none) overflow =
    run Association.step (behindFirst 255)
      [query 1, .connected true, .pump 1 (.toTarget true), .pump 0 (.toTarget true)] := by
  have opened : run Association.step (.start none) [query 0, .connected true] = some (behindFirst 0) := rfl
  rw [overflow, run_append, opened, Option.bind_some, run_append, run_behindFirst (Nat.le_refl _), Option.bind_some]

/-- Two pumps run for the resolver, and what came last has gone out first. -/
theorem full_queue_splits_a_destination : ∃ s, run Association.step (.start none) overflow = some s ∧
    (∃ pump other, s.pumps 0 = some pump ∧ s.pumps 1 = some other ∧ pump.phase = .running ∧ other.phase = .running ∧
      pump.destination = other.destination) ∧
    ¬ (s.sentFor resolver).Sublist (s.receivedFor resolver) ∧ ¬ s.KeepsTunnels := by
  obtain ⟨s, ran, first, second, sent, received⟩ := run_full (Nat.le_refl 255)
  have disordered : ¬ (s.sentFor resolver).Sublist (s.receivedFor resolver) := by
    rw [sent, received]
    intro sub
    obtain ⟨front, back, whole, inFront, inBack⟩ := List.sublist_append_iff.mp sub
    cases front with
    | nil =>
      have count := inBack.length_le
      rw [List.nil_append] at whole
      rw [← whole] at count
      exact absurd count (by decide)
    | cons head rest =>
      have last : [1] = head := (List.cons.inj whole).1
      have earlier := List.eq_of_mem_replicate (inFront.subset (List.mem_cons_self ..))
      rw [← last] at earlier
      exact absurd earlier (by decide)
  refine ⟨s, run_overflow.trans ran, ⟨_, _, first, second, rfl, rfl, rfl⟩, disordered, ?_⟩
  exact fun keeps => disordered (keeps.ordered resolver)

end Skimasque.Cli
