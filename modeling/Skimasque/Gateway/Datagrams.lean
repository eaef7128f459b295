import Skimasque.Core.Datagram
import Skimasque.Library.Map
import Skimasque.Library.Queue
import Skimasque.Library.Transition

/-! The datagram router of a connection: one reader, the tunnels that have registered, and what came
before its tunnel did. -/

set_option autoImplicit false

namespace Skimasque.Gateway.Datagrams
open Library Skimasque.Core

def maxPendingPerStream : Nat := 16
def maxPendingStreams : Nat := 64
def inboundCapacity : Nat := 256

abbrev StreamMap (β : Type) := AList (fun _ : UInt64 => β)

/-- A registration: the channel from the router to the tunnel, with what the tunnel has taken out of it
so far, and how many datagrams the connection had read before it. -/
structure Tunnel where
  streamId : UInt64
  queue : List Bytes
  hungUp : Bool
  received : List Bytes
  since : Nat
  deriving DecidableEq, Repr

/-- A sender is the place of its tunnel in the order of registration. -/
structure Routes where
  active : StreamMap Nat
  /-- Datagrams that arrived before their stream registered, oldest first. -/
  pending : StreamMap (List Bytes)

structure State where
  routes : Routes
  tunnels : List Tunnel
  reading : Bool
  /-- Every datagram the reader took off the connection. -/
  log : List (QuarterStreamId × Bytes)

def initial : State := ⟨⟨∅, ∅⟩, [], true, []⟩

/-- `try_send` on the tunnel's channel; what does not fit, or finds nobody, is lost. -/
def Tunnel.offer (tunnel : Tunnel) (payload : Bytes) : Tunnel :=
  if tunnel.hungUp then tunnel
  else
    match Queue.trySend inboundCapacity tunnel.queue payload with
    | none => tunnel
    | some queue => { tunnel with queue }

def State.deliver (s : State) (stream : QuarterStreamId) (payload : Bytes) : State :=
  let streamId := stream.streamId
  match s.routes.active.lookup streamId with
  | some sink => { s with tunnels := s.tunnels.modify sink (·.offer payload) }
  | none =>
    if maxPendingStreams ≤ s.routes.pending.keys.length ∧ streamId ∉ s.routes.pending then s
    else
      let queue := (s.routes.pending.lookup streamId).getD []
      let pending := s.routes.pending.insert streamId (Queue.push maxPendingPerStream queue payload)
      { s with routes := { s.routes with pending } }

def State.register (s : State) (streamId : UInt64) : State :=
  let buffered := (s.routes.pending.lookup streamId).getD []
  let tunnel : Tunnel := ⟨streamId, Queue.sendAll inboundCapacity [] buffered, false, [], s.log.length⟩
  let routes := ⟨s.routes.active.insert streamId s.tunnels.length, s.routes.pending.erase streamId⟩
  { s with routes, tunnels := s.tunnels ++ [tunnel] }

def State.unregister (s : State) (streamId : UInt64) : State :=
  { s with routes := { s.routes with active := s.routes.active.erase streamId } }

/-- One turn of `read_loop`. A datagram that does not parse closes the connection. -/
def State.read (s : State) (raw : Bytes) : State :=
  match Datagram.decodeHttp3Datagram raw with
  | .ok (stream, payload) => { s.deliver stream payload with log := s.log ++ [(stream, payload)] }
  | .error _ => { s with reading := false }

def Tunnel.receive (tunnel : Tunnel) : Option Tunnel :=
  match tunnel.hungUp, tunnel.queue with
  | false, payload :: queue => some { tunnel with queue, received := tunnel.received ++ [payload] }
  | _, _ => none

inductive Event where
  | read (raw : Bytes)
  | register (streamId : UInt64)
  | unregister (streamId : UInt64)
  | receive (sink : Nat)
  /-- The tunnel drops its receiver, and with it what is still queued. -/
  | hangUp (sink : Nat)

def step (s : State) : Event → Option State
  | .read raw => if s.reading then some (s.read raw) else none
  | .register streamId => some (s.register streamId)
  | .unregister streamId => some (s.unregister streamId)
  | .receive sink => do
    let tunnel ← s.tunnels[sink]?
    let tunnel ← tunnel.receive
    return { s with tunnels := s.tunnels.set sink tunnel }
  | .hangUp sink => some { s with tunnels := s.tunnels.modify sink ({ · with queue := [], hungUp := true }) }

/-! ## What a tunnel gets -/

/-- The payloads for a stream, in the order they were read. -/
def addressedTo (streamId : UInt64) (log : List (QuarterStreamId × Bytes)) : List Bytes :=
  (log.filter fun datagram => datagram.1.streamId = streamId).map Prod.snd

/-- What the tunnel has taken or still has to take: some of what came for its stream before it
registered, then some of what came after, each in order. -/
structure Tunnel.Sound (log : List (QuarterStreamId × Bytes)) (tunnel : Tunnel) : Prop where
  since : tunnel.since ≤ log.length
  gets : ∃ early late, tunnel.received ++ tunnel.queue = early ++ late ∧
    early.Sublist (addressedTo tunnel.streamId (log.take tunnel.since)) ∧
    late.Sublist (addressedTo tunnel.streamId (log.drop tunnel.since))

structure Invariant (s : State) : Prop where
  disjoint : ∀ streamId, streamId ∈ s.routes.active → streamId ∉ s.routes.pending
  streams : s.routes.pending.keys.length ≤ maxPendingStreams
  queues : ∀ streamId queue, s.routes.pending.lookup streamId = some queue →
    (1 ≤ queue.length ∧ queue.length ≤ maxPendingPerStream) ∧ queue.Sublist (addressedTo streamId s.log)
  routed : ∀ streamId sink, s.routes.active.lookup streamId = some sink →
    (s.tunnels[sink]?).map (·.streamId) = some streamId
  sound : ∀ tunnel ∈ s.tunnels, tunnel.Sound s.log

section
variable {log : List (QuarterStreamId × Bytes)} {tunnel : Tunnel}

theorem addressedTo_append (streamId : UInt64) (first second : List (QuarterStreamId × Bytes)) :
    addressedTo streamId (first ++ second) = addressedTo streamId first ++ addressedTo streamId second := by
  unfold addressedTo
  rw [List.filter_append, List.map_append]

theorem addressedTo_singleton (stream : QuarterStreamId) (payload : Bytes) :
    addressedTo stream.streamId [(stream, payload)] = [payload] := by
  simp [addressedTo]

/-- Another datagram is read, for whichever stream. -/
theorem Tunnel.Sound.read (sound : tunnel.Sound log) (datagram : QuarterStreamId × Bytes) :
    tunnel.Sound (log ++ [datagram]) := by
  obtain ⟨early, late, split, early_sub, late_sub⟩ := sound.gets
  refine ⟨?_, early, late, split, ?_, ?_⟩
  · rw [List.length_append]
    exact Nat.le_add_right_of_le sound.since
  · rwa [List.take_append_of_le_length sound.since]
  · rw [List.drop_append_of_le_length sound.since, addressedTo_append]
    exact late_sub.trans (List.sublist_append_left ..)

/-- A datagram for the tunnel's own stream is queued last, if it is queued at all. -/
theorem Tunnel.Sound.offer {stream : QuarterStreamId} (sound : tunnel.Sound log)
    (own : tunnel.streamId = stream.streamId) (payload : Bytes) :
    (tunnel.offer payload).Sound (log ++ [(stream, payload)]) := by
  unfold Tunnel.offer Queue.trySend
  split
  · exact sound.read _
  split
  · exact sound.read _
  · rename_i queue sent
    split at sent
    · cases sent
      obtain ⟨early, late, split, early_sub, late_sub⟩ := sound.gets
      refine ⟨(sound.read (stream, payload)).since, early, late ++ [payload], ?_, ?_, ?_⟩
      · dsimp only
        rw [← List.append_assoc, split, List.append_assoc]
      · dsimp only
        rwa [List.take_append_of_le_length sound.since]
      · dsimp only
        rw [List.drop_append_of_le_length sound.since, addressedTo_append, own, addressedTo_singleton, ← own]
        exact late_sub.append_right _
    · cases sent

theorem Tunnel.Sound.receive {after : Tunnel} (sound : tunnel.Sound log) (received : tunnel.receive = some after) :
    after.Sound log ∧ after.streamId = tunnel.streamId := by
  unfold Tunnel.receive at received
  split at received
  · rename_i payload queue _ waiting
    cases received
    refine ⟨⟨sound.since, ?_⟩, rfl⟩
    have gets := sound.gets
    rw [waiting] at gets
    dsimp only
    rwa [List.append_assoc, List.singleton_append]
  · cases received

theorem Tunnel.Sound.hangUp (sound : tunnel.Sound log) :
    Tunnel.Sound log { tunnel with queue := [], hungUp := true } := by
  obtain ⟨early, late, split, early_sub, late_sub⟩ := sound.gets
  have kept : tunnel.received.Sublist (early ++ late) := by
    rw [← split]
    exact List.sublist_append_left ..
  obtain ⟨early', late', split', early_sub', late_sub'⟩ := List.sublist_append_iff.mp kept
  refine ⟨sound.since, early', late', ?_, early_sub'.trans early_sub, late_sub'.trans late_sub⟩
  rw [List.append_nil, split']

end

/-! ## Every step keeps it so -/

variable {s s' : State} {stream : QuarterStreamId} {payload : Bytes}

theorem deliver_cases (s : State) (stream : QuarterStreamId) (payload : Bytes) :
    (∃ sink, s.routes.active.lookup stream.streamId = some sink ∧
      s.deliver stream payload = { s with tunnels := s.tunnels.modify sink (·.offer payload) }) ∨
    (s.routes.active.lookup stream.streamId = none ∧ maxPendingStreams ≤ s.routes.pending.keys.length ∧
      stream.streamId ∉ s.routes.pending ∧ s.deliver stream payload = s) ∨
    (s.routes.active.lookup stream.streamId = none ∧
      (s.routes.pending.keys.length < maxPendingStreams ∨ stream.streamId ∈ s.routes.pending) ∧
      ∃ pending, pending = s.routes.pending.insert stream.streamId
          (Queue.push maxPendingPerStream ((s.routes.pending.lookup stream.streamId).getD []) payload) ∧
        s.deliver stream payload = { s with routes := { s.routes with pending } }) := by
  unfold State.deliver
  dsimp only
  cases s.routes.active.lookup stream.streamId with
  | some sink => exact .inl ⟨sink, rfl, rfl⟩
  | none =>
    dsimp only
    split
    · rename_i full
      exact .inr (.inl ⟨rfl, full.1, full.2, rfl⟩)
    · rename_i room
      rw [not_and_or, Nat.not_le, not_not] at room
      exact .inr (.inr ⟨rfl, room, _, rfl, rfl⟩)

theorem sound_modify {sink : Nat} {change : Tunnel → Tunnel}
    {log : List (QuarterStreamId × Bytes)} (others : ∀ tunnel ∈ s.tunnels, tunnel.Sound log)
    (changed : ∀ tunnel, s.tunnels[sink]? = some tunnel → (change tunnel).Sound log) :
    ∀ tunnel ∈ s.tunnels.modify sink change, tunnel.Sound log := by
  intro tunnel member
  obtain ⟨place, found⟩ := List.mem_iff_getElem?.mp member
  rw [List.getElem?_modify] at found
  split at found
  · rename_i same
    obtain ⟨before, there, rfl⟩ := Option.map_eq_some_iff.mp found
    exact changed before (by rw [same, there])
  · rw [id_map'] at found
    exact others tunnel (List.mem_of_getElem? found)

/-- A change that leaves a tunnel its stream leaves the senders where they point. -/
theorem Invariant.routed_modify (invariant : Invariant s) {change : Tunnel → Tunnel}
    (same : ∀ tunnel, (change tunnel).streamId = tunnel.streamId) (place : Nat) (streamId : UInt64) (sink : Nat)
    (active : s.routes.active.lookup streamId = some sink) :
    ((s.tunnels.modify place change)[sink]?).map (·.streamId) = some streamId := by
  rw [← invariant.routed streamId sink active, List.getElem?_modify]
  cases s.tunnels[sink]? with
  | none => simp
  | some tunnel =>
    split
    · simp [same]
    · rfl

theorem offer_streamId (tunnel : Tunnel) (payload : Bytes) : (tunnel.offer payload).streamId = tunnel.streamId := by
  unfold Tunnel.offer
  split
  · rfl
  · split <;> rfl

/-- A datagram that is read goes to the tunnel of its stream, to the stream's queue, or nowhere. -/
theorem Invariant.deliver (invariant : Invariant s) (stream : QuarterStreamId) (payload : Bytes) :
    Invariant { s.deliver stream payload with log := s.log ++ [(stream, payload)] } := by
  have older (streamId : UInt64) (queue : List Bytes) (sub : queue.Sublist (addressedTo streamId s.log)) :
      queue.Sublist (addressedTo streamId (s.log ++ [(stream, payload)])) := by
    rw [addressedTo_append]
    exact sub.trans (List.sublist_append_left ..)
  have sound := fun tunnel member => (invariant.sound tunnel member).read (stream, payload)
  obtain ⟨sink, active, delivered⟩ | ⟨-, -, -, delivered⟩ | ⟨inactive, room, pending, rfl, delivered⟩ :=
    deliver_cases s stream payload <;> rw [delivered]
  · refine ⟨invariant.disjoint, invariant.streams, fun streamId queue there => ?_,
      invariant.routed_modify (offer_streamId · payload) sink, sound_modify sound fun tunnel there => ?_⟩
    · obtain ⟨sizes, sub⟩ := invariant.queues streamId queue there
      exact ⟨sizes, older streamId queue sub⟩
    · have own := invariant.routed stream.streamId sink active
      rw [there, Option.map_some, Option.some.injEq] at own
      exact (invariant.sound tunnel (List.mem_of_getElem? there)).offer own payload
  · refine ⟨invariant.disjoint, invariant.streams, fun streamId queue there => ?_, invariant.routed, sound⟩
    obtain ⟨sizes, sub⟩ := invariant.queues streamId queue there
    exact ⟨sizes, older streamId queue sub⟩
  · refine ⟨fun streamId active => ?_, Map.keys_insert_length room invariant.streams, fun streamId queue there => ?_,
      invariant.routed, sound⟩
    · dsimp only
      rw [AList.mem_insert, not_or]
      refine ⟨fun same => ?_, invariant.disjoint streamId active⟩
      rw [AList.lookup_eq_none, ← same] at inactive
      exact inactive active
    · by_cases same : streamId = stream.streamId
      · subst same
        rw [AList.lookup_insert, Option.some.injEq] at there
        -- The queue so far is empty or one of the pending ones.
        have before : ((s.routes.pending.lookup stream.streamId).getD []).length ≤ maxPendingPerStream ∧
            ((s.routes.pending.lookup stream.streamId).getD []).Sublist (addressedTo stream.streamId s.log) := by
          cases waiting : s.routes.pending.lookup stream.streamId with
          | none => exact ⟨Nat.zero_le _, List.nil_sublist _⟩
          | some queue =>
            obtain ⟨sizes, sub⟩ := invariant.queues _ _ waiting
            exact ⟨sizes.2, sub⟩
        rw [← there, addressedTo_append, addressedTo_singleton]
        exact ⟨Queue.length_push (by decide) before.1 payload, Queue.push_sublist before.2 payload⟩
      · rw [AList.lookup_insert_ne same] at there
        obtain ⟨sizes, sub⟩ := invariant.queues streamId queue there
        exact ⟨sizes, older streamId queue sub⟩

theorem Invariant.register (invariant : Invariant s) (streamId : UInt64) : Invariant (s.register streamId) := by
  refine ⟨fun other active => ?_, ?_, fun other queue there => ?_, fun other sink active => ?_,
    fun tunnel member => ?_⟩
  · dsimp only [State.register] at active ⊢
    rw [AList.mem_insert] at active
    rw [AList.mem_erase, not_and]
    intro differs
    exact invariant.disjoint other (active.resolve_left differs)
  · dsimp only [State.register]
    rw [AList.keys_erase]
    exact Nat.le_trans (List.length_erase_le) invariant.streams
  · dsimp only [State.register] at there ⊢
    by_cases same : other = streamId
    · rw [same, AList.lookup_erase] at there
      cases there
    · rw [AList.lookup_erase_ne same] at there
      exact invariant.queues other queue there
  · dsimp only [State.register] at active ⊢
    by_cases same : other = streamId
    · rw [same, AList.lookup_insert, Option.some.injEq] at active
      rw [← active, same]
      simp
    · rw [AList.lookup_insert_ne same] at active
      have routed := invariant.routed other sink active
      obtain ⟨tunnel, there, _⟩ := Option.map_eq_some_iff.mp routed
      rwa [List.getElem?_append_left (List.getElem?_eq_some_iff.mp there).1]
  · dsimp only [State.register] at member
    cases List.mem_append.mp member with
    | inl old => exact invariant.sound tunnel old
    | inr new =>
      rw [List.mem_singleton.mp new]
      refine ⟨Nat.le_refl _, _, [], (List.append_nil _).symm, ?_, List.nil_sublist _⟩
      dsimp only [State.register]
      rw [List.nil_append, List.take_length]
      refine (Queue.sendAll_sublist ..).trans ?_
      rw [List.nil_append]
      cases waiting : s.routes.pending.lookup streamId with
      | none => exact List.nil_sublist _
      | some queue => exact (invariant.queues _ _ waiting).2

theorem Invariant.unregister (invariant : Invariant s) (streamId : UInt64) : Invariant (s.unregister streamId) := by
  refine ⟨fun other active => ?_, invariant.streams, invariant.queues, fun other sink active => ?_, invariant.sound⟩
  · exact invariant.disjoint other (AList.mem_erase.mp active).2
  · dsimp only [State.unregister] at active
    by_cases same : other = streamId
    · rw [same, AList.lookup_erase] at active
      cases active
    · rw [AList.lookup_erase_ne same] at active
      exact invariant.routed other sink active

theorem Invariant.read (invariant : Invariant s) (raw : Bytes) : Invariant (s.read raw) := by
  unfold State.read
  split
  · exact invariant.deliver ..
  · exact ⟨invariant.disjoint, invariant.streams, invariant.queues, invariant.routed, invariant.sound⟩

theorem Invariant.modify (invariant : Invariant s) {change : Tunnel → Tunnel} (sink : Nat)
    (same : ∀ tunnel, (change tunnel).streamId = tunnel.streamId)
    (changed : ∀ tunnel, s.tunnels[sink]? = some tunnel → (change tunnel).Sound s.log) :
    Invariant { s with tunnels := s.tunnels.modify sink change } :=
  ⟨invariant.disjoint, invariant.streams, invariant.queues, invariant.routed_modify same sink,
    sound_modify invariant.sound changed⟩

theorem step_invariant {event : Event} (invariant : Invariant s) (stepped : step s event = some s') :
    Invariant s' := by
  cases event with
  | read raw =>
    simp only [step] at stepped
    split at stepped
    · cases stepped
      exact invariant.read raw
    · cases stepped
  | register streamId =>
    cases stepped
    exact invariant.register streamId
  | unregister streamId =>
    cases stepped
    exact invariant.unregister streamId
  | receive sink =>
    simp only [step, Option.bind_eq_bind, Option.bind_eq_some_iff, Option.pure_def, Option.some.injEq] at stepped
    obtain ⟨before, there, after, received, rfl⟩ := stepped
    obtain ⟨sound, same⟩ := (invariant.sound before (List.mem_of_getElem? there)).receive received
    refine ⟨invariant.disjoint, invariant.streams, invariant.queues, fun streamId other active => ?_,
      fun tunnel member => ?_⟩
    · dsimp only
      rw [← invariant.routed streamId other active, List.getElem?_set]
      split
      · rename_i own
        rw [← own, there, if_pos (List.getElem?_eq_some_iff.mp there).1, Option.map_some, Option.map_some, same]
      · rfl
    · cases List.mem_or_eq_of_mem_set member with
      | inl old => exact invariant.sound tunnel old
      | inr new => exact new ▸ sound
  | hangUp sink =>
    cases stepped
    exact invariant.modify sink (fun _ => rfl) fun tunnel there =>
      (invariant.sound tunnel (List.mem_of_getElem? there)).hangUp

theorem invariant_initial : Invariant initial := by
  refine ⟨fun _ active => ?_, Nat.zero_le _, fun _ _ there => ?_, fun _ _ active => ?_, fun _ member => ?_⟩
  · cases active
  · simp [initial] at there
  · simp [initial] at active
  · cases member

/-- The datagram an event brings, if it brings one that parses. -/
def Event.datagram : Event → Option (QuarterStreamId × Bytes)
  | .read raw => (Datagram.decodeHttp3Datagram raw).toOption
  | _ => none

theorem step_log {event : Event} (stepped : step s event = some s') :
    s'.log = s.log ++ event.datagram.toList := by
  cases event with
  | read raw =>
    simp only [step] at stepped
    split at stepped
    · cases stepped
      simp only [State.read, Event.datagram]
      cases Datagram.decodeHttp3Datagram raw with
      | ok datagram => rfl
      | error error => exact (List.append_nil _).symm
    · cases stepped
  | register streamId | unregister streamId | hangUp sink =>
    cases stepped
    exact (List.append_nil _).symm
  | receive sink =>
    simp only [step, Option.bind_eq_bind, Option.bind_eq_some_iff, Option.pure_def, Option.some.injEq] at stepped
    obtain ⟨_, _, _, _, rfl⟩ := stepped
    exact (List.append_nil _).symm

theorem run_log {events : List Event} (ran : Transition.run step s events = some s') :
    s'.log = s.log ++ events.filterMap Event.datagram := by
  induction events generalizing s with
  | nil =>
    cases ran
    exact (List.append_nil _).symm
  | cons event rest ih =>
    obtain ⟨middle, stepped, later⟩ := Transition.run_cons_some.mp ran
    rw [ih later, step_log stepped, List.append_assoc, List.filterMap_cons]
    cases event.datagram with
    | none => rfl
    | some datagram => rfl

/-- Whatever order things happen in: a stream is active or pending and not both, the buffers keep to
their bounds, and a tunnel gets, in order and once each, some of the datagrams that name its stream,
those from before its registration first. -/
theorem tunnels_get_their_own {events : List Event} (ran : Transition.run step initial events = some s) :
    (∀ streamId, ¬ (streamId ∈ s.routes.active ∧ streamId ∈ s.routes.pending)) ∧
    s.routes.pending.keys.length ≤ 64 ∧
    (∀ streamId queue, s.routes.pending.lookup streamId = some queue → 1 ≤ queue.length ∧ queue.length ≤ 16) ∧
    (∀ streamId sink, s.routes.active.lookup streamId = some sink →
      (s.tunnels[sink]?).map (·.streamId) = some streamId) ∧
    ∀ tunnel ∈ s.tunnels, ∃ early late, tunnel.received ++ tunnel.queue = early ++ late ∧
      early.Sublist (addressedTo tunnel.streamId ((events.filterMap Event.datagram).take tunnel.since)) ∧
      late.Sublist (addressedTo tunnel.streamId ((events.filterMap Event.datagram).drop tunnel.since)) := by
  have invariant := Transition.run_invariant Invariant (fun _ _ _ holds stepped => step_invariant holds stepped)
    invariant_initial ran
  refine ⟨fun streamId both => invariant.disjoint streamId both.1 both.2, invariant.streams,
    fun streamId queue there => (invariant.queues streamId queue there).1, invariant.routed, fun tunnel member => ?_⟩
  have read := run_log ran
  rw [show initial.log = [] from rfl, List.nil_append] at read
  rw [← read]
  exact (invariant.sound tunnel member).gets

-- A datagram for stream 4 ahead of its tunnel, one after it, and one for stream 8, which has none.
def threeDatagrams : List Event := [.read [1, 10], .register 4, .read [1, 20], .read [2, 30], .receive 0]

theorem early_datagram_comes_first :
    ∃ s, Transition.run step initial threeDatagrams = some s ∧ s.tunnels = [⟨4, [[20]], false, [[10]], 1⟩] ∧
      s.routes.pending.lookup 8 = some [[30]] ∧ 8 ∉ s.routes.active ∧
      ∃ early late, [[10], [20]] = early ++ late ∧
        early.Sublist (addressedTo 4 ((threeDatagrams.filterMap Event.datagram).take 1)) ∧
        late.Sublist (addressedTo 4 ((threeDatagrams.filterMap Event.datagram).drop 1)) := by
  obtain ⟨s, ran⟩ : ∃ s, Transition.run step initial threeDatagrams = some s := ⟨_, rfl⟩
  have tunnels : s.tunnels = [⟨4, [[20]], false, [[10]], 1⟩] := by
    cases ran
    rfl
  have waiting : s.routes.pending.lookup 8 = some [[30]] := by
    cases ran
    rfl
  obtain ⟨apart, -, -, -, gets⟩ := tunnels_get_their_own ran
  have pending : (8 : UInt64) ∈ s.routes.pending := AList.lookup_isSome.mp (by rw [waiting]; rfl)
  refine ⟨s, ran, tunnels, waiting, fun active => apart 8 ⟨active, pending⟩, ?_⟩
  exact gets ⟨4, [[20]], false, [[10]], 1⟩ (by rw [tunnels]; exact List.mem_singleton_self _)

/-! ## Room for a new stream -/

theorem deliver_room (inactive : stream.streamId ∉ s.routes.active)
    (room : s.routes.pending.keys.length < maxPendingStreams ∨ stream.streamId ∈ s.routes.pending) :
    (s.deliver stream payload).routes.active = s.routes.active ∧
      (s.deliver stream payload).routes.pending.lookup stream.streamId =
        some (Queue.push maxPendingPerStream ((s.routes.pending.lookup stream.streamId).getD []) payload) := by
  obtain ⟨sink, active, -⟩ | ⟨-, full, absent, -⟩ | ⟨-, -, pending, rfl, delivered⟩ :=
    deliver_cases s stream payload
  · rw [AList.lookup_eq_none.mpr inactive] at active
    cases active
  · cases room with
    | inl room => omega
    | inr present => exact absurd present absent
  · rw [delivered]
    exact ⟨rfl, AList.lookup_insert _⟩

theorem deliver_full (inactive : stream.streamId ∉ s.routes.active)
    (full : maxPendingStreams ≤ s.routes.pending.keys.length) (absent : stream.streamId ∉ s.routes.pending) :
    s.deliver stream payload = s := by
  obtain ⟨sink, active, -⟩ | ⟨-, -, -, delivered⟩ | ⟨-, room, -⟩ := deliver_cases s stream payload
  · rw [AList.lookup_eq_none.mpr inactive] at active
    cases active
  · exact delivered
  · cases room with
    | inl room => omega
    | inr present => exact absurd present absent

/-- The datagram names the stream and carries the payload. -/
def Names (streamId : UInt64) (raw payload : Bytes) : Prop :=
  ∃ stream : QuarterStreamId, stream.streamId = streamId ∧ Datagram.decodeHttp3Datagram raw = .ok (stream, payload)

section
variable {streamId : UInt64} {raws payloads : List Bytes}

theorem step_read_of_names {raw : Bytes} (names : Names streamId raw payload)
    (stepped : step s (.read raw) = some s') :
    ∃ stream : QuarterStreamId, stream.streamId = streamId ∧ s'.routes = (s.deliver stream payload).routes := by
  obtain ⟨stream, same, decoded⟩ := names
  simp only [step, State.read, decoded] at stepped
  split at stepped
  · cases stepped
    exact ⟨stream, same, rfl⟩
  · cases stepped

/-- With room for the stream, what is read for it is pushed onto its queue. -/
theorem reads_room (inactive : streamId ∉ s.routes.active)
    (room : s.routes.pending.keys.length < maxPendingStreams ∨ streamId ∈ s.routes.pending)
    (named : List.Forall₂ (Names streamId) raws payloads)
    (ran : Transition.run step s (raws.map .read) = some s') :
    (s'.routes.pending.lookup streamId).getD [] =
      payloads.foldl (Queue.push maxPendingPerStream) ((s.routes.pending.lookup streamId).getD []) := by
  induction named generalizing s with
  | nil =>
    cases ran
    rfl
  | cons names _ ih =>
    obtain ⟨middle, stepped, later⟩ := Transition.run_cons_some.mp ran
    obtain ⟨stream, rfl, routes⟩ := step_read_of_names names stepped
    obtain ⟨same, queued⟩ := deliver_room inactive room
    rw [← routes] at same queued
    have present := AList.lookup_isSome.mp (Option.isSome_of_eq_some queued)
    rw [ih (by rwa [same]) (.inr present) later, queued, List.foldl_cons, Option.getD_some]

/-- With none, it is lost. -/
theorem reads_full (inactive : streamId ∉ s.routes.active)
    (full : maxPendingStreams ≤ s.routes.pending.keys.length) (absent : streamId ∉ s.routes.pending)
    (named : List.Forall₂ (Names streamId) raws payloads)
    (ran : Transition.run step s (raws.map .read) = some s') : s'.routes = s.routes := by
  induction named generalizing s with
  | nil =>
    cases ran
    rfl
  | cons names _ ih =>
    obtain ⟨middle, stepped, later⟩ := Transition.run_cons_some.mp ran
    obtain ⟨stream, rfl, routes⟩ := step_read_of_names names stepped
    rw [deliver_full inactive full absent] at routes
    rw [← routes] at inactive full absent ⊢
    exact ih inactive full absent later

theorem rtake_ne_nil {capacity : Nat} {items : List Bytes} (room : 0 < capacity) (some : items ≠ []) :
    items.rtake capacity ≠ [] := by
  unfold List.rtake
  rw [List.ne_nil_iff_length_pos, List.length_drop]
  have := List.length_pos_of_ne_nil some
  omega

/-- After any history, of the datagrams that come for a stream with nothing buffered the last ones are
there when it registers, exactly if fewer streams than the bound are waiting (or none came). -/
theorem early_datagrams_kept_iff {events : List Event} (ran : Transition.run step initial events = some s)
    (inactive : streamId ∉ s.routes.active) (unbuffered : streamId ∉ s.routes.pending)
    (named : List.Forall₂ (Names streamId) raws payloads)
    (registered : Transition.run step initial (events ++ (raws.map .read ++ [.register streamId])) = some s') :
    (s'.tunnels.getLast?).map (·.queue) = some (payloads.rtake 16) ↔
      payloads = [] ∨ s.routes.pending.keys.length < 64 := by
  obtain ⟨_, again, registered⟩ := Transition.run_append_some.mp registered
  obtain rfl := Option.some.inj (ran.symm.trans again)
  obtain ⟨read, reads, registered⟩ := Transition.run_append_some.mp registered
  cases registered
  simp only [State.register, List.getLast?_append, List.getLast?_singleton, Option.some_or, Option.map_some,
    Option.some.injEq]
  have nothing : s.routes.pending.lookup streamId = none := AList.lookup_eq_none.mpr unbuffered
  cases Nat.lt_or_ge s.routes.pending.keys.length 64 with
  | inl room =>
    have queued := reads_room inactive (.inl room) named reads
    rw [nothing, Option.getD_none, Queue.foldl_push (by decide) (Nat.zero_le _), List.nil_append] at queued
    have fits : ([] ++ payloads.rtake maxPendingPerStream).length ≤ inboundCapacity := by
      rw [List.nil_append, List.rtake, List.length_drop]
      unfold maxPendingPerStream inboundCapacity
      omega
    rw [queued, Queue.sendAll_eq_append fits, List.nil_append]
    exact iff_of_true rfl (.inr room)
  | inr full =>
    have kept := reads_full inactive full unbuffered named reads
    rw [kept, nothing, Option.getD_none, Queue.sendAll]
    constructor
    · intro lost
      refine .inl (by_contra fun some => ?_)
      exact rtake_ne_nil (by decide) some lost.symm
    · rintro (rfl | room)
      · rfl
      · omega

end

theorem names_of_decode {streamId : UInt64} {raw : Bytes}
    (decoded : (Datagram.decodeHttp3Datagram raw).toOption.any
      fun found => found.1.streamId = streamId ∧ found.2 = payload) : Names streamId raw payload := by
  cases read : Datagram.decodeHttp3Datagram raw with
  | error error =>
    rw [read] at decoded
    cases decoded
  | ok found =>
    rw [read] at decoded
    obtain ⟨same, rfl⟩ := of_decide_eq_true decoded
    exact ⟨found.1, same, read⟩

-- Two datagrams for stream 4 on a new connection.
theorem two_datagrams_wait_for_their_tunnel :
    ∃ s', Transition.run step initial ([] ++ ([[1, 10], [1, 20]].map .read ++ [.register 4])) = some s' ∧
      (s'.tunnels.getLast?).map (·.queue) = some [[10], [20]] := by
  obtain ⟨s', registered⟩ : ∃ s', Transition.run step initial
      ([] ++ ([[1, 10], [1, 20]].map .read ++ [.register 4])) = some s' := ⟨_, rfl⟩
  refine ⟨s', registered, ?_⟩
  have named : List.Forall₂ (Names 4) [[1, 10], [1, 20]] [[10], [20]] :=
    .cons (names_of_decode (by decide)) (.cons (names_of_decode (by decide)) .nil)
  have absent {β : Type} : (4 : UInt64) ∉ (∅ : StreamMap β) := AList.notMem_empty 4
  exact (early_datagrams_kept_iff (Transition.run_nil step initial) absent absent named registered).mpr
    (.inr (by decide))

/-- Sixty-four streams that sent a datagram and were never served. -/
def deadStreams : List Event := (List.range 64).map fun quarter => .read [UInt8.ofNat quarter]

theorem dead_streams_starve_a_new_one :
    ¬ ∀ (events : List Event) (s s' : State) (streamId : UInt64) (raws payloads : List Bytes),
      Transition.run step initial events = some s → streamId ∉ s.routes.active → streamId ∉ s.routes.pending →
      List.Forall₂ (Names streamId) raws payloads →
      Transition.run step initial (events ++ (raws.map .read ++ [.register streamId])) = some s' →
      (s'.tunnels.getLast?).map (·.queue) = some (payloads.rtake 16) := by
  intro kept
  have looked : (Transition.run step initial deadStreams).map
      (fun s => (s.routes.active.lookup 256, s.routes.pending.lookup 256)) = some (none, none) := by
    decide +kernel
  have lost : (Transition.run step initial (deadStreams ++ ([[64, 64, 7]].map .read ++ [.register 256]))).map
      (fun s => (s.tunnels.getLast?).map (·.queue)) = some (some []) := by
    decide +kernel
  obtain ⟨s, ran, found⟩ := Option.map_eq_some_iff.mp looked
  obtain ⟨s', registered, empty⟩ := Option.map_eq_some_iff.mp lost
  rw [Prod.mk.injEq, AList.lookup_eq_none, AList.lookup_eq_none] at found
  have wanted := kept deadStreams s s' 256 [[64, 64, 7]] [[7]] ran found.1 found.2
    (.cons (names_of_decode (by decide)) .nil) registered
  rw [empty] at wanted
  exact absurd wanted (by decide)

end Skimasque.Gateway.Datagrams
