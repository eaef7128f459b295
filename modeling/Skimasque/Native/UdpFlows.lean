import Skimasque.Library.Address
import Skimasque.Library.Map
import Skimasque.Library.Queue
import Skimasque.Library.Transition
import Mathlib.Data.List.Nodup
import Mathlib.Data.List.Perm.Subperm

/-! UDP through the session: a flow for each pair of addresses, each with a tunnel of its own.

A flow's task is the reader of its channel. The table of flows has the sender, with the generation that the task reports when
it is joined.
-/

set_option autoImplicit false

namespace Skimasque.Native.UdpFlows
open Library Library.Address Library.Transition

structure FlowKey where
  source : SocketAddr
  destination : SocketAddr
  deriving DecidableEq, Repr

abbrev Bytes := List UInt8

structure UdpMsg where
  payload : Bytes
  localAddr : SocketAddr
  remoteAddr : SocketAddr
  deriving DecidableEq, Repr

def maxFlows : Nat := 1024
def flowCapacity : Nat := 64
def replyCapacity : Nat := 512
def mtu : Nat := 1280

/-- What `flows` has for a key. -/
structure Sender where
  generation : UInt64
  channel : Nat
  deriving DecidableEq, Repr

/-- A task of the join set. -/
structure Task where
  key : FlowKey
  generation : UInt64
  channel : Nat
  queue : List Bytes
  /-- The tunnel is there. -/
  connected : Bool := false
  /-- `flow` has returned, and with it went the receiver. -/
  ended : Bool := false
  deriving DecidableEq, Repr

structure State where
  flows : AList (fun _ : FlowKey => Sender) := ∅
  generation : UInt64 := 0
  tasks : List Task := []
  replies : List UdpMsg := []
  channels : Nat := 0
  /-- The packets that came from the device. -/
  inputs : List (FlowKey × Bytes) := []
  /-- Those that were handed to a tunnel. -/
  relayed : List (FlowKey × Bytes) := []
  /-- The packets that came from a tunnel, with the key of its flow. -/
  heard : List (FlowKey × Bytes) := []
  /-- The replies that went to the device. -/
  delivered : List UdpMsg := []

/-- `let header=if key.source.is_ipv4(){28}else{48}`. -/
def header (key : FlowKey) : Nat := if key.source.ip.isIpv6 then 48 else 28

def reply (message : FlowKey × Bytes) : UdpMsg := ⟨message.2, message.1.destination, message.1.source⟩

def fits (message : FlowKey × Bytes) : Bool := message.2.length + header message.1 ≤ mtu

namespace State

def modify (state : State) (channel : Nat) (change : Task → Task) : State :=
  { state with tasks := state.tasks.map fun task => if task.channel = channel then change task else task }

/-- `let _=tx.try_send(bytes)`. -/
def offer (bytes : Bytes) (task : Task) : Task :=
  if task.ended then task
  else { task with queue := (Queue.trySend flowCapacity task.queue bytes).getD task.queue }

/-- A packet from the device. -/
def input (state : State) (bytes : Bytes) (key : FlowKey) : State :=
  let state := { state with inputs := state.inputs ++ [(key, bytes)] }
  match state.flows.lookup key with
  | some sender => state.modify sender.channel (offer bytes)
  | none =>
    if maxFlows ≤ state.flows.keys.length then state
    else
      let generation := state.generation + 1
      { state with
        generation
        flows := state.flows.insert key ⟨generation, state.channels⟩
        tasks := state.tasks ++ [{ key, generation, channel := state.channels, queue := [bytes] }]
        channels := state.channels + 1 }

/-- The task reads its channel. -/
def forward (state : State) (task : Task) (maxPayloadSize : Option Nat) : State :=
  match task.queue with
  | [] => state
  | packet :: queue =>
    let state := state.modify task.channel fun task => { task with queue }
    if maxPayloadSize.any (· < packet.length) then state
    else { state with relayed := state.relayed ++ [(task.key, packet)] }

/-- The task has a packet of its tunnel. A reply waits for room. -/
def hear (state : State) (task : Task) (packet : Bytes) : Option State :=
  let state := { state with heard := state.heard ++ [(task.key, packet)] }
  if fits (task.key, packet) then
    (Queue.trySend replyCapacity state.replies (reply (task.key, packet))).map fun replies => { state with replies }
  else some state

def join (state : State) (task : Task) : State :=
  let flows :=
    if (state.flows.lookup task.key).any (·.generation = task.generation) then state.flows.erase task.key else state.flows
  { state with flows, tasks := state.tasks.filter (·.channel ≠ task.channel) }

end State

inductive Event where
  | input (bytes : Bytes) (key : FlowKey)
  | reply
  | connects (task : Task)
  | forwards (task : Task) (maxPayloadSize : Option Nat)
  | hears (task : Task) (packet : Bytes)
  | ends (task : Task)
  | joins (task : Task)
  deriving DecidableEq, Repr

def step (state : State) : Event → Option State
  | .input bytes key => some (state.input bytes key)
  | .reply =>
    match state.replies with
    | [] => none
    | first :: replies => some { state with replies, delivered := state.delivered ++ [first] }
  | .connects task =>
    if task ∈ state.tasks ∧ ¬task.ended then some (state.modify task.channel ({ · with connected := true })) else none
  | .forwards task maxPayloadSize =>
    if task ∈ state.tasks ∧ task.connected ∧ ¬task.ended then some (state.forward task maxPayloadSize) else none
  | .hears task packet =>
    if task ∈ state.tasks ∧ task.connected ∧ ¬task.ended then state.hear task packet else none
  | .ends task =>
    if task ∈ state.tasks then some (state.modify task.channel ({ · with ended := true, queue := [] })) else none
  | .joins task => if task ∈ state.tasks ∧ task.ended then some (state.join task) else none

def start : State := {}

/-- The packets of one flow. -/
def packetsOf (key : FlowKey) (packets : List (FlowKey × Bytes)) : List Bytes :=
  (packets.filter (·.1 = key)).map Prod.snd

@[simp] theorem packetsOf_same (key : FlowKey) (packets : List (FlowKey × Bytes)) (bytes : Bytes) :
    packetsOf key (packets ++ [(key, bytes)]) = packetsOf key packets ++ [bytes] := by
  simp [packetsOf]

theorem packetsOf_other {key other : FlowKey} (different : other ≠ key) (packets : List (FlowKey × Bytes)) (bytes : Bytes) :
    packetsOf key (packets ++ [(other, bytes)]) = packetsOf key packets := by
  simp [packetsOf, different]

/-- The table has the sender of every task and of nothing else, and a flow has sent and kept a part of what came for it, in
order. -/
structure Sound (state : State) : Prop where
  once : (state.tasks.map Task.channel).Nodup
  older : ∀ task ∈ state.tasks, task.channel < state.channels
  found : ∀ task ∈ state.tasks, state.flows.lookup task.key = some ⟨task.generation, task.channel⟩
  backed : ∀ key ∈ state.flows, ∃ task ∈ state.tasks, task.key = key
  bounded : state.flows.keys.length ≤ maxFlows
  queued : ∀ task ∈ state.tasks, task.queue.length ≤ flowCapacity
  ordered : ∀ key, (packetsOf key state.relayed).Sublist (packetsOf key state.inputs)
  waiting : ∀ task ∈ state.tasks,
    (packetsOf task.key state.relayed ++ task.queue).Sublist (packetsOf task.key state.inputs)
  replied : state.delivered ++ state.replies = (state.heard.filter fits).map reply
  repliesBound : state.replies.length ≤ replyCapacity

section
variable {state : State}

theorem start_sound : Sound start := by
  constructor <;> simp [start, packetsOf, maxFlows, replyCapacity]

/-- Two tasks of one key are one task. -/
theorem Sound.same (sound : Sound state) {one two : Task} (oneMember : one ∈ state.tasks) (twoMember : two ∈ state.tasks)
    (sameKey : one.key = two.key) : one = two := by
  have oneFound := sound.found one oneMember
  rw [sameKey, sound.found two twoMember] at oneFound
  apply List.inj_on_of_nodup_map sound.once oneMember twoMember
  exact congrArg Sender.channel (Option.some.inj oneFound).symm

theorem Sound.keys (sound : Sound state) : (state.tasks.map Task.key).Nodup := by
  apply List.Nodup.map_on
  · intro one oneMember two twoMember
    exact sound.same oneMember twoMember
  · exact List.Nodup.of_map _ sound.once

theorem Sound.few (sound : Sound state) : state.tasks.length ≤ maxFlows := by
  have among : state.tasks.map Task.key ⊆ state.flows.keys := by
    intro key member
    obtain ⟨task, there, rfl⟩ := List.mem_map.mp member
    exact AList.mem_keys.mp (AList.lookup_isSome.mp (by simp [sound.found task there]))
  have length := (sound.keys.subperm among).length_le
  rw [List.length_map] at length
  exact Nat.le_trans length sound.bounded

/-- A change of one task that keeps who it is. -/
theorem modify_sound (sound : Sound state) {task : Task} (member : task ∈ state.tasks) {change : Task → Task}
    (key : (change task).key = task.key) (generation : (change task).generation = task.generation)
    (channel : (change task).channel = task.channel) (queued : (change task).queue.length ≤ flowCapacity)
    (waiting : (packetsOf task.key state.relayed ++ (change task).queue).Sublist (packetsOf task.key state.inputs)) :
    Sound (state.modify task.channel change) := by
  have only {other : Task} (there : other ∈ state.tasks) (same : other.channel = task.channel) : other = task :=
    List.inj_on_of_nodup_map sound.once there member same
  have cases_ {changed : Task} (there : changed ∈ (state.modify task.channel change).tasks) :
      changed = change task ∨ changed ∈ state.tasks := by
    obtain ⟨other, before, rfl⟩ := List.mem_map.mp there
    split
    next same => exact Or.inl (congrArg change (only before same))
    next => exact Or.inr before
  have channels : (state.modify task.channel change).tasks.map Task.channel = state.tasks.map Task.channel := by
    rw [State.modify, List.map_map, List.map_inj_left]
    intro other there
    rw [Function.comp_apply]
    split
    next same => rw [only there same, channel]
    next => rfl
  exact { sound with
    once := channels ▸ sound.once
    older := fun changed there => by
      rcases cases_ there with rfl | before
      · exact channel ▸ sound.older task member
      · exact sound.older changed before
    found := fun changed there => by
      rcases cases_ there with rfl | before
      · rw [key, generation, channel]
        exact sound.found task member
      · exact sound.found changed before
    backed := fun other there => by
      obtain ⟨found, before, rfl⟩ := sound.backed other there
      refine ⟨_, List.mem_map.mpr ⟨found, before, rfl⟩, ?_⟩
      split
      next same => rw [only before same, key]
      next => rfl
    queued := fun changed there => by
      rcases cases_ there with rfl | before
      · exact queued
      · exact sound.queued changed before
    waiting := fun changed there => by
      rcases cases_ there with rfl | before
      · rw [key]
        exact waiting
      · exact sound.waiting changed before }

theorem mem_modify {channel : Nat} {change : Task → Task} {changed : Task} :
    changed ∈ (state.modify channel change).tasks ↔
      ∃ task ∈ state.tasks, (if task.channel = channel then change task else task) = changed :=
  List.mem_map

/-- A packet that came is one more that its flow may keep. -/
theorem received_sound (sound : Sound state) (key : FlowKey) (bytes : Bytes) :
    Sound { state with inputs := state.inputs ++ [(key, bytes)] } := by
  have more (other : FlowKey) : (packetsOf other state.inputs).Sublist (packetsOf other (state.inputs ++ [(key, bytes)])) := by
    by_cases same : key = other
    · subst same
      simp
    · rw [packetsOf_other same]
  exact { sound with
    ordered := fun other => (sound.ordered other).trans (more other)
    waiting := fun task member => (sound.waiting task member).trans (more task.key) }

theorem offer_queue (sound : Sound state) {task : Task} (member : task ∈ state.tasks) (bytes : Bytes) :
    (State.offer bytes task).queue.length ≤ flowCapacity ∧
      ((State.offer bytes task).queue = task.queue ∨ (State.offer bytes task).queue = task.queue ++ [bytes]) := by
  have queued := sound.queued task member
  unfold State.offer Queue.trySend
  split
  · exact ⟨queued, Or.inl rfl⟩
  · split
    next room =>
      refine ⟨?_, Or.inr rfl⟩
      rw [Option.getD_some, List.length_append]
      exact room
    next => exact ⟨queued, Or.inl rfl⟩

theorem offer_key (bytes : Bytes) (task : Task) : (State.offer bytes task).key = task.key := by
  unfold State.offer; split <;> rfl
theorem offer_generation (bytes : Bytes) (task : Task) : (State.offer bytes task).generation = task.generation := by
  unfold State.offer; split <;> rfl
theorem offer_channel (bytes : Bytes) (task : Task) : (State.offer bytes task).channel = task.channel := by
  unfold State.offer; split <;> rfl

theorem input_sound (sound : Sound state) (bytes : Bytes) (key : FlowKey) : Sound (state.input bytes key) := by
  have received := received_sound sound key bytes
  simp only [State.input]
  split
  next sender found =>
    obtain ⟨task, member, rfl⟩ := sound.backed key (AList.lookup_isSome.mp (by simp [found]))
    rw [sound.found task member] at found
    cases found
    obtain ⟨length, queue⟩ := offer_queue sound member bytes
    apply modify_sound received member (offer_key bytes task) (offer_generation bytes task) (offer_channel bytes task) length
    rcases queue with same | more
    · rw [same]
      exact received.waiting task member
    · rw [more, packetsOf_same, ← List.append_assoc]
      exact (sound.waiting task member).append_right _
  next unknown =>
    split
    next => exact received
    next room =>
      have absent := AList.lookup_eq_none.mp unknown
      have others {task : Task} (member : task ∈ state.tasks) : task.key ≠ key := by
        rintro rfl
        exact absent (AList.lookup_isSome.mp (by simp [sound.found task member]))
      constructor
      case once =>
        rw [List.map_append, List.map_singleton, List.nodup_append_comm, List.singleton_append, List.nodup_cons]
        refine ⟨fun member => ?_, sound.once⟩
        obtain ⟨task, there, same⟩ := List.mem_map.mp member
        exact Nat.ne_of_lt (sound.older task there) same
      case older =>
        intro task member
        rcases List.mem_append.mp member with there | new
        · exact Nat.lt_succ_of_lt (sound.older task there)
        · rw [List.mem_singleton.mp new]
          exact Nat.lt_succ_self _
      case found =>
        intro task member
        rcases List.mem_append.mp member with there | new
        · rw [AList.lookup_insert_ne (others there)]
          exact sound.found task there
        · rw [List.mem_singleton.mp new]
          exact AList.lookup_insert _
      case backed =>
        intro other member
        rcases (AList.mem_insert _).mp member with rfl | there
        · exact ⟨_, List.mem_append_right _ (List.mem_singleton_self _), rfl⟩
        · obtain ⟨task, before, same⟩ := sound.backed other there
          exact ⟨task, List.mem_append_left _ before, same⟩
      case bounded =>
        rw [AList.keys_insert, List.erase_of_not_mem (mt AList.mem_keys.mpr absent), List.length_cons]
        exact Nat.lt_of_not_le room
      case queued =>
        intro task member
        rcases List.mem_append.mp member with there | new
        · exact sound.queued task there
        · rw [List.mem_singleton.mp new]
          exact Nat.le_add_left 1 63
      case ordered => exact received.ordered
      case waiting =>
        intro task member
        rcases List.mem_append.mp member with there | new
        · exact received.waiting task there
        · rw [List.mem_singleton.mp new, packetsOf_same]
          exact (sound.ordered key).append_right _
      case replied => exact sound.replied
      case repliesBound => exact sound.repliesBound

theorem forward_sound (sound : Sound state) {task : Task} (member : task ∈ state.tasks) (maxPayloadSize : Option Nat) :
    Sound (state.forward task maxPayloadSize) := by
  unfold State.forward
  split
  next => exact sound
  next packet queue first =>
    have length := sound.queued task member
    have waits := sound.waiting task member
    rw [first] at length waits
    have taken : Sound (state.modify task.channel fun task => { task with queue }) :=
      modify_sound sound member rfl rfl rfl (Nat.le_of_succ_le length)
        (((List.sublist_cons_self packet queue).append_left _).trans waits)
    split
    · exact taken
    · have sent := List.append_assoc _ [packet] queue ▸ waits
      exact { taken with
        ordered := fun key => by
          by_cases same : task.key = key
          · subst same
            rw [packetsOf_same]
            exact (List.sublist_append_left _ _).trans sent
          · rw [packetsOf_other same]
            exact sound.ordered key
        waiting := fun changed there => by
          have self : { task with queue } ∈ (state.modify task.channel fun task => { task with queue }).tasks :=
            mem_modify.mpr ⟨task, member, if_pos rfl⟩
          by_cases same : task.key = changed.key
          · rw [← taken.same self there same, packetsOf_same]
            exact sent
          · rw [packetsOf_other same]
            exact taken.waiting changed there }

theorem hear_sound (sound : Sound state) {task : Task} {packet : Bytes} {state' : State}
    (heard : state.hear task packet = some state') : Sound state' := by
  simp only [State.hear] at heard
  split at heard
  next small =>
    simp only [Queue.trySend, Option.map_eq_some_iff, Option.ite_none_right_eq_some, Option.some.injEq]
      at heard
    obtain ⟨_, ⟨room, rfl⟩, rfl⟩ := heard
    exact { sound with
      replied := by simp [← List.append_assoc, sound.replied, small]
      repliesBound := by
        rw [List.length_append]
        exact room }
  next large =>
    cases heard
    exact { sound with replied := by simp [sound.replied, large] }

/-- The table still has the sender of the task that ended. -/
theorem join_eq (sound : Sound state) {task : Task} (member : task ∈ state.tasks) :
    state.join task =
      { state with flows := state.flows.erase task.key, tasks := state.tasks.filter (·.channel ≠ task.channel) } := by
  simp [State.join, sound.found task member]

theorem join_sound (sound : Sound state) {task : Task} (member : task ∈ state.tasks) : Sound (state.join task) := by
  rw [join_eq sound member]
  have left {other : Task} (there : other ∈ state.tasks.filter (·.channel ≠ task.channel)) :
      other ∈ state.tasks ∧ other.key ≠ task.key := by
    obtain ⟨before, different⟩ := List.mem_filter.mp there
    refine ⟨before, fun same => ?_⟩
    simp [sound.same before member same] at different
  exact { sound with
    once := sound.once.sublist (List.filter_sublist.map _)
    older := fun other there => sound.older other (left there).1
    found := fun other there => by
      rw [AList.lookup_erase_ne (left there).2]
      exact sound.found other (left there).1
    backed := fun key there => by
      obtain ⟨different, before⟩ := AList.mem_erase.mp there
      obtain ⟨other, otherMember, rfl⟩ := sound.backed key before
      refine ⟨other, List.mem_filter.mpr ⟨otherMember, ?_⟩, rfl⟩
      simpa using fun same => different (congrArg Task.key (List.inj_on_of_nodup_map sound.once otherMember member same))
    bounded := by
      rw [AList.keys_erase]
      exact Nat.le_trans (List.erase_sublist ..).length_le sound.bounded
    queued := fun other there => sound.queued other (left there).1
    waiting := fun other there => sound.waiting other (left there).1 }

theorem step_sound {event : Event} {state' : State} (sound : Sound state) (stepped : step state event = some state') :
    Sound state' := by
  cases event with
  | input bytes key =>
    cases stepped
    exact input_sound sound bytes key
  | reply =>
    simp only [step] at stepped
    split at stepped
    next => cases stepped
    next first replies next_ =>
      cases stepped
      have replied := sound.replied
      have bound := sound.repliesBound
      rw [next_] at replied bound
      exact { sound with
        replied := by simpa using replied
        repliesBound := Nat.le_of_succ_le bound }
  | connects task =>
    simp only [step, Option.ite_none_right_eq_some, Option.some.injEq] at stepped
    obtain ⟨⟨member, -⟩, rfl⟩ := stepped
    exact modify_sound sound member rfl rfl rfl (sound.queued task member) (sound.waiting task member)
  | forwards task maxPayloadSize =>
    simp only [step, Option.ite_none_right_eq_some, Option.some.injEq] at stepped
    obtain ⟨⟨member, -⟩, rfl⟩ := stepped
    exact forward_sound sound member maxPayloadSize
  | hears task packet =>
    simp only [step, Option.ite_none_right_eq_some] at stepped
    exact hear_sound sound stepped.2
  | ends task =>
    simp only [step, Option.ite_none_right_eq_some, Option.some.injEq] at stepped
    obtain ⟨member, rfl⟩ := stepped
    apply modify_sound sound member rfl rfl rfl (Nat.zero_le _)
    simpa using sound.ordered task.key
  | joins task =>
    simp only [step, Option.ite_none_right_eq_some, Option.some.injEq] at stepped
    obtain ⟨⟨member, -⟩, rfl⟩ := stepped
    exact join_sound sound member

theorem run_sound {events : List Event} (ran : run step start events = some state) : Sound state :=
  run_invariant Sound (fun _ _ _ sound stepped => step_sound sound stepped) start_sound ran

/-- In every run the table has one entry for each task that was not joined, 1024 at most, which the task takes with it. A
tunnel is given packets of its own flow only, none twice and in their order, and each reply that fits the device goes back to
where its flow came from. -/
theorem flows_are_kept_apart {events : List Event} (ran : run step start events = some state) :
    (state.tasks.map Task.key).Nodup ∧ state.tasks.length ≤ maxFlows ∧
    (∀ key, key ∈ state.flows ↔ ∃ task ∈ state.tasks, task.key = key) ∧
    (∀ task ∈ state.tasks, task.key ∉ (state.join task).flows ∧
      ∀ other ∈ state.tasks, other.key ≠ task.key → (state.join task).flows.lookup other.key = state.flows.lookup other.key) ∧
    (∀ key, (packetsOf key state.relayed).Sublist (packetsOf key state.inputs)) ∧
    (∀ task ∈ state.tasks, task.queue.length ≤ flowCapacity ∧
      (packetsOf task.key state.relayed ++ task.queue).Sublist (packetsOf task.key state.inputs)) ∧
    state.delivered ++ state.replies = (state.heard.filter fits).map reply ∧ state.replies.length ≤ replyCapacity := by
  have sound := run_sound ran
  refine ⟨sound.keys, sound.few, ?_, ?_, sound.ordered, ?_, sound.replied, sound.repliesBound⟩
  · intro key
    constructor
    · exact sound.backed key
    · rintro ⟨task, member, rfl⟩
      exact AList.lookup_isSome.mp (by simp [sound.found task member])
  · intro task member
    rw [join_eq sound member]
    constructor
    · exact fun there => (AList.mem_erase.mp there).1 rfl
    · intro other _ different
      exact AList.lookup_erase_ne different
  · intro task member
    exact ⟨sound.queued task member, sound.waiting task member⟩

/-- Two packets to a name server, of which the first is sent, and its answer. -/
def query : FlowKey := ⟨⟨.v4 0x0a000001, 4000⟩, ⟨.v4 0x0a000002, 53⟩⟩

theorem flows_are_kept_apart_query :
    ∃ state, run step start [.input [1] query, .connects ⟨query, 1, 0, [[1]], false, false⟩, .input [2] query,
        .forwards ⟨query, 1, 0, [[1], [2]], true, false⟩ none, .hears ⟨query, 1, 0, [[2]], true, false⟩ [3], .reply] =
        some state ∧
      packetsOf query state.inputs = [[1], [2]] ∧ state.delivered = [⟨[3], query.destination, query.source⟩] ∧
      state.tasks.length ≤ 1024 := by
  have ran : ∃ state, run step start [.input [1] query, .connects ⟨query, 1, 0, [[1]], false, false⟩, .input [2] query,
        .forwards ⟨query, 1, 0, [[1], [2]], true, false⟩ none, .hears ⟨query, 1, 0, [[2]], true, false⟩ [3], .reply] =
        some state ∧ state.inputs = [(query, [1]), (query, [2])] ∧ state.heard = [(query, [3])] ∧ state.replies = [] :=
    ⟨_, rfl, rfl, rfl, rfl⟩
  obtain ⟨state, ran, inputs, heard, none_left⟩ := ran
  obtain ⟨-, few, -, -, -, -, replied, -⟩ := flows_are_kept_apart ran
  refine ⟨state, ran, ?_, ?_, few⟩
  · rw [inputs]
    decide
  · rw [heard, none_left, List.append_nil] at replied
    rw [replied]
    decide

end

end Skimasque.Native.UdpFlows
