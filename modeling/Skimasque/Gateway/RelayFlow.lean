import Skimasque.Gateway.Relay

/-! The TCP relay between four bounded buffers: what waits in each direction while the relay has a payload in hand.

The target and the client are free: they send, read and take whenever there is something to take and room to put it.
An echo server is one such target.
-/

set_option autoImplicit false

namespace Skimasque.Gateway.RelayFlow
open Library Library.Transition Engine Skimasque.Core Relay

structure Sizes where
  /-- Of the client's stream, in bytes not yet taken by the relay. -/
  fromClient : Nat
  toTarget : Nat
  fromTarget : Nat
  toClient : Nat
  deriving DecidableEq, Repr

structure Flow where
  relay : Tcp.State
  fromClient : List Bytes
  toTarget : Bytes
  fromTarget : Bytes
  toClient : Bytes
  deriving DecidableEq, Repr

inductive Event where
  | clientSends (chunk : Bytes)
  | clientTakes (n : Nat)
  | targetReads (n : Nat)
  | targetEmits (bytes : Bytes)
  | relay (event : Tcp.Event)
  deriving DecidableEq, Repr

namespace Flow

def targetRoom (sizes : Sizes) (flow : Flow) : Nat := sizes.toTarget - flow.toTarget.length

def clientRoom (sizes : Sizes) (flow : Flow) : Nat := sizes.toClient - flow.toClient.length

/-- The client's stream has a chunk that the relay would take. -/
def clientReady (flow : Flow) : Prop := flow.fromClient ≠ [] ∧ flow.relay.clientDone = false

/-- The target's socket has bytes that the relay would read. -/
def targetReady (flow : Flow) : Prop := flow.fromTarget ≠ [] ∧ flow.relay.targetDone = false

instance (flow : Flow) : Decidable flow.clientReady := inferInstanceAs (Decidable (_ ∧ _))

instance (flow : Flow) : Decidable flow.targetReady := inferInstanceAs (Decidable (_ ∧ _))

end Flow

/-- The next `n` bytes of the payload in hand. -/
def nextBytes (phase : Tcp.Phase) (n : Nat) : Bytes :=
  match phase with
  | .writing payload left | .sending payload left => (payload.drop (payload.length - left)).take n
  | _ => []

/-- What an event of the relay needs of the buffers, and what it does to them. The select is biased: the client's
chunks come first, then the target's bytes, then the idle timer. -/
def buffers (sizes : Sizes) (flow : Flow) : Tcp.Event → Option Flow
  | .chunk payload =>
    match flow.fromClient with
    | first :: rest => if first = payload then some { flow with fromClient := rest } else none
    | [] => none
  | .clientFin => if flow.fromClient = [] then some flow else none
  | .read payload =>
    if ¬ flow.clientReady ∧ payload.isPrefixOf flow.fromTarget then
      some { flow with fromTarget := flow.fromTarget.drop payload.length }
    else none
  | .targetEof => if ¬ flow.clientReady ∧ flow.fromTarget = [] then some flow else none
  | .wrote n =>
    if n ≤ flow.targetRoom sizes then
      some { flow with toTarget := flow.toTarget ++ nextBytes flow.relay.phase n }
    else none
  | .sent n =>
    if n ≤ flow.clientRoom sizes then
      some { flow with toClient := flow.toClient ++ nextBytes flow.relay.phase n }
    else none
  | .idle => if ¬ flow.clientReady ∧ ¬ flow.targetReady then some flow else none
  | _ => some flow

def step (sizes : Sizes) (limits : TunnelLimits) (idle : Option Duration) (flow : Flow) : Event → Option Flow
  | .clientSends chunk =>
    if (flow.fromClient.map List.length).sum + chunk.length ≤ sizes.fromClient then
      some { flow with fromClient := flow.fromClient ++ [chunk] }
    else none
  | .clientTakes n =>
    if 0 < n ∧ n ≤ flow.toClient.length then some { flow with toClient := flow.toClient.drop n } else none
  | .targetReads n =>
    if 0 < n ∧ n ≤ flow.toTarget.length then some { flow with toTarget := flow.toTarget.drop n } else none
  | .targetEmits bytes =>
    if flow.fromTarget.length + bytes.length ≤ sizes.fromTarget then
      some { flow with fromTarget := flow.fromTarget ++ bytes }
    else none
  | .relay event => do
    let flow' ← buffers sizes flow event
    let relay ← Tcp.step limits idle flow.relay event
    return { flow' with relay }

def start (meter : Option TunnelMeter) : Flow := ⟨Tcp.start meter, [], [], [], []⟩

/-! ## Being stuck -/

/-- How much of a payload the relay still has to put in a direction. -/
def inHand (direction : Direction) : Tcp.Phase → Option Nat
  | .pacing along payload => if along = direction then some payload.length else none
  | .writing _ left => if direction = .toTarget then some left else none
  | .sending _ left => if direction = .toClient then some left else none
  | _ => none

/-- The relay waits in a write to the target, and there is no room. -/
def blockedToTarget (sizes : Sizes) (flow : Flow) : Prop :=
  flow.targetRoom sizes = 0 ∧ ∃ payload left, flow.relay.phase = .writing payload left ∧ 0 < left

def blockedToClient (sizes : Sizes) (flow : Flow) : Prop :=
  flow.clientRoom sizes = 0 ∧ ∃ payload left, flow.relay.phase = .sending payload left ∧ 0 < left

/-- One direction is blocked, while the other has bytes waiting and room for them. -/
def Wedged (sizes : Sizes) (flow : Flow) : Prop :=
  (blockedToTarget sizes flow ∧ flow.targetReady ∧ 0 < flow.clientRoom sizes) ∨
    (blockedToClient sizes flow ∧ flow.clientReady ∧ 0 < flow.targetRoom sizes)

/-- A payload is in hand that does not fit in the room there is. -/
def tooMuch (room : Nat) (hand : Option Nat) : Prop := ∃ left, hand = some left ∧ room < left

/-- The relay takes no chunk that does not fit while the target's bytes wait, and neither end sends
while the relay has a payload in hand that does not fit. -/
def Fits (sizes : Sizes) (flow : Flow) : Event → Prop
  | .relay (.chunk payload) => payload.length ≤ flow.targetRoom sizes ∨ flow.fromTarget = []
  | .targetEmits _ => ¬ tooMuch (flow.targetRoom sizes) (inHand .toTarget flow.relay.phase)
  | .clientSends _ => ¬ tooMuch (flow.clientRoom sizes) (inHand .toClient flow.relay.phase)
  | _ => True

/-! ## What the relay has in hand after a step -/

section
variable {limits : TunnelLimits} {idle : Option Duration} {direction along : Direction} {payload : Bytes}
  {state after : Tcp.State} {event : Tcp.Event}

theorem inHand_afterPacing :
    inHand direction (Tcp.afterPacing along payload) = inHand direction (.pacing along payload) := by
  cases along <;> cases direction <;> rfl

theorem inHand_pace :
    inHand direction (Tcp.pace limits along payload) = inHand direction (.pacing along payload) := by
  unfold Tcp.pace
  split
  · rfl
  · exact inHand_afterPacing

@[simp] theorem inHand_loopHead (clientDone targetDone : Bool) :
    inHand direction (Tcp.loopHead clientDone targetDone) = none := by
  unfold Tcp.loopHead
  split <;> rfl

theorem inHand_settled : inHand direction (Tcp.settled state limits along payload).phase = none := by
  simp only [Tcp.settled]
  split
  · rfl
  · exact inHand_loopHead _ _

/-- The hand is empty, or it has been filled from one side, or it is as it was, or it is `n` bytes lighter. -/
inductive HandStep (direction : Direction) : Tcp.Event → Option Nat → Option Nat → Prop
  | empty (event : Tcp.Event) (hand : Option Nat) : HandStep direction event hand none
  | taken (payload : Bytes) (hand : Option Nat) (side : direction = .toTarget) :
    HandStep direction (.chunk payload) hand (some payload.length)
  | read (payload : Bytes) (hand : Option Nat) (side : direction = .toClient) :
    HandStep direction (.read payload) hand (some payload.length)
  | kept (hand : Option Nat) : HandStep direction .paced hand hand
  | wrote (n left : Nat) (side : direction = .toTarget) (least : n ≤ left) :
    HandStep direction (.wrote n) (some left) (some (left - n))
  | sent (n left : Nat) (side : direction = .toClient) (least : n ≤ left) :
    HandStep direction (.sent n) (some left) (some (left - n))

theorem handStep_of_step (direction : Direction) (stepped : Tcp.step limits idle state event = some after) :
    HandStep direction event (inHand direction state.phase) (inHand direction after.phase) := by
  cases event with
  | chunk payload =>
    simp only [Tcp.step, Option.ite_none_right_eq_some] at stepped
    cases stepped.2
    rw [inHand_pace]
    cases direction with
    | toTarget => exact .taken payload _ rfl
    | toClient => exact .empty _ _
  | read payload =>
    simp only [Tcp.step, Option.ite_none_right_eq_some] at stepped
    cases stepped.2
    rw [inHand_pace]
    cases direction with
    | toTarget => exact .empty _ _
    | toClient => exact .read payload _ rfl
  | paced =>
    simp only [Tcp.step] at stepped
    split at stepped
    · rename_i along payload pacing
      cases stepped
      rw [inHand_afterPacing, pacing]
      exact .kept _
    · cases stepped
  | wrote n =>
    simp only [Tcp.step] at stepped
    split at stepped
    · rename_i payload left writing
      split at stepped
      · rename_i advances
        split at stepped <;> cases stepped
        · rw [inHand_settled]
          exact .empty _ _
        · rw [writing]
          cases direction with
          | toTarget => exact .wrote n left rfl advances.1
          | toClient => exact .empty _ _
      · cases stepped
    · cases stepped
  | sent n =>
    simp only [Tcp.step] at stepped
    split at stepped
    · rename_i payload left sending
      split at stepped
      · rename_i advances
        split at stepped <;> cases stepped
        · rw [inHand_settled]
          exact .empty _ _
        · rw [sending]
          cases direction with
          | toTarget => exact .empty _ _
          | toClient => exact .sent n left rfl advances.1
      · cases stepped
    · cases stepped
  | writeFailed | sendFailed | dropped =>
    simp only [Tcp.step] at stepped
    split at stepped <;> cases stepped
    exact .empty _ _
  | shut | finished =>
    simp only [Tcp.step, Option.ite_none_right_eq_some] at stepped
    cases stepped.2
    rw [inHand_loopHead]
    exact .empty _ _
  | clientFin | clientFailed | targetEof | readFailed | idle =>
    simp only [Tcp.step, Option.ite_none_right_eq_some] at stepped
    cases stepped.2
    exact .empty _ _

/-- The client's side is given up for good, never taken back. -/
theorem clientDone_of_step (stepped : Tcp.step limits idle state event = some after) (done : state.clientDone = true) :
    after.clientDone = true := by
  cases event with
  | wrote n | sent n =>
    simp only [Tcp.step] at stepped
    split at stepped
    · split at stepped
      · split at stepped <;> cases stepped <;> exact done
      · cases stepped
    · cases stepped
  | paced | writeFailed | sendFailed | dropped =>
    simp only [Tcp.step] at stepped
    split at stepped <;> cases stepped
    exact done
  | chunk | clientFin | clientFailed | read | targetEof | readFailed | shut | finished | idle =>
    simp only [Tcp.step, Option.ite_none_right_eq_some] at stepped
    cases stepped.2
    first | exact done | rfl

end

/-! ## What keeps the relay from being stuck -/

/-- Where a payload in hand does not fit, nothing waits in the other direction. -/
structure Clear (sizes : Sizes) (flow : Flow) : Prop where
  target : tooMuch (flow.targetRoom sizes) (inHand .toTarget flow.relay.phase) → flow.fromTarget = []
  client : tooMuch (flow.clientRoom sizes) (inHand .toClient flow.relay.phase) → ¬ flow.clientReady

theorem Clear.not_wedged {sizes : Sizes} {flow : Flow} (clear : Clear sizes flow) : ¬ Wedged sizes flow := by
  rintro (⟨⟨full, payload, left, writing, positive⟩, waiting, -⟩ | ⟨⟨full, payload, left, sending, positive⟩, waiting, -⟩)
  · apply waiting.1
    apply clear.target
    exact ⟨left, by rw [writing]; rfl, by omega⟩
  · apply clear.client _ waiting
    exact ⟨left, by rw [sending]; rfl, by omega⟩

section
variable {sizes : Sizes} {limits : TunnelLimits} {idle : Option Duration} {flow moved : Flow} {event : Tcp.Event}
  {hand next : Option Nat}

theorem not_tooMuch_none {room : Nat} : ¬ tooMuch room none := by
  rintro ⟨left, hand, -⟩
  cases hand

/-- Bytes that leave the hand take no more room than they are. -/
theorem tooMuch_lighter {room less n left : Nat} (shrinks : room - n ≤ less) (much : tooMuch less (some (left - n))) :
    tooMuch room (some left) := by
  obtain ⟨rest, same, beyond⟩ := much
  cases same
  exact ⟨left, rfl, by omega⟩

theorem length_nextBytes_le (phase : Tcp.Phase) (n : Nat) : (nextBytes phase n).length ≤ n := by
  unfold nextBytes
  split
  · exact List.length_take_le _ _
  · exact List.length_take_le _ _
  · exact Nat.zero_le _

theorem target_clear_of_hand (handed : HandStep .toTarget event hand next)
    (clear : tooMuch (flow.targetRoom sizes) hand → flow.fromTarget = []) (fits : Fits sizes flow (.relay event))
    (movement : buffers sizes flow event = some moved) (much : tooMuch (moved.targetRoom sizes) next) :
    moved.fromTarget = [] := by
  cases handed with
  | empty => exact absurd much not_tooMuch_none
  | read _ _ side | sent _ _ side => cases side
  | taken payload =>
    simp only [buffers] at movement
    split at movement
    · simp only [Option.ite_none_right_eq_some] at movement
      cases movement.2
      obtain ⟨left, same, beyond⟩ := much
      cases same
      exact fits.resolve_left (Nat.not_le.mpr beyond)
    · cases movement
  | kept =>
    cases movement
    exact clear much
  | wrote n left =>
    simp only [buffers, Option.ite_none_right_eq_some] at movement
    cases movement.2
    refine clear (tooMuch_lighter ?_ much)
    have short := length_nextBytes_le flow.relay.phase n
    simp only [Flow.targetRoom, List.length_append]
    omega

theorem client_clear_of_hand (handed : HandStep .toClient event hand next)
    (clear : tooMuch (flow.clientRoom sizes) hand → ¬ flow.clientReady)
    (movement : buffers sizes flow event = some moved) (much : tooMuch (moved.clientRoom sizes) next) :
    moved.fromClient = flow.fromClient ∧ ¬ flow.clientReady := by
  cases handed with
  | empty => exact absurd much not_tooMuch_none
  | taken _ _ side | wrote _ _ side => cases side
  | read payload =>
    simp only [buffers, Option.ite_none_right_eq_some] at movement
    cases movement.2
    exact ⟨rfl, movement.1.1⟩
  | kept =>
    cases movement
    exact ⟨rfl, clear much⟩
  | sent n left =>
    simp only [buffers, Option.ite_none_right_eq_some] at movement
    cases movement.2
    refine ⟨rfl, clear (tooMuch_lighter ?_ much)⟩
    have short := length_nextBytes_le flow.relay.phase n
    simp only [Flow.clientRoom, List.length_append]
    omega

theorem tooMuch_mono {room more : Nat} (le : room ≤ more) (much : tooMuch more hand) : tooMuch room hand := by
  obtain ⟨left, held, beyond⟩ := much
  exact ⟨left, held, by omega⟩

variable {after : Flow}

theorem Clear.relay (clear : Clear sizes flow) (fits : Fits sizes flow (.relay event))
    (stepped : step sizes limits idle flow (.relay event) = some after) : Clear sizes after := by
  simp only [step, Option.bind_eq_bind, Option.bind_eq_some_iff] at stepped
  obtain ⟨moved, movement, relay, turned, made⟩ := stepped
  cases made
  constructor
  · intro much
    have emptied : moved.fromTarget = [] :=
      target_clear_of_hand (handStep_of_step .toTarget turned) clear.target fits movement much
    exact emptied
  · rintro much ⟨waiting, ready⟩
    obtain ⟨same, unready⟩ := client_clear_of_hand (handStep_of_step .toClient turned) clear.client movement much
    apply unready
    refine ⟨by rwa [← same], ?_⟩
    cases done : flow.relay.clientDone with
    | false => rfl
    | true =>
      rw [clientDone_of_step turned done] at ready
      cases ready

theorem Clear.step {happening : Event} (clear : Clear sizes flow) (fits : Fits sizes flow happening)
    (stepped : RelayFlow.step sizes limits idle flow happening = some after) : Clear sizes after := by
  cases happening with
  | clientSends chunk =>
    simp only [RelayFlow.step, Option.ite_none_right_eq_some] at stepped
    cases stepped.2
    exact ⟨clear.target, fun much => absurd much fits⟩
  | clientTakes n =>
    simp only [RelayFlow.step, Option.ite_none_right_eq_some] at stepped
    cases stepped.2
    refine ⟨clear.target, fun much => clear.client (tooMuch_mono ?_ much)⟩
    simp only [Flow.clientRoom, List.length_drop]
    omega
  | targetReads n =>
    simp only [RelayFlow.step, Option.ite_none_right_eq_some] at stepped
    cases stepped.2
    refine ⟨fun much => clear.target (tooMuch_mono ?_ much), clear.client⟩
    simp only [Flow.targetRoom, List.length_drop]
    omega
  | targetEmits bytes =>
    simp only [RelayFlow.step, Option.ite_none_right_eq_some] at stepped
    cases stepped.2
    exact ⟨fun much => absurd much fits, clear.client⟩
  | relay event => exact clear.relay fits stepped

theorem clear_start (meter : Option TunnelMeter) : Clear sizes (start meter) :=
  ⟨fun much => absurd much not_tooMuch_none, fun much => absurd much not_tooMuch_none⟩

end

/-- In every run in which the relay holds no payload that does not fit while bytes wait the other way, no
reachable state is wedged. -/
theorem not_wedged_of_fits (sizes : Sizes) (limits : TunnelLimits) (idle : Option Duration) (meter : Option TunnelMeter)
    (events : List Event) (flow : Flow) (fits : Along (step sizes limits idle) (Fits sizes) (start meter) events)
    (ran : run (step sizes limits idle) (start meter) events = some flow) : ¬ Wedged sizes flow := by
  have clear : Clear sizes flow :=
    run_invariant_along (Clear sizes) (fun _ _ _ clear fits stepped => clear.step fits stepped) (clear_start meter)
      fits ran
  exact clear.not_wedged

/-- While it is blocked the relay takes part in nothing but a failure of the write or its own end, whatever waits. -/
theorem blocked_to_target_does_nothing {sizes : Sizes} {limits : TunnelLimits} {idle : Option Duration} {flow : Flow}
    (blocked : blockedToTarget sizes flow) {event : Tcp.Event} (other : event ≠ .writeFailed ∧ event ≠ .dropped) :
    step sizes limits idle flow (.relay event) = none := by
  obtain ⟨full, payload, left, writing, positive⟩ := blocked
  have quiet : buffers sizes flow event = none ∨ Tcp.step limits idle flow.relay event = none := by
    cases event with
    | writeFailed => exact absurd rfl other.1
    | dropped => exact absurd rfl other.2
    | wrote n =>
      by_cases nothing : n = 0
      · right
        have stuck : ¬ Tcp.advances n left := by
          unfold Tcp.advances
          omega
        simp [Tcp.step, writing, stuck]
      · left
        simp only [buffers, full]
        rw [if_neg (by omega)]
    | _ => exact .inr (by simp [Tcp.step, writing])
  simp only [step, Option.bind_eq_bind]
  rcases quiet with none | none
  · simp [none]
  · simp [none]

/-- An echo server as the target: it reads only while it owes nothing, and sends back what it has read. -/
def echoStep (sizes : Sizes) (limits : TunnelLimits) (idle : Option Duration) (system : Flow × Bytes) (event : Event) :
    Option (Flow × Bytes) := do
  let owed ← match event with
    | .targetReads n => if system.2 = [] then some (system.1.toTarget.take n) else none
    | .targetEmits bytes =>
      if bytes ≠ [] ∧ bytes.isPrefixOf system.2 then some (system.2.drop bytes.length) else none
    | _ => some system.2
  let flow ← step sizes limits idle system.1 event
  return (flow, owed)

-- One chunk through small buffers and back.
def smallSizes : Sizes := ⟨4, 2, 2, 2⟩

def echoOnce : List Event :=
  [.clientSends [1, 2], .relay (.chunk [1, 2]), .relay (.wrote 2), .targetReads 2, .targetEmits [1, 2],
    .relay (.read [1, 2]), .relay (.sent 2), .clientTakes 2]

theorem one_echo_does_not_wedge :
    ∃ flow, run (step smallSizes {} none) (start none) echoOnce = some flow ∧ ¬ Wedged smallSizes flow := by
  have fits : Along (step smallSizes {} none) (Fits smallSizes) (start none) echoOnce := by
    refine ⟨not_tooMuch_none, fun flow stepped => ?_⟩
    cases stepped
    refine ⟨.inl (by decide), fun flow stepped => ?_⟩
    cases stepped
    refine ⟨trivial, fun flow stepped => ⟨trivial, fun next turned => ?_⟩⟩
    cases stepped
    cases turned
    refine ⟨not_tooMuch_none, fun flow _ => along_of_forall (fun _ event member => ?_) flow⟩
    simp only [List.mem_cons, List.not_mem_nil, or_false] at member
    rcases member with rfl | rfl | rfl
    · trivial
    · trivial
    · trivial
  exact ⟨_, rfl, not_wedged_of_fits smallSizes {} none none echoOnce _ fits rfl⟩

-- Four chunks through the same buffers. The echo of the first is never read, so the target stops reading.
def idleTimeout : Option Duration := some 30000000000

def echoRun : List Event :=
  [.clientSends [1, 2], .relay (.chunk [1, 2]), .relay (.wrote 2), .targetReads 2, .clientSends [3, 4],
    .clientSends [5, 6], .targetEmits [1, 2], .relay (.chunk [3, 4]), .relay (.wrote 2), .targetReads 2,
    .clientSends [7, 8], .relay (.chunk [5, 6]), .relay (.wrote 2), .relay (.chunk [7, 8])]

def stuckFlow : Flow :=
  ⟨⟨.writing [7, 8] 2, false, false, ⟨6, none, [⟨.toTarget, [1, 2], .written⟩, ⟨.toTarget, [3, 4], .written⟩,
    ⟨.toTarget, [5, 6], .written⟩]⟩⟩, [], [5, 6], [1, 2], []⟩

theorem echo_wedges_relay :
    run (echoStep smallSizes {} idleTimeout) (start none, []) echoRun = some (stuckFlow, [3, 4]) ∧
      Wedged smallSizes stuckFlow ∧
      (∀ event, event ≠ .writeFailed → event ≠ .dropped →
        step smallSizes {} idleTimeout stuckFlow (.relay event) = none) ∧
      (∀ n, echoStep smallSizes {} idleTimeout (stuckFlow, [3, 4]) (.targetReads n) = none) ∧
      ∀ bytes, echoStep smallSizes {} idleTimeout (stuckFlow, [3, 4]) (.targetEmits bytes) = none := by
  have blocked : blockedToTarget smallSizes stuckFlow := ⟨rfl, [7, 8], 2, rfl, by decide⟩
  refine ⟨by decide, .inl ⟨blocked, by decide, by decide⟩, ?_, ?_, ?_⟩
  · intro event lasting kept
    exact blocked_to_target_does_nothing blocked ⟨lasting, kept⟩
  · intro n
    rfl
  · intro bytes
    cases bytes with
    | nil => rfl
    | cons byte rest => simp [echoStep, step, stuckFlow, smallSizes]

end Skimasque.Gateway.RelayFlow
