import Skimasque.Audit.Chain
import Skimasque.Library.Queue
import Skimasque.Library.Transition

/-! Shipping the audit trail: the sink that queues events, the loop that chains and posts them, and the
control plane at the other end of a network that loses requests and answers. -/

set_option autoImplicit false

namespace Skimasque.Audit
open Library Gateway

def auditBuffer : Nat := 4096
def batchMax : Nat := 256
def maxPending : Nat := 10000

/-- What the two shipping loops differ in. The platform's goes by what was chained: it moves its number
on by that, and posts nothing if nothing was. -/
structure Shipping (T : Type) extends Wire T where
  what : String
  byShipped : Bool
  whole : byShipped = false → ∀ event, admits event = true

def auditShipping : Shipping ChainedAuditEvent where
  toWire := chainedWire
  what := "audit ship"
  byShipped := false
  whole _ _ := rfl

def platformAuditShipping : Shipping PlatformAuditEvent where
  toWire := platformWire
  what := "platform audit ship"
  byShipped := true
  whole taken := by cases taken

/-! ## The control plane -/

structure ControlPlane (T : Type) where
  head : AuditHead
  stored : List T

/-- The head after an event that extends the chain. -/
def AuditHead.follow (runtime : Runtime) (head : AuditHead) (item : ChainedAuditEvent) : Option AuditHead :=
  if item.seq = head.seq + 1 ∧ item.prevHash = head.hash then
    some ⟨item.seq, auditHash runtime item.seq item.prevHash item.eventJson⟩
  else none

/-- A batch is stored if all of it extends the chain, and refused otherwise. -/
def ControlPlane.accept {T : Type} (control : ControlPlane T) (runtime : Runtime) (wire : Wire T) (batch : List T) :
    Option (ControlPlane T) :=
  ((batch.map wire.view).foldlM (AuditHead.follow runtime) control.head).map fun head =>
    ⟨head, control.stored ++ batch⟩

/-! ## The loop -/

/-- Where the shipper is: before its first request, at the top of the loop, filling a batch, waiting
for the answer to it, asking for the head after a conflict, backing off, and filling the backlog. -/
inductive Phase where
  | starting
  | waiting
  | filling
  | posting
  | asking
  | sleeping
  | refilling
  deriving DecidableEq, Repr

structure State (T : Type) where
  phase : Phase
  nextSeq : Nat
  prevHash : String
  pending : List AuditEvent
  channel : List AuditEvent
  control : ControlPlane T
  persisted : Option AuditHead
  -- From here on it is history: what the sink was given, what the control plane took, the head with
  -- the last batch that the shipper saw taken, and how many of the pending events were taken unseen.
  recorded : List AuditEvent := []
  accepted : List AuditEvent := []
  seen : Option AuditHead := none
  unseen : Nat := 0

def initial {T : Type} (control : ControlPlane T) (persisted : Option AuditHead) : State T :=
  { phase := .starting, nextSeq := 0, prevHash := "", pending := [], channel := [], control, persisted }

inductive Event where
  | record (event : AuditEvent)
  /-- The first request of a process, for the head. -/
  | resume (fetched : Bool)
  /-- The shipper goes on by itself: one turn of one of its loops. -/
  | turn
  /-- The post fails, and nothing is stored. -/
  | lostRequest (error : String)
  /-- The batch arrives, the answer does not. -/
  | lostResponse (error : String)
  | answered (body : String)
  /-- The answer to the question for the head. -/
  | head (fetched : Bool)
  /-- The process ends, wherever it is, and another one starts. -/
  | restart

section
variable {T : Type} (runtime : Runtime) (shipping : Shipping T)

namespace State
variable (s : State T)

/-- `ControlPlaneAuditSink::record`, which never waits. -/
def record (event : AuditEvent) : State T :=
  { s with
    channel := (Queue.trySend auditBuffer s.channel event).getD s.channel
    recorded := s.recorded ++ [event] }

/-- Where to resume: the control plane's head, else the local record, else genesis. -/
def resumeFrom (fetched : Bool) : AuditHead :=
  if fetched then s.control.head else s.persisted.getD .genesis

def rebase (head : AuditHead) : State T :=
  { s with phase := .waiting, nextSeq := head.seq + 1, prevHash := head.hash, unseen := 0 }

def taken : List AuditEvent := s.pending.take batchMax

def batch : List T × String := chainWith runtime shipping.make s.nextSeq s.prevHash s.taken

/-- The batch is made; the platform's loop does not post an empty one. -/
def post : State T :=
  if shipping.byShipped && (s.batch runtime shipping).1.isEmpty then
    { s with pending := s.pending.drop batchMax, phase := .waiting }
  else { s with phase := .posting }

def takeIn (pending : List AuditEvent) (event : AuditEvent) : List AuditEvent :=
  if shipping.admits event then pending ++ [event] else pending

def trim : State T :=
  { s with
    pending := if maxPending < s.pending.length then s.pending.drop (s.pending.length - maxPending) else s.pending
    phase := .waiting }

def failed (error : String) : State T :=
  { s with phase := if Text.containsText error "409" then .asking else .sleeping }

/-- An accepted batch: the position moves, and the local record with it. -/
def shipped (control : ControlPlane T) : State T :=
  let (batch, tail) := s.batch runtime shipping
  let nextSeq := if shipping.byShipped then s.nextSeq + batch.length else s.nextSeq + s.taken.length
  { s with
    nextSeq, prevHash := tail, persisted := some ⟨nextSeq - 1, tail⟩, pending := s.pending.drop batchMax
    phase := .waiting, control, accepted := s.accepted ++ s.taken, seen := some control.head, unseen := 0 }

def turn : Option (State T) :=
  match s.phase with
  | .waiting =>
    match s.pending, s.channel with
    | [], [] => none
    | [], event :: channel =>
      let pending := takeIn shipping [] event
      some { s with pending, channel, phase := if pending.isEmpty then .waiting else .filling }
    | _ :: _, _ => some { s with phase := .filling }
  | .filling =>
    if s.pending.length < batchMax then
      match s.channel with
      | [] => some (s.post runtime shipping)
      | event :: channel => some { s with pending := takeIn shipping s.pending event, channel }
    else some (s.post runtime shipping)
  | .sleeping => some { s with phase := .refilling }
  | .refilling =>
    if s.pending.length < maxPending then
      match s.channel with
      | [] => some s.trim
      | event :: channel => some { s with pending := takeIn shipping s.pending event, channel }
    else some s.trim
  | .starting | .posting | .asking => none

def stop : State T := { s with phase := .starting, pending := [], channel := [], unseen := 0 }

end State

def step (s : State T) : Event → Option (State T)
  | .record event => some (s.record event)
  | .resume fetched => if s.phase = .starting then some (s.rebase (s.resumeFrom fetched)) else none
  | .turn => s.turn runtime shipping
  | .lostRequest error => if s.phase = .posting then some (s.failed error) else none
  | .lostResponse error =>
    if s.phase = .posting then
      match s.control.accept runtime shipping.toWire (s.batch runtime shipping).1 with
      | none => some (s.failed error)
      | some control =>
        some { s.failed error with control, accepted := s.accepted ++ s.taken, unseen := s.taken.length }
    else none
  | .answered body =>
    if s.phase = .posting then
      match s.control.accept runtime shipping.toWire (s.batch runtime shipping).1 with
      | none => some (s.failed (shipping.what ++ " failed: 409 Conflict " ++ Text.trim body))
      | some control => some (s.shipped runtime shipping control)
    else none
  | .head fetched =>
    if s.phase = .asking then
      if fetched then some (s.rebase s.control.head) else some { s with phase := .sleeping }
    else none
  | .restart => some s.stop

end

/-! ## What the control plane takes -/

section
variable {runtime : Runtime} {T : Type} {wire : Wire T}

/-- Links that go on from the head are followed to their tail. -/
theorem foldlM_follow {items : List ChainedAuditEvent} {texts : List String} {head : AuditHead}
    (linked : items.map (·.link) = HashChain.links (linkHash runtime) (head.seq + 1) head.hash texts) :
    items.foldlM (AuditHead.follow runtime) head =
      some ⟨head.seq + texts.length, HashChain.tail (linkHash runtime) (head.seq + 1) head.hash texts⟩ := by
  induction texts generalizing items head with
  | nil =>
    rw [HashChain.links, List.map_eq_nil_iff] at linked
    rw [linked]
    rfl
  | cons text rest ih =>
    rw [HashChain.links] at linked
    obtain ⟨item, items, rfl, first, later⟩ := List.map_eq_cons_iff.mp linked
    obtain ⟨number, prev, body⟩ : item.seq = head.seq + 1 ∧ item.prevHash = head.hash ∧ item.eventJson = text := by
      simpa [ChainedAuditEvent.link] using first
    have followed : head.follow runtime item = some ⟨head.seq + 1, linkHash runtime ⟨head.seq + 1, head.hash, text⟩⟩ := by
      rw [AuditHead.follow, if_pos ⟨number, prev⟩, number, prev, body]
      rfl
    rw [List.foldlM_cons, followed]
    refine (ih later).trans ?_
    rw [List.length_cons, HashChain.tail, Nat.add_assoc, Nat.add_comm 1]

theorem foldlM_follow_none {item : ChainedAuditEvent} {items : List ChainedAuditEvent} {head : AuditHead}
    (apart : ¬ (item.seq = head.seq + 1 ∧ item.prevHash = head.hash)) :
    (item :: items).foldlM (AuditHead.follow runtime) head = none := by
  rw [List.foldlM_cons, AuditHead.follow, if_neg apart]
  rfl

/-- A chained batch is taken exactly if it was chained from the head. -/
theorem accept_chainWith (control : ControlPlane T) {seq : Nat} {prevHash : String} {events : List AuditEvent}
    (some : (chainWith runtime wire.make seq prevHash events).1 ≠ []) :
    control.accept runtime wire (chainWith runtime wire.make seq prevHash events).1 =
      if seq = control.head.seq + 1 ∧ prevHash = control.head.hash then
        .some ⟨⟨control.head.seq + (chainWith runtime wire.make seq prevHash events).1.length,
          (chainWith runtime wire.make seq prevHash events).2⟩,
          control.stored ++ (chainWith runtime wire.make seq prevHash events).1⟩
      else none := by
  have chained := chainWith_eq wire runtime events seq prevHash
  have lengths := length_chainWith wire runtime events seq prevHash
  unfold ControlPlane.accept
  split
  · rename_i matching
    obtain ⟨rfl, rfl⟩ := matching
    rw [foldlM_follow (by rw [List.map_map]; exact chained.1), ← chained.2, lengths]
    rfl
  · rename_i apart
    obtain ⟨item, items, batch⟩ := List.exists_cons_of_ne_nil some
    -- The first item has the number and the hash that the batch was chained from.
    have first : (wire.view item).seq = seq ∧ (wire.view item).prevHash = prevHash := by
      have links := chained.1
      rw [batch, List.map_cons] at links
      cases texts : wire.texts runtime events with
      | nil =>
        rw [texts] at links
        cases links
      | cons text rest =>
        rw [texts, HashChain.links] at links
        have head := (List.cons.inj links).1
        simp only [ChainedAuditEvent.link, HashChain.Link.mk.injEq] at head
        exact ⟨head.1, head.2.1⟩
    rw [batch, List.map_cons, foldlM_follow_none (by rwa [first.1, first.2])]
    rfl

end

/-! ## One step -/

section
variable {T : Type} {runtime : Runtime} {shipping : Shipping T} {s s' : State T} {event : Event}

/-- What holds of the shipper's own state wherever it is. -/
structure Ready (shipping : Shipping T) (s : State T) : Prop where
  admitted : ∀ event ∈ s.pending, shipping.admits event = true
  backlog : s.pending.length ≤ maxPending
  buffered : s.channel.length ≤ auditBuffer
  working : s.phase = .filling ∨ s.phase = .posting → s.pending ≠ []
  fresh : s.phase = .starting → s.unseen = 0

theorem taken_ne_nil (some : s.pending ≠ []) : s.taken ≠ [] := by
  unfold State.taken
  rw [List.ne_nil_iff_length_pos, List.length_take]
  have := List.length_pos_of_ne_nil some
  unfold batchMax
  omega

/-- Everything that was taken is in the batch. -/
theorem Ready.length_batch (ready : Ready shipping s) (runtime : Runtime) :
    (s.batch runtime shipping).1.length = s.taken.length := by
  unfold State.batch
  rw [length_chainWith shipping.toWire, Wire.texts, List.length_map, List.filter_eq_self.mpr]
  intro event member
  exact ready.admitted event (List.mem_of_mem_take member)

theorem Ready.batch_ne_nil (ready : Ready shipping s) (some : s.pending ≠ []) :
    (s.batch runtime shipping).1 ≠ [] := by
  rw [List.ne_nil_iff_length_pos, ready.length_batch runtime]
  exact List.length_pos_of_ne_nil (taken_ne_nil some)

/-- There is no empty batch. -/
theorem Ready.post_eq (ready : Ready shipping s) (some : s.pending ≠ []) :
    s.post runtime shipping = { s with phase := .posting } := by
  have batch : (s.batch runtime shipping).1 ≠ [] := ready.batch_ne_nil some
  unfold State.post
  rw [if_neg]
  simp [batch]

/-- The backlog never gets long enough to be trimmed. -/
theorem Ready.trim_eq (ready : Ready shipping s) : s.trim = { s with phase := .waiting } := by
  unfold State.trim
  rw [if_neg (Nat.not_lt.mpr ready.backlog)]

/-- A phase in which there is something to post has something. -/
def Works (phase : Phase) (pending : List AuditEvent) : Prop :=
  phase ≠ .starting ∧ (phase = .filling ∨ phase = .posting → pending ≠ [])

/-- In its loops, between the requests and the sleeps. -/
def Phase.isLooping : Phase → Bool
  | .waiting | .filling | .refilling => true
  | _ => false

/-- Where a turn takes the shipper: round its loops, to a post, or out of its sleep. -/
def Phase.turnsTo : Phase → Phase → Bool
  | .filling, .posting => true
  | .sleeping, .refilling => true
  | before, after => before.isLooping && after.isLooping

/-- By itself the shipper goes to another phase, or takes one event out of the channel. -/
theorem Ready.turn_cases (ready : Ready shipping s) (turned : s.turn runtime shipping = some s') :
    (∃ phase, s' = { s with phase } ∧ Works phase s.pending ∧ s.phase.turnsTo phase = true) ∨
    (∃ event channel phase, s.channel = event :: channel ∧ s.pending.length < maxPending ∧
      s' = { s with pending := State.takeIn shipping s.pending event, channel, phase } ∧
      Works phase (State.takeIn shipping s.pending event) ∧ s.phase.turnsTo phase = true) := by
  have more (event : AuditEvent) (some : s.pending ≠ []) : State.takeIn shipping s.pending event ≠ [] := by
    unfold State.takeIn
    split
    · simp
    · exact some
  unfold State.turn at turned
  split at turned
  · -- At the top of the loop.
    rename_i top
    split at turned
    · cases turned
    · rename_i event channel empty waiting
      cases turned
      refine .inr ⟨event, channel, _, waiting, ?_, by rw [empty], ⟨?_, ?_⟩, ?_⟩
      · rw [empty]
        decide
      · split <;> simp
      · rw [empty]
        split
        · simp
        · rename_i some
          exact fun _ => by simpa using some
      · rw [top]
        split <;> rfl
    · rename_i first rest some
      cases turned
      exact .inl ⟨_, rfl, ⟨by simp, fun _ => by rw [some]; simp⟩, by rw [top]; rfl⟩
  · -- Filling a batch.
    rename_i filling
    have some := ready.working (.inl filling)
    have posted : s.post runtime shipping = { s with phase := .posting } := ready.post_eq some
    have turns : s.phase.turnsTo .posting = true := by rw [filling]; rfl
    split at turned
    · rename_i room
      split at turned
      · cases turned
        exact .inl ⟨.posting, posted, ⟨by simp, fun _ => some⟩, turns⟩
      · rename_i event channel waiting
        cases turned
        refine .inr ⟨event, channel, s.phase, waiting, Nat.lt_trans room (by decide), rfl, ⟨?_, fun _ => more event some⟩, ?_⟩
        · rw [filling]
          simp
        · rw [filling]
          rfl
    · cases turned
      exact .inl ⟨.posting, posted, ⟨by simp, fun _ => some⟩, turns⟩
  · rename_i sleeping
    cases turned
    exact .inl ⟨.refilling, rfl, ⟨by simp, by simp⟩, by rw [sleeping]; rfl⟩
  · -- Filling the backlog.
    rename_i refilling
    have turns : s.phase.turnsTo .waiting = true := by rw [refilling]; rfl
    split at turned
    · rename_i room
      split at turned
      · cases turned
        exact .inl ⟨.waiting, ready.trim_eq, ⟨by simp, by simp⟩, turns⟩
      · rename_i event channel waiting
        cases turned
        refine .inr ⟨event, channel, s.phase, waiting, room, rfl, ⟨?_, ?_⟩, ?_⟩
        · rw [refilling]
          simp
        · rw [refilling]
          simp
        · rw [refilling]
          rfl
    · cases turned
      exact .inl ⟨.waiting, ready.trim_eq, ⟨by simp, by simp⟩, turns⟩
  · cases turned
  · cases turned
  · cases turned

/-- The control plane has taken the batch that is posted. -/
structure Taken (runtime : Runtime) (shipping : Shipping T) (s : State T) (control : ControlPlane T) : Prop where
  seq : s.nextSeq = s.control.head.seq + 1
  hash : s.prevHash = s.control.head.hash
  head : control.head = ⟨s.control.head.seq + s.taken.length, (s.batch runtime shipping).2⟩
  stored : control.stored = s.control.stored ++ (s.batch runtime shipping).1

theorem Ready.accept_cases (ready : Ready shipping s) (posting : s.phase = .posting) :
    (∃ control, s.control.accept runtime shipping.toWire (s.batch runtime shipping).1 = some control ∧
      Taken runtime shipping s control) ∨
    (s.control.accept runtime shipping.toWire (s.batch runtime shipping).1 = none ∧
      ¬ (s.nextSeq = s.control.head.seq + 1 ∧ s.prevHash = s.control.head.hash)) := by
  have some : (s.batch runtime shipping).1 ≠ [] := ready.batch_ne_nil (ready.working (.inr posting))
  have accepted := accept_chainWith s.control some
  by_cases matching : s.nextSeq = s.control.head.seq + 1 ∧ s.prevHash = s.control.head.hash
  · rw [if_pos matching] at accepted
    refine .inl ⟨_, accepted, matching.1, matching.2, ?_, rfl⟩
    rw [← ready.length_batch runtime]
    rfl
  · rw [if_neg matching] at accepted
    exact .inr ⟨accepted, matching⟩

/-- What the events can do to a shipper that is ready. -/
inductive Effect (runtime : Runtime) (shipping : Shipping T) (s : State T) : Event → State T → Prop where
  | record (event : AuditEvent) : Effect runtime shipping s (.record event) (s.record event)
  | resume (fetched : Bool) (starting : s.phase = .starting) :
      Effect runtime shipping s (.resume fetched) (s.rebase (s.resumeFrom fetched))
  | rebase (asking : s.phase = .asking) : Effect runtime shipping s (.head true) (s.rebase s.control.head)
  | turn {event : Event} (phase : Phase) (works : Works phase s.pending) :
      Effect runtime shipping s event { s with phase }
  | take (event : AuditEvent) (channel : List AuditEvent) (phase : Phase) (waiting : s.channel = event :: channel)
      (room : s.pending.length < maxPending) (works : Works phase (State.takeIn shipping s.pending event)) :
      Effect runtime shipping s .turn { s with pending := State.takeIn shipping s.pending event, channel, phase }
  | lost (error : String) (control : ControlPlane T) (posting : s.phase = .posting)
      (taken : Taken runtime shipping s control) :
      Effect runtime shipping s (.lostResponse error)
        { s.failed error with control, accepted := s.accepted ++ s.taken, unseen := s.taken.length }
  | shipped (body : String) (control : ControlPlane T) (posting : s.phase = .posting)
      (taken : Taken runtime shipping s control) :
      Effect runtime shipping s (.answered body) (s.shipped runtime shipping control)
  | stop : Effect runtime shipping s .restart s.stop

theorem failed_phase (s : State T) (error : String) :
    (s.failed error).phase ≠ .starting ∧ (s.failed error).phase ≠ .filling ∧ (s.failed error).phase ≠ .posting := by
  unfold State.failed
  dsimp only
  split
  · decide
  · decide

theorem works_failed (s : State T) (error : String) (pending : List AuditEvent) :
    Works (s.failed error).phase pending := by
  obtain ⟨notStarting, notFilling, notPosting⟩ := failed_phase s error
  exact ⟨notStarting, fun working => absurd working (by simp [notFilling, notPosting])⟩

theorem step_effect (ready : Ready shipping s) (stepped : step runtime shipping s event = some s') :
    Effect runtime shipping s event s' := by
  have failing {event : Event} (error : String) : Effect runtime shipping s event (s.failed error) :=
    .turn _ (works_failed s error s.pending)
  cases event with
  | record event =>
    cases stepped
    exact .record event
  | resume fetched =>
    simp only [step, Option.ite_none_right_eq_some] at stepped
    obtain ⟨starting, stepped⟩ := stepped
    cases stepped
    exact .resume fetched starting
  | turn =>
    obtain ⟨phase, rfl, works, -⟩ | ⟨event, channel, phase, waiting, room, rfl, works, -⟩ := ready.turn_cases stepped
    · exact .turn phase works
    · exact .take event channel phase waiting room works
  | lostRequest error =>
    simp only [step, Option.ite_none_right_eq_some] at stepped
    obtain ⟨-, stepped⟩ := stepped
    cases stepped
    exact failing error
  | lostResponse error =>
    simp only [step, Option.ite_none_right_eq_some] at stepped
    obtain ⟨posting, stepped⟩ := stepped
    obtain ⟨control, accepted, taken⟩ | ⟨refused, -⟩ := ready.accept_cases posting
    · rw [accepted] at stepped
      cases stepped
      exact .lost error control posting taken
    · rw [refused] at stepped
      cases stepped
      exact failing error
  | answered body =>
    simp only [step, Option.ite_none_right_eq_some] at stepped
    obtain ⟨posting, stepped⟩ := stepped
    obtain ⟨control, accepted, taken⟩ | ⟨refused, -⟩ := ready.accept_cases posting
    · rw [accepted] at stepped
      cases stepped
      exact .shipped body control posting taken
    · rw [refused] at stepped
      cases stepped
      exact failing _
  | head fetched =>
    simp only [step, Option.ite_none_right_eq_some] at stepped
    obtain ⟨asking, stepped⟩ := stepped
    cases fetched with
    | true =>
      cases stepped
      exact .rebase asking
    | false =>
      cases stepped
      exact .turn .sleeping ⟨by simp, by simp⟩
  | restart =>
    cases stepped
    exact .stop

theorem Ready.step (ready : Ready shipping s) (effect : Effect runtime shipping s event s') : Ready shipping s' := by
  cases effect with
  | record event =>
    refine ⟨ready.admitted, ready.backlog, ?_, ready.working, ready.fresh⟩
    dsimp only [State.record, Queue.trySend]
    split
    · rename_i room
      rw [Option.getD_some, List.length_append]
      exact room
    · exact ready.buffered
  | resume fetched starting => exact ⟨ready.admitted, ready.backlog, ready.buffered, by simp [State.rebase], fun _ => rfl⟩
  | rebase asking => exact ⟨ready.admitted, ready.backlog, ready.buffered, by simp [State.rebase], fun _ => rfl⟩
  | turn phase works =>
    exact ⟨ready.admitted, ready.backlog, ready.buffered, works.2, fun starting => absurd starting works.1⟩
  | take event channel phase waiting room works =>
    have buffered := ready.buffered
    rw [waiting, List.length_cons] at buffered
    refine ⟨?_, ?_, Nat.le_of_succ_le buffered, works.2, fun starting => absurd starting works.1⟩
    · dsimp only [State.takeIn]
      split
      · rename_i admitted
        intro other member
        cases List.mem_append.mp member with
        | inl old => exact ready.admitted other old
        | inr new => exact List.mem_singleton.mp new ▸ admitted
      · exact ready.admitted
    · dsimp only [State.takeIn]
      split
      · rw [List.length_append]
        exact room
      · exact ready.backlog
  | lost error control posting taken =>
    obtain ⟨notStarting, notFilling, notPosting⟩ := failed_phase s error
    exact ⟨ready.admitted, ready.backlog, ready.buffered,
      fun working => absurd working (by simp [notFilling, notPosting]), fun starting => absurd starting notStarting⟩
  | shipped body control posting taken =>
    refine ⟨fun event member => ready.admitted event (List.mem_of_mem_drop member), ?_, ready.buffered,
      by simp [State.shipped], fun _ => rfl⟩
    dsimp only [State.shipped]
    rw [List.length_drop]
    exact Nat.le_trans (Nat.sub_le ..) ready.backlog
  | stop =>
    exact ⟨fun _ member => absurd member List.not_mem_nil, Nat.zero_le _, Nat.zero_le _, by simp [State.stop], fun _ => rfl⟩

theorem ready_initial (control : ControlPlane T) (persisted : Option AuditHead) :
    Ready shipping (initial control persisted) :=
  ⟨fun _ member => absurd member List.not_mem_nil, Nat.zero_le _, Nat.zero_le _, by simp [initial], fun _ => rfl⟩

/-- An invariant of ready shippers that every effect keeps holds in every state of a run. -/
theorem run_invariant_of_effect {condition : State T → Event → Prop} (invariant : State T → Prop)
    (keeps : ∀ s event s', Ready shipping s → invariant s → condition s event →
      Effect runtime shipping s event s' → invariant s')
    {control : ControlPlane T} {persisted : Option AuditHead} {events : List Event}
    (holds : invariant (initial control persisted))
    (meets : Transition.Along (step runtime shipping) condition (initial control persisted) events)
    (ran : Transition.run (step runtime shipping) (initial control persisted) events = some s) :
    Ready shipping s ∧ invariant s := by
  refine Transition.run_invariant_along (fun s => Ready shipping s ∧ invariant s) ?_
    ⟨ready_initial control persisted, holds⟩ meets ran
  intro s event s' ⟨ready, holds⟩ allowed stepped
  have effect := step_effect ready stepped
  exact ⟨ready.step effect, keeps s event s' ready holds allowed effect⟩

end

end Skimasque.Audit
