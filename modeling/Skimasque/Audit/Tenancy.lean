import Skimasque.Audit.Backlog

/-! The platform's shipper and a control plane whose tenants go away.

A batch that names an organisation which is not a tenant is refused whole, with some status other than
409. What happens to the events behind it, and how soon a batch is posted again, is the subject here.
-/

set_option autoImplicit false

namespace Skimasque.Audit.Tenancy
open Library Library.Transition Gateway

structure Post where
  batch : List PlatformAuditEvent
  /-- Whether the shipper slept after the post before. -/
  delayed : Bool
  deriving DecidableEq, Repr

structure World where
  shipper : State PlatformAuditEvent
  tenants : List String
  -- History: every post, and whether the shipper has slept since the last one.
  posts : List Post := []
  slept : Bool := false

inductive Event where
  | shipper (event : Audit.Event)
  /-- The answer to a batch that names an organisation which is not a tenant. -/
  | refused (status : Nat) (reason body : String)
  | removed (org : String)

/-- Every organisation the batch names is a tenant. -/
def named (tenants : List String) (batch : List PlatformAuditEvent) : Bool :=
  batch.all fun item => tenants.contains item.orgId

/-- What `error_for_status` makes of a refusal. -/
def refusal (status : Nat) (reason body : String) : String :=
  platformAuditShipping.what ++ " failed: " ++ toString status ++ " " ++ reason ++ " " ++ Text.trim body

def begin (control : ControlPlane PlatformAuditEvent) (persisted : Option AuditHead) (tenants : List String) : World :=
  { shipper := initial control persisted, tenants }

section
variable (runtime : Runtime)

def World.batch (world : World) : List PlatformAuditEvent := (world.shipper.batch runtime platformAuditShipping).1

/-- The shipper goes on; a post and a sleep are noted. -/
def World.note (world : World) (shipper : State PlatformAuditEvent) : World :=
  if world.shipper.phase ≠ .posting ∧ shipper.phase = .posting then
    { world with
      shipper, slept := false
      posts := world.posts ++ [⟨(shipper.batch runtime platformAuditShipping).1, world.slept⟩] }
  else { world with shipper, slept := world.slept || (world.shipper.phase = .sleeping && shipper.phase ≠ .sleeping) }

def step (world : World) : Event → Option World
  -- One run of the shipper, from its start on.
  | .shipper .restart => none
  | .shipper (.answered body) =>
    if named world.tenants (world.batch runtime) then
      (Audit.step runtime platformAuditShipping world.shipper (.answered body)).map (world.note runtime)
    else none
  | .shipper (.lostResponse error) =>
    let lost := if named world.tenants (world.batch runtime) then .lostResponse error else .lostRequest error
    (Audit.step runtime platformAuditShipping world.shipper lost).map (world.note runtime)
  | .shipper event => (Audit.step runtime platformAuditShipping world.shipper event).map (world.note runtime)
  | .refused status reason body =>
    if world.shipper.phase = .posting ∧ named world.tenants (world.batch runtime) = false ∧ status ≠ 409 then
      some (world.note runtime (world.shipper.failed (refusal status reason body)))
    else none
  | .removed org => some { world with tenants := world.tenants.filter (· ≠ org) }

end

/-! ## One step -/

/-- Its organisation is a tenant. -/
def Tenant (tenants : List String) (event : AuditEvent) : Prop := ∀ org, event.orgId = some org → org ∈ tenants

section
variable {runtime : Runtime} {world after : World} {event : Event}

@[simp] theorem note_shipper (world : World) (shipper : State PlatformAuditEvent) :
    (world.note runtime shipper).shipper = shipper := by
  unfold World.note
  split <;> rfl

@[simp] theorem note_tenants (world : World) (shipper : State PlatformAuditEvent) :
    (world.note runtime shipper).tenants = world.tenants := by
  unfold World.note
  split <;> rfl

theorem orgIds_chainWith (events : List AuditEvent) (seq : Nat) (prevHash : String) :
    (chainWith runtime makePlatform seq prevHash events).1.map PlatformAuditEvent.orgId =
      events.filterMap AuditEvent.orgId := by
  induction events generalizing seq prevHash with
  | nil => rfl
  | cons event rest ih =>
    cases org : event.orgId with
    | none =>
      have skipped : makePlatform event seq prevHash (runtime.eventJson event) = none := by simp [makePlatform, org]
      rw [chainWith_cons_of_none skipped, ih, List.filterMap_cons_none org]
    | some org' =>
      have made : makePlatform event seq prevHash (runtime.eventJson event) =
          some ⟨org', seq, prevHash, runtime.eventJson event⟩ := by simp [makePlatform, org]
      rw [chainWith_cons_of_some made, List.map_cons, ih, List.filterMap_cons_some org]

theorem named_batch_iff : named world.tenants (world.batch runtime) = true ↔
    ∀ event ∈ world.shipper.taken, Tenant world.tenants event := by
  have orgs : (world.batch runtime).map PlatformAuditEvent.orgId = world.shipper.taken.filterMap AuditEvent.orgId :=
    orgIds_chainWith ..
  have all : named world.tenants (world.batch runtime) =
      ((world.batch runtime).map PlatformAuditEvent.orgId).all (world.tenants.contains ·) := by
    unfold named
    rw [List.all_map]
    rfl
  rw [all, orgs, List.all_eq_true]
  simp only [List.mem_filterMap, List.contains_iff_mem, Tenant]
  constructor
  · intro tenants event member org named
    exact tenants org ⟨event, member, named⟩
  · intro tenants org ⟨event, member, named⟩
    exact tenants event member org named

/-- Only these events bring a batch to the control plane. -/
def brings : Audit.Event → Bool
  | .answered _ | .lostResponse _ => true
  | _ => false

/-- What the events can do: a tenant goes, or the shipper moves, and a batch is taken only if it names tenants. -/
theorem step_cases (ready : Ready platformAuditShipping world.shipper) (stepped : step runtime world event = some after) :
    (∃ org, event = .removed org ∧ after = { world with tenants := world.tenants.filter (· ≠ org) }) ∨
    (∃ moved shipper, Effect runtime platformAuditShipping world.shipper moved shipper ∧ moved ≠ .restart ∧
      after = world.note runtime shipper ∧
      (brings moved = true → ∀ event ∈ world.shipper.taken, Tenant world.tenants event)) := by
  have moves (moved : Audit.Event)
      (stepped : (Audit.step runtime platformAuditShipping world.shipper moved).map (world.note runtime) = some after)
      (running : moved ≠ .restart)
      (brought : brings moved = true → ∀ event ∈ world.shipper.taken, Tenant world.tenants event) :
      ∃ moved shipper, Effect runtime platformAuditShipping world.shipper moved shipper ∧ moved ≠ .restart ∧
        after = world.note runtime shipper ∧
        (brings moved = true → ∀ event ∈ world.shipper.taken, Tenant world.tenants event) := by
    obtain ⟨shipper, took, rfl⟩ := Option.map_eq_some_iff.mp stepped
    exact ⟨moved, shipper, step_effect ready took, running, rfl, brought⟩
  have failing (error : String) :
      Effect runtime platformAuditShipping world.shipper .turn (world.shipper.failed error) :=
    .turn _ (works_failed world.shipper error world.shipper.pending)
  cases event with
  | removed org =>
    cases stepped
    exact .inl ⟨org, rfl, rfl⟩
  | refused status reason body =>
    simp only [step, Option.ite_none_right_eq_some] at stepped
    obtain ⟨_, stepped⟩ := stepped
    exact .inr ⟨.turn, _, failing (refusal status reason body), nofun, (Option.some.inj stepped).symm, nofun⟩
  | shipper moved =>
    cases moved with
    | restart => cases stepped
    | answered body =>
      simp only [step, Option.ite_none_right_eq_some] at stepped
      exact .inr (moves _ stepped.2 nofun fun _ => named_batch_iff.mp stepped.1)
    | lostResponse error =>
      simp only [step] at stepped
      by_cases tenants : named world.tenants (world.batch runtime) = true
      · rw [if_pos tenants] at stepped
        exact .inr (moves _ stepped nofun fun _ => named_batch_iff.mp tenants)
      · rw [if_neg tenants] at stepped
        exact .inr (moves _ stepped nofun nofun)
    | record event => exact .inr (moves (.record event) stepped nofun nofun)
    | resume fetched => exact .inr (moves (.resume fetched) stepped nofun nofun)
    | turn => exact .inr (moves .turn stepped nofun nofun)
    | lostRequest error => exact .inr (moves (.lostRequest error) stepped nofun nofun)
    | head fetched => exact .inr (moves (.head fetched) stepped nofun nofun)

theorem ready_step (ready : Ready platformAuditShipping world.shipper) (stepped : step runtime world event = some after) :
    Ready platformAuditShipping after.shipper := by
  obtain ⟨org, rfl, rfl⟩ | ⟨moved, shipper, effect, _, rfl, _⟩ := step_cases ready stepped
  · exact ready
  · rw [note_shipper]
    exact ready.step effect

theorem ready_run {control : ControlPlane PlatformAuditEvent} {persisted : Option AuditHead} {tenants : List String}
    {events : List Event} (ran : run (step runtime) (begin control persisted tenants) events = some world) :
    Ready platformAuditShipping world.shipper :=
  run_invariant (fun world : World => Ready platformAuditShipping world.shipper)
    (fun _ _ _ ready stepped => ready_step ready stepped) (ready_initial control persisted) ran

/-! ## Behind an event of an organisation that is gone -/

/-- The event at `index` of the backlog is still pending, with all that was behind it; what has been accepted
since was ahead of it. -/
structure Blocked (backlog : List AuditEvent) (index : Nat) (accepted : List AuditEvent)
    (shipper : State PlatformAuditEvent) : Prop where
  waiting : ∃ gone more, gone ≤ index ∧ shipper.pending = backlog.drop gone ++ more
  ahead : ∃ new, shipper.accepted = accepted ++ new ∧ ∀ event ∈ new, event ∈ backlog.take index

theorem blocked_now (world : World) (index : Nat) :
    Blocked world.shipper.pending index world.shipper.accepted world.shipper :=
  ⟨⟨0, [], Nat.zero_le _, by simp⟩, ⟨[], by simp, by simp⟩⟩

variable {backlog accepted : List AuditEvent} {index : Nat} {culprit : AuditEvent}

/-- A batch of tenants ends before the culprit. -/
theorem short_of_culprit {gone : Nat} {more : List AuditEvent} (found : backlog[index]? = some culprit)
    (removed : ¬ Tenant world.tenants culprit) (early : gone ≤ index)
    (pending : world.shipper.pending = backlog.drop gone ++ more)
    (tenants : ∀ event ∈ world.shipper.taken, Tenant world.tenants event) : gone + batchMax ≤ index := by
  by_contra late
  apply removed
  apply tenants
  have bound := (List.getElem?_eq_some_iff.mp found).1
  rw [State.taken, pending, List.mem_iff_getElem?]
  refine ⟨index - gone, ?_⟩
  rw [List.getElem?_take_of_lt (by omega), List.getElem?_append_left (by rw [List.length_drop]; omega),
    List.getElem?_drop, Nat.add_sub_cancel' early, found]

/-- What is taken then was ahead of the culprit. -/
theorem taken_ahead {gone : Nat} {more : List AuditEvent} (bound : index < backlog.length)
    (short : gone + batchMax ≤ index) (pending : world.shipper.pending = backlog.drop gone ++ more) :
    ∀ event ∈ world.shipper.taken, event ∈ backlog.take index := by
  intro event member
  rw [State.taken, pending, List.take_append_of_le_length (by rw [List.length_drop]; omega), List.take_drop] at member
  exact (List.take_sublist_take_left short).subset (List.mem_of_mem_drop member)

theorem Blocked.step (found : backlog[index]? = some culprit) (removed : ¬ Tenant world.tenants culprit)
    (ready : Ready platformAuditShipping world.shipper) (blocked : Blocked backlog index accepted world.shipper)
    (stepped : step runtime world event = some after) :
    Blocked backlog index accepted after.shipper ∧ ¬ Tenant after.tenants culprit := by
  have bound := (List.getElem?_eq_some_iff.mp found).1
  obtain ⟨org, rfl, rfl⟩ | ⟨moved, shipper, effect, running, rfl, brought⟩ := step_cases ready stepped
  · refine ⟨blocked, fun tenant => removed fun org named => ?_⟩
    exact List.mem_of_mem_filter (tenant org named)
  · rw [note_shipper, note_tenants]
    refine ⟨?_, removed⟩
    obtain ⟨⟨gone, more, early, pending⟩, new, taken, ahead⟩ := blocked
    cases effect with
    | record event | resume fetched starting | rebase asking | turn phase works =>
      exact ⟨⟨gone, more, early, pending⟩, new, taken, ahead⟩
    | take event channel phase waiting room works =>
      refine ⟨?_, new, taken, ahead⟩
      dsimp only [State.takeIn]
      split
      · exact ⟨gone, more ++ [event], early, by rw [pending, List.append_assoc]⟩
      · exact ⟨gone, more, early, pending⟩
    | lost error control posting stored =>
      have short := short_of_culprit found removed early pending (brought rfl)
      refine ⟨⟨gone, more, early, pending⟩, new ++ world.shipper.taken, ?_, ?_⟩
      · simp only [taken, List.append_assoc]
      · intro event member
        cases List.mem_append.mp member with
        | inl old => exact ahead event old
        | inr last => exact taken_ahead bound short pending event last
    | shipped body control posting stored =>
      have short := short_of_culprit found removed early pending (brought rfl)
      refine ⟨⟨gone + batchMax, more, short, ?_⟩, new ++ world.shipper.taken, ?_, ?_⟩
      · simp only [State.shipped, pending]
        rw [List.drop_append_of_le_length (by rw [List.length_drop]; omega), List.drop_drop]
      · simp only [State.shipped, taken, List.append_assoc]
      · intro event member
        cases List.mem_append.mp member with
        | inl old => exact ahead event old
        | inr last => exact taken_ahead bound short pending event last
    | stop => exact absurd rfl running

/-- Nothing that stands behind the culprit is ever accepted, whatever comes. -/
theorem blocked_for_good (found : world.shipper.pending[index]? = some culprit)
    (removed : ¬ Tenant world.tenants culprit) (ready : Ready platformAuditShipping world.shipper)
    {later : List Event} (ran : run (Tenancy.step runtime) world later = some after) :
    Blocked world.shipper.pending index world.shipper.accepted after.shipper := by
  have kept := run_invariant
    (fun now : World => Ready platformAuditShipping now.shipper ∧ ¬ Tenant now.tenants culprit ∧
      Blocked world.shipper.pending index world.shipper.accepted now.shipper)
    (fun now event next ⟨ready, removed, blocked⟩ stepped =>
      have ⟨blocked, removed⟩ := blocked.step found removed ready stepped
      ⟨ready_step ready stepped, removed, blocked⟩)
    ⟨ready, removed, blocked_now world index⟩ ran
  exact kept.2.2

end

/-! ## While every event in hand is a tenant's -/

/-- The shipper stands where the control plane does. -/
def AtHead (s : State PlatformAuditEvent) : Prop :=
  s.nextSeq = s.control.head.seq + 1 ∧ s.prevHash = s.control.head.hash

instance (s : State PlatformAuditEvent) : Decidable (AtHead s) := inferInstanceAs (Decidable (_ ∧ _))

/-- How far the shipper is from a post that is accepted, apart from what waits in the channel. -/
def distance (s : State PlatformAuditEvent) : Nat :=
  match s.phase with
  | .posting => if AtHead s then 0 else 4
  | .filling => if AtHead s then 1 else 5
  | .waiting => if AtHead s then 2 else 6
  | .asking => 3
  | .starting => 7
  | .refilling => 7
  | .sleeping => 8

/-- The shipper has gone on without a post: it has the same events or fewer in hand, the pending ones in front. -/
structure Onward (s s' : State PlatformAuditEvent) : Prop where
  ready : Ready platformAuditShipping s'
  accepted : s'.accepted = s.accepted
  pending : s.pending <+: s'.pending
  held : s'.held.Sublist s.held

section
variable {runtime : Runtime} {world : World} {s s' : State PlatformAuditEvent}

theorem Onward.refl (ready : Ready platformAuditShipping s) : Onward s s :=
  ⟨ready, rfl, List.prefix_rfl, .refl _⟩

theorem Onward.trans {s'' : State PlatformAuditEvent} (first : Onward s s') (second : Onward s' s'') : Onward s s'' :=
  ⟨second.ready, second.accepted.trans first.accepted, first.pending.trans second.pending,
    second.held.trans first.held⟩

/-- An effect that keeps what is in hand. -/
theorem onward_of_effect {event : Audit.Event} (ready : Ready platformAuditShipping s)
    (effect : Effect runtime platformAuditShipping s event s') (accepted : s'.accepted = s.accepted)
    (pending : s'.pending = s.pending) (channel : s'.channel = s.channel) : Onward s s' :=
  ⟨ready.step effect, accepted, pending ▸ List.prefix_rfl, by rw [State.held, pending, channel]; exact .refl _⟩

theorem onward_take {event : AuditEvent} {channel : List AuditEvent} (ready : Ready platformAuditShipping s)
    (waiting : s.channel = event :: channel)
    (effect : Effect runtime platformAuditShipping s .turn
      { s with pending := State.takeIn platformAuditShipping s.pending event, channel }) :
    Onward s { s with pending := State.takeIn platformAuditShipping s.pending event, channel } := by
  refine ⟨ready.step effect, rfl, ?_, ?_⟩
  · dsimp only [State.takeIn]
    split
    · exact List.prefix_append ..
    · exact List.prefix_rfl
  · simp only [State.held, waiting, State.takeIn]
    split
    · simp
    · exact List.Sublist.append_left (List.sublist_cons_self ..) _

theorem turn_effect (ready : Ready platformAuditShipping s)
    (turned : s.turn runtime platformAuditShipping = some s') : Effect runtime platformAuditShipping s .turn s' :=
  step_effect ready turned

/-- A step that takes the shipper nearer to a post that is accepted. -/
def Nearer (runtime : Runtime) (s s' : State PlatformAuditEvent) : Prop :=
  ∃ event, Audit.step runtime platformAuditShipping s event = some s' ∧ event ≠ .restart ∧ Onward s s' ∧
    s'.channel.length + distance s' < s.channel.length + distance s

theorem nearer_phase (phase : Phase) (ready : Ready platformAuditShipping s)
    (turned : s.turn runtime platformAuditShipping = some { s with phase })
    (shorter : distance { s with phase } < distance s) : Nearer runtime s { s with phase } := by
  have effect := turn_effect ready turned
  exact ⟨.turn, turned, nofun, onward_of_effect ready effect rfl rfl rfl, Nat.add_lt_add_left shorter _⟩

theorem nearer_take {event : AuditEvent} {channel : List AuditEvent} (ready : Ready platformAuditShipping s)
    (waiting : s.channel = event :: channel)
    (turned : s.turn runtime platformAuditShipping =
      some { s with pending := State.takeIn platformAuditShipping s.pending event, channel }) :
    ∃ s', Nearer runtime s s' := by
  have effect := turn_effect ready turned
  refine ⟨_, .turn, turned, nofun, onward_take ready waiting effect, ?_⟩
  simp only [waiting, List.length_cons]
  exact Nat.lt_of_lt_of_eq (Nat.add_lt_add_right (Nat.lt_succ_self _) _) rfl

theorem nearer_rebase (event : Audit.Event) (ready : Ready platformAuditShipping s)
    (stepped : Audit.step runtime platformAuditShipping s event = some (s.rebase s.control.head))
    (running : event ≠ .restart) (far : 2 < distance s) : Nearer runtime s (s.rebase s.control.head) := by
  have effect := step_effect ready stepped
  have close : distance (s.rebase s.control.head) = 2 := if_pos ⟨rfl, rfl⟩
  refine ⟨event, stepped, running, onward_of_effect ready effect rfl rfl rfl, ?_⟩
  rw [close]
  exact Nat.add_lt_add_left far _

theorem accept_atHead (ready : Ready platformAuditShipping s) (posting : s.phase = .posting) (atHead : AtHead s) :
    ∃ control, s.control.accept runtime platformAuditShipping.toWire (s.batch runtime platformAuditShipping).1 =
      some control := by
  obtain ⟨control, accepted, _⟩ | ⟨_, apart⟩ := @Ready.accept_cases _ runtime _ _ ready posting
  · exact ⟨control, accepted⟩
  · exact absurd atHead apart

theorem accept_off_head (ready : Ready platformAuditShipping s) (posting : s.phase = .posting) (off : ¬ AtHead s) :
    s.control.accept runtime platformAuditShipping.toWire (s.batch runtime platformAuditShipping).1 = none := by
  obtain ⟨control, _, taken⟩ | ⟨refused, _⟩ := @Ready.accept_cases _ runtime _ _ ready posting
  · exact absurd ⟨taken.seq, taken.hash⟩ off
  · exact refused

/-- A post that is off the head is answered with a conflict, after which the shipper asks for the head. -/
theorem nearer_conflict (ready : Ready platformAuditShipping s) (posting : s.phase = .posting) (off : ¬ AtHead s) :
    Nearer runtime s { s with phase := .asking } := by
  have conflict : Text.containsText (platformAuditShipping.what ++ " failed: 409 Conflict " ++ Text.trim "") "409" =
      true := by decide +kernel
  have stepped : Audit.step runtime platformAuditShipping s (.answered "") = some { s with phase := .asking } := by
    rw [step_refused posting (accept_off_head ready posting off), State.failed, if_pos conflict]
  refine ⟨.answered "", stepped, Audit.Event.noConfusion, onward_of_effect ready (step_effect ready stepped) rfl rfl rfl, ?_⟩
  simp [distance, posting, off]

/-- Wherever the shipper is with something to ship, it is at an acceptable post or can come nearer to one. -/
theorem exists_nearer (ready : Ready platformAuditShipping s) (some : s.pending ≠ []) :
    (s.phase = .posting ∧ AtHead s) ∨ ∃ s', Nearer runtime s s' := by
  have posted : s.post runtime platformAuditShipping = { s with phase := .posting } := ready.post_eq some
  have atHead (phase : Phase) : AtHead { s with phase } ↔ AtHead s := Iff.rfl
  cases phase : s.phase with
  | starting =>
    refine .inr ⟨_, nearer_rebase (.resume true) ready ?_ Audit.Event.noConfusion (by simp [distance, phase])⟩
    simp [Audit.step, phase, State.resumeFrom]
  | waiting =>
    obtain ⟨first, rest, pending⟩ := List.exists_cons_of_ne_nil some
    refine .inr ⟨_, nearer_phase .filling ready ?_ ?_⟩
    · simp [State.turn, phase, pending]
    · simp only [distance, phase, atHead]
      split <;> decide
  | filling =>
    by_cases full : s.pending.length < batchMax
    · cases waiting : s.channel with
      | nil =>
        refine .inr ⟨_, nearer_phase .posting ready ?_ ?_⟩
        · simp [State.turn, phase, full, waiting, posted]
        · simp only [distance, phase, atHead]
          split <;> decide
      | cons event channel =>
        refine .inr (nearer_take ready waiting ?_)
        simp [State.turn, phase, full, waiting]
    · refine .inr ⟨_, nearer_phase .posting ready ?_ ?_⟩
      · simp [State.turn, phase, full, posted]
      · simp only [distance, phase, atHead]
        split <;> decide
  | posting =>
    by_cases atHead : AtHead s
    · exact .inl ⟨rfl, atHead⟩
    · exact .inr ⟨_, nearer_conflict ready phase atHead⟩
  | asking =>
    refine .inr ⟨_, nearer_rebase (.head true) ready ?_ Audit.Event.noConfusion (by simp [distance, phase])⟩
    simp [Audit.step, phase]
  | sleeping =>
    refine .inr ⟨_, nearer_phase .refilling ready ?_ ?_⟩
    · simp [State.turn, phase]
    · simp [distance, phase]
  | refilling =>
    have trimmed : s.trim = { s with phase := .waiting } := ready.trim_eq
    have closer : distance { s with phase := .waiting } < distance s := by
      simp only [distance, phase]
      split <;> decide
    by_cases full : s.pending.length < maxPending
    · cases waiting : s.channel with
      | nil =>
        refine .inr ⟨_, nearer_phase .waiting ready ?_ closer⟩
        simp [State.turn, phase, full, waiting, trimmed]
      | cons event channel =>
        refine .inr (nearer_take ready waiting ?_)
        simp [State.turn, phase, full, waiting]
    · refine .inr ⟨_, nearer_phase .waiting ready ?_ closer⟩
      simp [State.turn, phase, full, trimmed]

/-- Every event in hand, pending or still in the channel, is a tenant's. -/
def Clean (world : World) : Prop := ∀ event ∈ world.shipper.held, Tenant world.tenants event

theorem Clean.named (clean : Clean world) : named world.tenants (world.batch runtime) = true :=
  named_batch_iff.mpr fun event member => clean event (List.mem_append_left _ (List.mem_of_mem_take member))

/-- The shipper's own steps are those of a control plane that refuses nobody. -/
theorem Clean.step (clean : Clean world) {event : Audit.Event}
    (stepped : Audit.step runtime platformAuditShipping world.shipper event = some s') (running : event ≠ .restart) :
    step runtime world (.shipper event) = some (world.note runtime s') := by
  cases event with
  | restart => exact absurd rfl running
  | answered body => simp [Tenancy.step, clean.named, stepped]
  | lostResponse error => simp [Tenancy.step, clean.named, stepped]
  | _ => simp [Tenancy.step, stepped]

theorem Clean.onward (clean : Clean world) {after : World} (tenants : after.tenants = world.tenants)
    (onward : Onward world.shipper after.shipper) : Clean after := by
  intro event member
  rw [tenants]
  exact clean event (onward.held.subset member)

/-- The shipper comes to an acceptable post of all that is pending, by steps that are open to it. -/
theorem exists_run_to_post (clean : Clean world) (ready : Ready platformAuditShipping world.shipper)
    (some : world.shipper.pending ≠ []) :
    ∃ later after, run (step runtime) world later = .some after ∧ after.tenants = world.tenants ∧
      Onward world.shipper after.shipper ∧ after.shipper.phase = .posting ∧ AtHead after.shipper := by
  induction far : world.shipper.channel.length + distance world.shipper using Nat.strong_induction_on
    generalizing world with
  | _ n ih =>
    subst far
    obtain ⟨posting, atHead⟩ | ⟨s', event, stepped, running, onward, shorter⟩ := @exists_nearer runtime _ ready some
    · exact ⟨[], world, rfl, rfl, .refl ready, posting, atHead⟩
    · have first := clean.step stepped running
      have moved : Onward world.shipper (world.note runtime s').shipper := by rwa [note_shipper]
      have kept : (world.note runtime s').shipper.pending ≠ [] := by
        rw [note_shipper]
        exact onward.pending.ne_nil some
      obtain ⟨later, after, ran, tenants, further, posting, atHead⟩ :=
        ih _ (by rwa [note_shipper]) (clean.onward (note_tenants ..) moved) moved.ready kept rfl
      exact ⟨.shipper event :: later, after, run_cons_some.mpr ⟨_, first, ran⟩, tenants.trans (note_tenants ..),
        moved.trans further, posting, atHead⟩

/-- The post is answered, and the front of the backlog is accepted. -/
theorem exists_run_to_shipped (clean : Clean world) (ready : Ready platformAuditShipping world.shipper)
    (some : world.shipper.pending ≠ []) :
    ∃ later after backlog, run (step runtime) world later = .some after ∧ Clean after ∧
      Ready platformAuditShipping after.shipper ∧ world.shipper.pending <+: backlog ∧
      after.shipper.accepted = world.shipper.accepted ++ backlog.take batchMax ∧
      after.shipper.pending = backlog.drop batchMax ∧ after.shipper.held.length < world.shipper.held.length := by
  obtain ⟨later, middle, ran, tenants, onward, posting, atHead⟩ := @exists_run_to_post runtime _ clean ready some
  have cleaner := clean.onward tenants onward
  obtain ⟨control, accepted⟩ := @accept_atHead runtime _ onward.ready posting atHead
  have answered := step_answered posting accepted ""
  have last := cleaner.step answered nofun
  have readier := ready_step onward.ready last
  refine ⟨later ++ [.shipper (.answered "")], _, middle.shipper.pending,
    run_append_some.mpr ⟨middle, ran, run_cons_some.mpr ⟨_, last, rfl⟩⟩, ?_, readier, onward.pending, ?_, ?_, ?_⟩
  · intro event member
    rw [note_shipper] at member
    rw [note_tenants]
    apply cleaner event
    rcases List.mem_append.mp member with pending | channel
    · exact List.mem_append_left _ (List.mem_of_mem_drop pending)
    · exact List.mem_append_right _ channel
  · rw [note_shipper, ← onward.accepted]
    rfl
  · rw [note_shipper]
    rfl
  · rw [note_shipper]
    refine Nat.lt_of_lt_of_le ?_ onward.held.length_le
    have nonempty := List.length_pos_of_ne_nil (onward.pending.ne_nil some)
    simp only [State.held, State.shipped, List.length_append, List.length_drop, batchMax]
    omega

/-- While every event in hand is a tenant's, each pending one is accepted in some run from here. -/
theorem exists_run_to_accepted (clean : Clean world) (ready : Ready platformAuditShipping world.shipper)
    {event : AuditEvent} (member : event ∈ world.shipper.pending) :
    ∃ later after new, run (step runtime) world later = some after ∧
      after.shipper.accepted = world.shipper.accepted ++ new ∧ event ∈ new := by
  -- Every batch that ships leaves less in hand.
  induction left : world.shipper.held.length using Nat.strong_induction_on generalizing world with
  | _ n ih =>
    subst left
    obtain ⟨later, after, backlog, ran, cleaner, readier, front, accepted, pending, fewer⟩ :=
      @exists_run_to_shipped runtime _ clean ready (List.ne_nil_of_mem member)
    have found : event ∈ backlog.take batchMax ++ backlog.drop batchMax := by
      rw [List.take_append_drop]
      exact front.subset member
    rcases List.mem_append.mp found with now | still
    · exact ⟨later, after, _, ran, accepted, now⟩
    · rw [← pending] at still
      obtain ⟨rest, final, new, continued, more, taken⟩ := ih _ fewer cleaner readier still rfl
      refine ⟨later ++ rest, final, backlog.take batchMax ++ new, run_append_some.mpr ⟨after, ran, continued⟩, ?_, ?_⟩
      · rw [more, accepted, List.append_assoc]
      · exact List.mem_append_right _ taken

end

/-! ## How soon a batch is posted again -/

/-- Nothing but an answer of 409 has 409 in its text. -/
def Unambiguous (_ : World) : Event → Prop
  | .shipper (.lostRequest error) | .shipper (.lostResponse error) => Text.containsText error "409" = false
  | .refused status reason body => Text.containsText (refusal status reason body) "409" = false
  | _ => True

/-- A post comes after a delay, or is another one than the post before. -/
def Fresh (first second : Post) : Prop := second.delayed = true ∨ second.batch ≠ first.batch

/-- The place in the chain where a batch starts. -/
def opening (batch : List PlatformAuditEvent) : Option (Nat × String) :=
  batch.head?.map fun item => (item.seq, item.prevHash)

/-- The last post did not start there. -/
def Apart (posts : List Post) (seq : Nat) (hash : String) : Prop :=
  ∀ last ∈ posts.getLast?, opening last.batch ≠ some (seq, hash)

/-- What keeps the next post from being the last one again. -/
def Spaced (posts : List Post) (slept : Bool) (s : State PlatformAuditEvent) : Prop :=
  match s.phase with
  | .starting => posts = []
  | .posting => ∃ last, posts.getLast? = some last ∧ opening last.batch = some (s.nextSeq, s.prevHash)
  | .asking => Apart posts (s.control.head.seq + 1) s.control.head.hash
  | .sleeping => True
  | .waiting | .filling | .refilling => slept = true ∨ Apart posts s.nextSeq s.prevHash

structure Paced (world : World) : Prop where
  chain : world.posts.IsChain Fresh
  spaced : Spaced world.posts world.slept world.shipper

section
variable {runtime : Runtime} {world after : World} {s s' : State PlatformAuditEvent} {event : Event}

theorem opening_batch (ready : Ready platformAuditShipping s) (some : s.pending ≠ []) :
    opening (s.batch runtime platformAuditShipping).1 = .some (s.nextSeq, s.prevHash) := by
  obtain ⟨first, rest, pending⟩ := List.exists_cons_of_ne_nil some
  have admitted : first.orgId.isSome = true := ready.admitted first (by rw [pending]; exact List.mem_cons_self)
  obtain ⟨org, named⟩ := Option.isSome_iff_exists.mp admitted
  have made : makePlatform first s.nextSeq s.prevHash (runtime.eventJson first) =
      .some ⟨org, s.nextSeq, s.prevHash, runtime.eventJson first⟩ := by simp [makePlatform, named]
  have taken : s.taken = first :: rest.take (batchMax - 1) := by
    rw [State.taken, pending]
    rfl
  have batch : (s.batch runtime platformAuditShipping).1 = _ :=
    congrArg Prod.fst ((congrArg _ taken).trans (chainWith_cons_of_some made _))
  rw [batch]
  rfl

theorem fresh_of_apart {posts : List Post} {batch : List PlatformAuditEvent} {seq : Nat} {hash : String}
    (starts : opening batch = some (seq, hash)) (apart : Apart posts seq hash) :
    ∀ last ∈ posts.getLast?, batch ≠ last.batch := by
  rintro last member rfl
  exact apart last member starts

/-- A step that posts nothing. -/
theorem paced_quiet (paced : Paced world) (quiet : world.shipper.phase = .posting ∨ s'.phase ≠ .posting)
    (spaced : Spaced world.posts
      (world.slept || (world.shipper.phase = .sleeping && s'.phase ≠ .sleeping)) s') :
    Paced (world.note runtime s') := by
  have noted : ¬ (world.shipper.phase ≠ .posting ∧ s'.phase = .posting) := by
    rintro ⟨other, posting⟩
    rcases quiet with same | not
    · exact other same
    · exact not posting
  rw [World.note, if_neg noted]
  exact ⟨paced.chain, spaced⟩

/-- A turn keeps the shipper's place in the chain. -/
theorem turn_keeps_place (ready : Ready platformAuditShipping s)
    (turned : s.turn runtime platformAuditShipping = some s') :
    s'.nextSeq = s.nextSeq ∧ s'.prevHash = s.prevHash ∧ s.phase.turnsTo s'.phase = true := by
  obtain ⟨phase, rfl, _, turns⟩ | ⟨event, channel, phase, _, _, rfl, _, turns⟩ := ready.turn_cases turned
  · exact ⟨rfl, rfl, turns⟩
  · exact ⟨rfl, rfl, turns⟩

theorem turnsTo_iff {before after : Phase} : before.turnsTo after = true ↔
    (before = .sleeping ∧ after = .refilling) ∨ (before = .filling ∧ after = .posting) ∨
      (before.isLooping = true ∧ after.isLooping = true) := by
  cases before <;> cases after <;> decide

theorem spaced_looping {posts : List Post} {slept : Bool} (looping : s.phase.isLooping = true) :
    Spaced posts slept s ↔ slept = true ∨ Apart posts s.nextSeq s.prevHash := by
  unfold Spaced
  cases phase : s.phase with
  | waiting | filling | refilling => exact Iff.rfl
  | starting | posting | asking | sleeping =>
    rw [phase] at looping
    cases looping

theorem spaced_sleeping {posts : List Post} {slept : Bool} (sleeping : s.phase = .sleeping) : Spaced posts slept s := by
  unfold Spaced
  rw [sleeping]
  trivial

theorem Paced.turn (paced : Paced world) (ready : Ready platformAuditShipping world.shipper)
    (turned : world.shipper.turn runtime platformAuditShipping = some s') : Paced (world.note runtime s') := by
  obtain ⟨seq, hash, turns⟩ := turn_keeps_place ready turned
  obtain ⟨chain, spaced⟩ := paced
  rcases turnsTo_iff.mp turns with ⟨sleeping, refilling⟩ | ⟨filling, posting⟩ | ⟨looping, still⟩
  · refine paced_quiet ⟨chain, spaced⟩ (.inr (by simp [refilling])) ?_
    rw [spaced_looping (by rw [refilling]; rfl)]
    simp [sleeping, refilling]
  · have readier : Ready platformAuditShipping s' := ready.step (turn_effect ready turned)
    have starts : opening (s'.batch runtime platformAuditShipping).1 = some (s'.nextSeq, s'.prevHash) :=
      opening_batch readier (readier.working (.inr posting))
    rw [World.note, if_pos ⟨by simp [filling], posting⟩]
    rw [spaced_looping (by rw [filling]; rfl), ← seq, ← hash] at spaced
    refine ⟨List.isChain_append.mpr ⟨chain, List.isChain_singleton _, ?_⟩, ?_⟩
    · intro last member post new
      cases new
      exact spaced.imp id fun apart => fresh_of_apart starts apart last member
    · simp only [Spaced, posting, List.getLast?_concat]
      exact ⟨_, rfl, starts⟩
  · have moving : s'.phase ≠ .posting := by
      intro posting
      rw [posting] at still
      cases still
    have awake : (decide (world.shipper.phase = .sleeping)) = false := by
      rw [decide_eq_false_iff_not]
      intro sleeping
      rw [sleeping] at looping
      cases looping
    refine paced_quiet ⟨chain, spaced⟩ (.inr moving) ?_
    rw [spaced_looping looping] at spaced
    rw [spaced_looping still, seq, hash, awake, Bool.false_and, Bool.or_false]
    exact spaced

/-- After a failure whose text does not speak of a conflict the shipper sleeps. -/
theorem paced_failed (paced : Paced world) (posting : world.shipper.phase = .posting) (asleep : s'.phase = .sleeping) :
    Paced (world.note runtime s') :=
  paced_quiet paced (.inl posting) (spaced_sleeping asleep)

theorem failed_asleep (s : State PlatformAuditEvent) {error : String} (other : Text.containsText error "409" = false) :
    (s.failed error).phase = .sleeping := by
  rw [State.failed, other]
  rfl

/-- After any failure it sleeps or asks for the head. -/
theorem spaced_failed {posts : List Post} {slept : Bool} {error : String}
    (apart : Apart posts (s.control.head.seq + 1) s.control.head.hash) : Spaced posts slept (s.failed error) := by
  unfold Spaced State.failed
  cases Text.containsText error "409" with
  | true => exact apart
  | false => trivial

theorem Paced.answered (paced : Paced world) (ready : Ready platformAuditShipping world.shipper) {body : String}
    (stepped : Audit.step runtime platformAuditShipping world.shipper (.answered body) = some s') :
    Paced (world.note runtime s') := by
  simp only [Audit.step, Option.ite_none_right_eq_some] at stepped
  obtain ⟨posting, stepped⟩ := stepped
  have spaced := paced.spaced
  simp only [Spaced, posting] at spaced
  obtain ⟨last, latest, starts⟩ := spaced
  obtain ⟨control, accepted, taken⟩ | ⟨refused, off⟩ := @Ready.accept_cases _ runtime _ _ ready posting
  · rw [accepted] at stepped
    cases stepped
    refine paced_quiet paced (.inl posting) (.inr ?_)
    -- The next batch starts at a later number.
    intro other member
    cases latest.symm.trans member
    rw [starts]
    have some := ready.working (.inr posting)
    have grows : 0 < (world.shipper.batch runtime platformAuditShipping).1.length :=
      List.length_pos_of_ne_nil (ready.batch_ne_nil some)
    intro same
    have number : world.shipper.nextSeq =
        world.shipper.nextSeq + (world.shipper.batch runtime platformAuditShipping).1.length :=
      congrArg Prod.fst (Option.some.inj same)
    omega
  · rw [refused, Option.some.injEq] at stepped
    generalize platformAuditShipping.what ++ " failed: 409 Conflict " ++ Text.trim body = error at stepped
    subst stepped
    refine paced_quiet paced (.inl posting) (spaced_failed ?_)
    intro other member same
    cases latest.symm.trans member
    have place := Option.some.inj (starts.symm.trans same)
    exact off ⟨congrArg Prod.fst place, congrArg Prod.snd place⟩

/-- The shipper's own steps, and those of a network that loses a post or its answer. -/
theorem Paced.moved (paced : Paced world) (ready : Ready platformAuditShipping world.shipper) {moved : Audit.Event}
    (plain : Unambiguous world (.shipper moved)) (running : moved ≠ .restart)
    (stepped : Audit.step runtime platformAuditShipping world.shipper moved = some s') :
    Paced (world.note runtime s') := by
  cases moved with
  | restart => exact absurd rfl running
  | record event =>
    cases stepped
    refine paced_quiet paced ?_ ?_
    · by_cases posting : world.shipper.phase = .posting
      · exact .inl posting
      · exact .inr posting
    · have slept : (world.slept || (decide (world.shipper.phase = .sleeping) &&
          decide ((world.shipper.record event).phase ≠ .sleeping))) = world.slept := by
        by_cases asleep : world.shipper.phase = .sleeping <;> simp [State.record, asleep]
      rw [slept]
      exact paced.spaced
  | resume fetched =>
    simp only [Audit.step, Option.ite_none_right_eq_some] at stepped
    obtain ⟨starting, stepped⟩ := stepped
    cases stepped
    have spaced := paced.spaced
    simp only [Spaced, starting] at spaced
    refine paced_quiet paced (.inr Phase.noConfusion) (.inr ?_)
    simp [Apart, spaced]
  | turn => exact paced.turn ready stepped
  | lostRequest error =>
    simp only [Audit.step, Option.ite_none_right_eq_some] at stepped
    obtain ⟨posting, stepped⟩ := stepped
    cases stepped
    exact paced_failed paced posting (failed_asleep world.shipper plain)
  | lostResponse error =>
    simp only [Audit.step, Option.ite_none_right_eq_some] at stepped
    obtain ⟨posting, stepped⟩ := stepped
    split at stepped
    · cases stepped
      exact paced_failed paced posting (failed_asleep world.shipper plain)
    · cases stepped
      exact paced_failed paced posting (failed_asleep world.shipper plain)
  | answered body => exact paced.answered ready stepped
  | head fetched =>
    simp only [Audit.step, Option.ite_none_right_eq_some] at stepped
    obtain ⟨asking, stepped⟩ := stepped
    have spaced := paced.spaced
    simp only [Spaced, asking] at spaced
    cases fetched with
    | true =>
      cases stepped
      exact paced_quiet paced (.inr Phase.noConfusion) (.inr spaced)
    | false =>
      cases stepped
      exact paced_quiet paced (.inr Phase.noConfusion) trivial

theorem Paced.step (paced : Paced world) (ready : Ready platformAuditShipping world.shipper)
    (plain : Unambiguous world event) (stepped : Tenancy.step runtime world event = some after) : Paced after := by
  cases event with
  | removed org =>
    cases stepped
    exact ⟨paced.chain, paced.spaced⟩
  | refused status reason body =>
    simp only [Tenancy.step, Option.ite_none_right_eq_some] at stepped
    obtain ⟨⟨posting, _⟩, stepped⟩ := stepped
    cases stepped
    exact paced_failed paced posting (failed_asleep world.shipper plain)
  | shipper moved =>
    have goes (moved : Audit.Event) (plain : Unambiguous world (.shipper moved)) (running : moved ≠ .restart)
        (stepped : (Audit.step runtime platformAuditShipping world.shipper moved).map (world.note runtime) =
          some after) : Paced after := by
      obtain ⟨s', took, rfl⟩ := Option.map_eq_some_iff.mp stepped
      exact paced.moved ready plain running took
    cases moved with
    | restart => cases stepped
    | answered body =>
      simp only [Tenancy.step, Option.ite_none_right_eq_some] at stepped
      exact goes _ plain nofun stepped.2
    | lostResponse error =>
      simp only [Tenancy.step] at stepped
      split at stepped
      · exact goes _ plain nofun stepped
      · exact goes (.lostRequest error) plain nofun stepped
    | _ => exact goes _ plain nofun stepped

end

/-- One run of the platform's shipper. What is behind an event of an organisation that is gone stays there for good.
While there is no such event in hand, every pending one can still be accepted; and while nothing but a conflict
speaks of 409, no batch is posted twice in a row without a delay. -/
theorem stream_moves_while_clean (runtime : Runtime) (control : ControlPlane PlatformAuditEvent)
    (persisted : Option AuditHead) (tenants : List String) (events : List Event) (world : World)
    (ran : run (step runtime) (begin control persisted tenants) events = some world) :
    (∀ index culprit, world.shipper.pending[index]? = some culprit → ¬ Tenant world.tenants culprit →
      ∀ later after, run (step runtime) world later = some after →
        Blocked world.shipper.pending index world.shipper.accepted after.shipper) ∧
    (Clean world → ∀ event ∈ world.shipper.pending, ∃ later after new, run (step runtime) world later = some after ∧
      after.shipper.accepted = world.shipper.accepted ++ new ∧ event ∈ new) ∧
    (Along (step runtime) Unambiguous (begin control persisted tenants) events → world.posts.IsChain Fresh) := by
  have ready := ready_run ran
  refine ⟨?_, ?_, ?_⟩
  · intro index culprit found removed later after continued
    exact blocked_for_good found removed ready continued
  · intro clean event member
    exact exists_run_to_accepted clean ready member
  · intro plain
    have start : Paced (begin control persisted tenants) := ⟨List.isChain_nil, rfl⟩
    have both := run_invariant_along
      (fun world : World => Ready platformAuditShipping world.shipper ∧ Paced world)
      (fun _ _ _ held plain stepped => ⟨ready_step held.1 stepped, held.2.step held.1 plain stepped⟩)
      ⟨ready_initial control persisted, start⟩ plain ran
    exact both.2.chain

-- Two events of two tenants in one batch, with their hashes. One of the tenants goes.
def leaving : AuditEvent := sampleEvent "allow" (some "org-4091")

def staying : AuditEvent := sampleEvent "allow" (some "org-7")

def leavingDigest : Digest := digest 0xb12d2049f059c6445207e8d629b8ee03f245e2f0bbedfcb42e2455fa123e4fa0

def stayingDigest : Digest := digest 0x8369b16d82f316eee086e61386c1b129cdd9109b61a3ace9f82330532ebdc5ab

def platformRuntime : Runtime where
  sha256 input :=
    if input = auditInput 1 auditGenesis (sampleJson leaving) then leavingDigest
    else if input = auditInput 2 (Encoding.hex leavingDigest.bytes) (sampleJson staying) then stayingDigest
    else digest 0
  eventJson := sampleJson

def twoTenants : List String := ["org-4091", "org-7"]

def twoRecorded : List Event :=
  [.shipper (.resume true), .shipper (.record leaving), .shipper (.record staying), .shipper .turn, .shipper .turn,
    .shipper .turn]

section
variable (runtime : Runtime)

def twoPost : Post := ⟨(chainPlatformBatch runtime [leaving, staying] 1 auditGenesis).1, false⟩

def twoPosted : State PlatformAuditEvent :=
  { phase := .posting, nextSeq := 1, prevHash := auditGenesis, pending := [leaving, staying], channel := []
    control := newChain, persisted := none, recorded := [leaving, staying] }

theorem run_two : run (step runtime) (begin newChain none twoTenants) twoRecorded =
    some ⟨twoPosted, twoTenants, [twoPost runtime], false⟩ := by
  rfl

end

theorem two_tenants_move_on :
    ∃ world, run (step platformRuntime) (begin newChain none twoTenants) twoRecorded = some world ∧
      (∃ later after new, run (step platformRuntime) world later = some after ∧
        after.shipper.accepted = world.shipper.accepted ++ new ∧ staying ∈ new) ∧
      world.posts.IsChain Fresh := by
  have plain : Along (step platformRuntime) Unambiguous (begin newChain none twoTenants) twoRecorded := by
    refine along_of_forall (fun world event member => ?_) _
    simp only [twoRecorded, List.mem_cons, List.not_mem_nil, or_false] at member
    rcases member with rfl | rfl | rfl | rfl | rfl | rfl
    all_goals trivial
  have clean : Clean ⟨twoPosted, twoTenants, [twoPost platformRuntime], false⟩ := by
    intro event member org named
    have either : event = leaving ∨ event = staying := by simpa [State.held, twoPosted] using member
    rcases either with rfl | rfl
    · cases named
      exact List.mem_cons_self
    · cases named
      exact List.mem_cons_of_mem _ List.mem_cons_self
  obtain ⟨_, moves, fresh⟩ := stream_moves_while_clean platformRuntime newChain none twoTenants twoRecorded _
    (run_two platformRuntime)
  exact ⟨_, run_two platformRuntime, moves clean staying (List.mem_cons_of_mem _ List.mem_cons_self), fresh plain⟩

-- The answer names the organisation, whose number happens to have 409 in it.
def goneRefusal : Event := .refused 422 "Unprocessable Entity" "org-4091 is not a tenant"

theorem step_goneRefusal (runtime : Runtime) :
    step runtime ⟨twoPosted, ["org-7"], [twoPost runtime], false⟩ goneRefusal =
      some ⟨{ twoPosted with phase := .asking }, ["org-7"], [twoPost runtime], false⟩ := by
  have conflict : Text.containsText (refusal 422 "Unprocessable Entity" "org-4091 is not a tenant") "409" = true := by
    decide +kernel
  have failed : twoPosted.failed (refusal 422 "Unprocessable Entity" "org-4091 is not a tenant") =
      { twoPosted with phase := .asking } := by
    rw [State.failed, if_pos conflict]
  rw [goneRefusal, step, if_pos ⟨rfl, rfl, by decide⟩, failed]
  rfl

theorem removed_tenant_stops_stream :
    ∃ world, run (step platformRuntime) (begin newChain none twoTenants) (twoRecorded ++ [.removed "org-4091"]) =
        some world ∧
      staying ∈ world.shipper.pending ∧ Tenant world.tenants staying ∧
      (∀ later after, run (step platformRuntime) world later = some after → after.shipper.accepted = []) ∧
      ∃ again, run (step platformRuntime) world
          [goneRefusal, .shipper (.head true), .shipper .turn, .shipper .turn] = some again ∧
        again.posts = [twoPost platformRuntime, twoPost platformRuntime] ∧ ¬ again.posts.IsChain Fresh := by
  have ran : run (step platformRuntime) (begin newChain none twoTenants) (twoRecorded ++ [.removed "org-4091"]) =
      some ⟨twoPosted, ["org-7"], [twoPost platformRuntime], false⟩ :=
    run_append_some.mpr ⟨_, run_two platformRuntime, rfl⟩
  have gone : ¬ Tenant ["org-7"] leaving := fun tenant => absurd (tenant "org-4091" rfl) (by decide)
  refine ⟨_, ran, List.mem_cons_of_mem _ List.mem_cons_self, ?_, ?_, ?_⟩
  · intro org named
    cases named
    exact List.mem_cons_self
  · intro later after continued
    have found : twoPosted.pending[0]? = some leaving := rfl
    obtain ⟨new, accepted, ahead⟩ := (blocked_for_good found gone (ready_run ran) continued).ahead
    have none : new = [] := List.eq_nil_iff_forall_not_mem.mpr fun event member => by
      simpa using ahead event member
    rw [accepted, none]
    rfl
  · refine ⟨⟨twoPosted, ["org-7"], [twoPost platformRuntime, twoPost platformRuntime], false⟩, ?_, rfl, ?_⟩
    · exact run_cons_some.mpr ⟨_, step_goneRefusal platformRuntime, rfl⟩
    · intro chain
      have fresh := List.isChain_pair.mp chain
      simp [Fresh, twoPost] at fresh

end Skimasque.Audit.Tenancy
