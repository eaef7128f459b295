import Skimasque.Audit.Delivery

/-! What the gateway holds for the control plane while that is away. -/

set_option autoImplicit false

namespace Skimasque.Audit
open Library Gateway

section
variable {T : Type} {runtime : Runtime} {shipping : Shipping T} {s s' : State T} {event : Event}

/-- What the gateway holds for the control plane. -/
def State.held (s : State T) : List AuditEvent := s.pending ++ s.channel

/-- The sink finds room in the channel. -/
def HasRoom (s : State T) : Event → Prop
  | .record _ => s.channel.length < auditBuffer
  | _ => True

/-- The events held are the ones recorded last, less those the loop does not ship at all. -/
def HoldsTheLatest (shipping : Shipping T) (recorded : List AuditEvent) (s : State T) : Prop :=
  s.held.filter shipping.admits <:+ recorded.filter shipping.admits

theorem HoldsTheLatest.step (latest : HoldsTheLatest shipping s.recorded s) (room : HasRoom s event)
    (effect : Effect runtime shipping s event s') : HoldsTheLatest shipping s'.recorded s' := by
  unfold HoldsTheLatest State.held at latest ⊢
  cases effect with
  | record event =>
    dsimp only [State.record, Queue.trySend]
    rw [if_pos (show s.channel.length < auditBuffer from room), Option.getD_some, ← List.append_assoc,
      List.filter_append _ [event], List.filter_append _ [event]]
    obtain ⟨older, split⟩ := latest
    rw [← split, List.append_assoc]
    exact List.suffix_append ..
  | resume fetched starting => exact latest
  | rebase asking => exact latest
  | turn phase works => exact latest
  | take event channel phase waiting room works =>
    dsimp only [State.takeIn]
    rw [waiting] at latest
    split
    · rwa [List.append_assoc, List.singleton_append]
    · rename_i skipped
      rwa [List.filter_append, List.filter_cons_of_neg skipped, ← List.filter_append] at latest
  | lost error control posting taken => exact latest
  | shipped body control posting taken =>
    refine List.IsSuffix.trans ?_ latest
    dsimp only [State.shipped]
    rw [List.filter_append, List.filter_append]
    obtain ⟨front, split⟩ := (List.drop_suffix batchMax s.pending).filter shipping.admits
    rw [← split, List.append_assoc]
    exact List.suffix_append ..
  | stop => exact List.nil_suffix

theorem Ready.length_held (ready : Ready shipping s) : s.held.length ≤ maxPending + auditBuffer := by
  unfold State.held
  rw [List.length_append]
  exact Nat.add_le_add ready.backlog ready.buffered

/-- In every run in which the sink always finds room in the channel. -/
theorem oldest_events_are_shed_first {base : ControlPlane T} {file : Option AuditHead} {events : List Event}
    (meets : Transition.Along (step runtime shipping) HasRoom (initial base file) events)
    (ran : Transition.run (step runtime shipping) (initial base file) events = some s) :
    HoldsTheLatest shipping (events.filterMap Event.recorded) s ∧ s.held.length ≤ maxPending + auditBuffer := by
  obtain ⟨ready, latest⟩ := run_invariant_of_effect (fun s => HoldsTheLatest shipping s.recorded s)
    (fun _ _ _ _ holds room effect => holds.step room effect) List.nil_suffix meets ran
  rw [recorded_of_run ran] at latest
  exact ⟨latest, ready.length_held⟩

/-! An outage. Each event that is recorded goes to the backlog until that is full, then to the channel. -/

theorem run_records {recorded : List AuditEvent} (room : s.channel.length + recorded.length ≤ auditBuffer) :
    Transition.run (step runtime shipping) s (recorded.map .record) =
      some { s with channel := s.channel ++ recorded, recorded := s.recorded ++ recorded } := by
  induction recorded generalizing s with
  | nil => simp
  | cons event rest ih =>
    rw [List.length_cons] at room
    have first : step runtime shipping s (.record event) =
        some { s with channel := s.channel ++ [event], recorded := s.recorded ++ [event] } := by
      rw [step, State.record, Queue.trySend, if_pos (by omega), Option.getD_some]
    refine Transition.run_cons_some.mpr ⟨_, first, ?_⟩
    rw [ih (by simp only [List.length_append, List.length_singleton]; omega)]
    simp

theorem run_backlog {event : AuditEvent} (admitted : shipping.admits event = true) (count : Nat)
    (refilling : s.phase = .refilling) (empty : s.channel = []) (room : s.pending.length + count ≤ maxPending) :
    Transition.run (step runtime shipping) s (List.replicate count [.record event, .turn]).flatten =
      some { s with
        pending := s.pending ++ List.replicate count event
        recorded := s.recorded ++ List.replicate count event } := by
  induction count generalizing s with
  | zero => simp
  | succ count ih =>
    have first : step runtime shipping s (.record event) =
        some { s with channel := [event], recorded := s.recorded ++ [event] } := by
      rw [step, State.record, Queue.trySend, empty, if_pos (by decide)]
      rfl
    have second : step runtime shipping { s with channel := [event], recorded := s.recorded ++ [event] } .turn =
        some { s with pending := s.pending ++ [event], channel := [], recorded := s.recorded ++ [event] } := by
      simp only [step, State.turn, refilling]
      rw [if_pos (by omega), State.takeIn, if_pos admitted]
    rw [List.replicate_succ, List.flatten_cons]
    refine Transition.run_append_some.mpr ⟨_, Transition.run_cons_some.mpr ⟨_, first, Transition.run_cons_some.mpr
      ⟨_, second, Transition.run_nil ..⟩⟩, ?_⟩
    rw [ih]
    · simp [empty, List.replicate_succ]
    · exact refilling
    · rfl
    · simp only [List.length_append, List.length_singleton]
      omega

end

def denied : AuditEvent := sampleEvent "deny" none

/-- The first post fails, and the shipper is back from its sleep. -/
def firstOutage : State ChainedAuditEvent := { firstPost with phase := .refilling }

theorem run_firstOutage (runtime : Runtime) : Transition.run (step runtime auditShipping) firstPost
    [.lostRequest "shipping audit events", .turn] = some firstOutage := by
  have lost : step runtime auditShipping firstPost (.lostRequest "shipping audit events") =
      some { firstPost with phase := .sleeping } := by
    rw [← failed_sleeping]
    rfl
  exact Transition.run_cons_some.mpr ⟨_, lost, rfl⟩

theorem one_event_waits_in_the_backlog :
    ∃ s, Transition.run (step sampleRuntime auditShipping) (initial newChain none) firstEvents = some s ∧
      s.held = [allowed] ∧ HoldsTheLatest auditShipping (firstEvents.filterMap Event.recorded) s := by
  have room : Transition.Along (step sampleRuntime auditShipping) HasRoom (initial newChain none) firstEvents := by
    refine ⟨trivial, fun s' stepped => ?_⟩
    cases stepped
    refine ⟨show 0 < auditBuffer by decide, fun s' _ => Transition.along_of_forall (fun s event member => ?_) s'⟩
    simp only [List.mem_cons, List.not_mem_nil, or_false, or_self] at member
    rw [member]
    trivial
  have ran := run_first sampleRuntime
  exact ⟨_, ran, rfl, (oldest_events_are_shed_first room ran).1⟩

/-- The posts fail, and events go on being recorded. -/
def outage (backlog queued : Nat) : List Event :=
  firstEvents ++ ([.lostRequest "shipping audit events", .turn] ++
    ((List.replicate backlog [.record allowed, .turn]).flatten ++ (List.replicate queued allowed).map .record))

theorem run_outage (runtime : Runtime) {backlog queued : Nat} (fits : 1 + backlog ≤ maxPending)
    (room : queued ≤ auditBuffer) (some : 0 < queued) :
    ∃ s, Transition.run (step runtime auditShipping) (initial newChain none) (outage backlog queued) = .some s ∧
      s.channel.length = queued ∧ s.held.getLast? = .some allowed := by
  have admitted : auditShipping.admits allowed = true := rfl
  have kept : Transition.run (step runtime auditShipping) firstOutage _ = _ :=
    run_backlog admitted backlog rfl rfl fits
  have sent : (List.replicate queued allowed).length ≤ auditBuffer := by rwa [List.length_replicate]
  refine ⟨_, Transition.run_append_some.mpr ⟨_, run_first runtime, Transition.run_append_some.mpr
    ⟨_, run_firstOutage runtime, Transition.run_append_some.mpr ⟨_, kept, run_records ?_⟩⟩⟩, ?_, ?_⟩
  · exact Nat.le_trans (Nat.le_of_eq (Nat.zero_add _)) sent
  · exact (List.length_append ..).trans ((Nat.zero_add _).trans (List.length_replicate ..))
  · rw [State.held, List.getLast?_append, List.getLast?_append, List.getLast?_replicate,
      if_neg (Nat.ne_of_gt some), Option.some_or, Option.some_or]

/-- The backlog is full, the channel is full, and one event more is recorded. -/
theorem outage_sheds_the_newest :
    ¬ ∀ (events : List Event) (s : State ChainedAuditEvent),
      Transition.run (step sampleRuntime auditShipping) (initial newChain none) events = some s →
      HoldsTheLatest auditShipping (events.filterMap Event.recorded) s ∧
        s.held.length ≤ maxPending + auditBuffer := by
  intro sheds
  have fits : 1 + 9999 ≤ maxPending := by decide
  obtain ⟨s, ran, channel, held⟩ := run_outage sampleRuntime fits (Nat.le_refl auditBuffer) (by decide)
  have full : step sampleRuntime auditShipping s (.record denied) =
      some { s with recorded := s.recorded ++ [denied] } := by
    rw [step, State.record, Queue.trySend, channel, if_neg (Nat.lt_irrefl _), Option.getD_none]
  have latest := (sheds _ _ (Transition.run_append_some.mpr ⟨_, ran, Transition.run_cons_some.mpr
    ⟨_, full, Transition.run_nil ..⟩⟩)).1
  -- The last event held was allowed, the last event recorded was denied.
  have all (events : List AuditEvent) : events.filter auditShipping.admits = events :=
    List.filter_eq_self.mpr fun _ _ => rfl
  unfold HoldsTheLatest at latest
  rw [all, all, List.filterMap_append] at latest
  obtain ⟨older, split⟩ := latest
  have last := congrArg List.getLast? split
  rw [List.getLast?_append, List.getLast?_append,
    show State.held { s with recorded := s.recorded ++ [denied] } = s.held from rfl, held,
    show [Event.record denied].filterMap Event.recorded = [denied] from rfl, List.getLast?_singleton, Option.some_or,
    Option.some_or, Option.some.injEq] at last
  exact absurd last (by decide)

end Skimasque.Audit
