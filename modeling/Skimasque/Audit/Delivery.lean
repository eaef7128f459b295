import Skimasque.Audit.Shipping

/-! What reaches the control plane: one chain over everything it took, and each event once, as long as the
shipper does not take over a head that has its own events in it. -/

set_option autoImplicit false

namespace Skimasque.Audit
open Library Gateway

/-! ## The chain at the control plane -/

section
variable {T : Type} {runtime : Runtime} {shipping : Shipping T} {s s' : State T} {event : Event}
  {base : ControlPlane T} {file : Option AuditHead}

/-- What the control plane holds is one chain over everything it took, from the head it had; and the
local record is the head with the last batch that the shipper saw taken. -/
structure Chained (runtime : Runtime) (shipping : Shipping T) (base : ControlPlane T) (file : Option AuditHead)
    (s : State T) : Prop where
  stored : s.control.stored =
    base.stored ++ (chainWith runtime shipping.make (base.head.seq + 1) base.head.hash s.accepted).1
  head : s.control.head =
    ⟨base.head.seq + (chainWith runtime shipping.make (base.head.seq + 1) base.head.hash s.accepted).1.length,
      (chainWith runtime shipping.make (base.head.seq + 1) base.head.hash s.accepted).2⟩
  persisted : s.persisted = s.seen.or file

/-- The batch that is taken goes on where the chain was. -/
theorem Chained.accept (chained : Chained runtime shipping base file s) (ready : Ready shipping s)
    {control : ControlPlane T} (taken : Taken runtime shipping s control) :
    control.stored = base.stored ++
        (chainWith runtime shipping.make (base.head.seq + 1) base.head.hash (s.accepted ++ s.taken)).1 ∧
      control.head =
        ⟨base.head.seq +
            (chainWith runtime shipping.make (base.head.seq + 1) base.head.hash (s.accepted ++ s.taken)).1.length,
          (chainWith runtime shipping.make (base.head.seq + 1) base.head.hash (s.accepted ++ s.taken)).2⟩ := by
  have lengths := ready.length_batch runtime
  have next : s.nextSeq = base.head.seq + 1 +
      (chainWith runtime shipping.make (base.head.seq + 1) base.head.hash s.accepted).1.length := by
    rw [taken.seq, chained.head]
    dsimp only
    omega
  have prev : s.prevHash = (chainWith runtime shipping.make (base.head.seq + 1) base.head.hash s.accepted).2 := by
    rw [taken.hash, chained.head]
  have batch : s.batch runtime shipping = chainWith runtime shipping.make (base.head.seq + 1 +
      (chainWith runtime shipping.make (base.head.seq + 1) base.head.hash s.accepted).1.length)
      (chainWith runtime shipping.make (base.head.seq + 1) base.head.hash s.accepted).2 s.taken := by
    rw [State.batch, next, prev]
  rw [taken.stored, taken.head, ← lengths, chained.stored, chainWith_append, ← batch, List.append_assoc]
  refine ⟨rfl, ?_⟩
  rw [chained.head, List.length_append, Nat.add_assoc]

theorem Chained.step (chained : Chained runtime shipping base file s) (ready : Ready shipping s)
    (effect : Effect runtime shipping s event s') : Chained runtime shipping base file s' := by
  cases effect with
  | record event => exact ⟨chained.stored, chained.head, chained.persisted⟩
  | resume fetched starting => exact ⟨chained.stored, chained.head, chained.persisted⟩
  | rebase asking => exact ⟨chained.stored, chained.head, chained.persisted⟩
  | turn phase works => exact ⟨chained.stored, chained.head, chained.persisted⟩
  | take event channel phase waiting room works => exact ⟨chained.stored, chained.head, chained.persisted⟩
  | lost error control posting taken =>
    obtain ⟨stored, head⟩ := chained.accept ready taken
    exact ⟨stored, head, chained.persisted⟩
  | shipped body control posting taken =>
    obtain ⟨stored, head⟩ := chained.accept ready taken
    refine ⟨stored, head, ?_⟩
    -- Either way of counting gives the number of events in the batch.
    have lengths := ready.length_batch runtime
    dsimp only [State.shipped]
    rw [lengths, ite_self, taken.head, Option.some_or, taken.seq, Nat.add_right_comm, Nat.add_sub_cancel]
  | stop => exact ⟨chained.stored, chained.head, chained.persisted⟩

theorem chained_initial (base : ControlPlane T) (file : Option AuditHead) :
    Chained runtime shipping base file (initial base file) :=
  ⟨(List.append_nil _).symm, rfl, rfl⟩

/-- Both ways of chaining batches, and both loops, whatever the boundaries, the failures, the answers
that are lost and the restarts: one chain, cut into pieces. -/
theorem audit_chain_ignores_batching (runtime : Runtime) (shipping : Shipping T) :
    (∀ first second seq prevHash, ∃ front middle back tail,
      chainWith runtime shipping.make seq prevHash first = (front, middle) ∧
      chainWith runtime shipping.make (seq + front.length) middle second = (back, tail) ∧
      chainWith runtime shipping.make seq prevHash (first ++ second) = (front ++ back, tail)) ∧
    (∀ events seq prevHash,
      Linked runtime seq prevHash ((chainWith runtime shipping.make seq prevHash events).1.map shipping.view)
        (chainWith runtime shipping.make seq prevHash events).2 ∧
      chainWith runtime shipping.make seq prevHash (events.filter shipping.admits) =
        chainWith runtime shipping.make seq prevHash events) ∧
    ∀ base file events s,
      Transition.run (step runtime shipping) (initial base file) events = some s →
      s.control.stored =
          base.stored ++ (chainWith runtime shipping.make (base.head.seq + 1) base.head.hash s.accepted).1 ∧
        s.control.head =
          ⟨base.head.seq + (chainWith runtime shipping.make (base.head.seq + 1) base.head.hash s.accepted).1.length,
            (chainWith runtime shipping.make (base.head.seq + 1) base.head.hash s.accepted).2⟩ ∧
        s.persisted = s.seen.or file := by
  refine ⟨fun first second seq prevHash => ?_, fun events seq prevHash => ?_, fun base file events s ran => ?_⟩
  · exact ⟨_, _, _, _, rfl, rfl, chainWith_append ..⟩
  · exact ⟨linked_chainWith shipping.toWire runtime events seq prevHash,
      chainWith_filter shipping.toWire runtime events seq prevHash⟩
  · have everywhere : Transition.Along (step runtime shipping) (fun _ _ => True) (initial base file) events :=
      Transition.along_of_forall (fun _ _ _ => trivial) _
    obtain ⟨-, chained⟩ := run_invariant_of_effect (Chained runtime shipping base file)
      (fun _ _ _ ready holds _ effect => holds.step ready effect) (chained_initial base file) everywhere ran
    exact ⟨chained.stored, chained.head, chained.persisted⟩

end

section
variable {T : Type} {runtime : Runtime} {shipping : Shipping T} {s : State T} {control : ControlPlane T}

theorem step_lostResponse (posting : s.phase = .posting)
    (accepted : s.control.accept runtime shipping.toWire (s.batch runtime shipping).1 = some control) (error : String) :
    step runtime shipping s (.lostResponse error) =
      some { s.failed error with control, accepted := s.accepted ++ s.taken, unseen := s.taken.length } := by
  rw [step, if_pos posting, accepted]

theorem step_answered (posting : s.phase = .posting)
    (accepted : s.control.accept runtime shipping.toWire (s.batch runtime shipping).1 = some control) (body : String) :
    step runtime shipping s (.answered body) = some (s.shipped runtime shipping control) := by
  rw [step, if_pos posting, accepted]

theorem step_refused (posting : s.phase = .posting)
    (refused : s.control.accept runtime shipping.toWire (s.batch runtime shipping).1 = none) (body : String) :
    step runtime shipping s (.answered body) =
      some (s.failed (shipping.what ++ " failed: 409 Conflict " ++ Text.trim body)) := by
  rw [step, if_pos posting, refused]
end

/-! One event, on a new chain. -/

def newChain {T : Type} : ControlPlane T := ⟨.genesis, []⟩

def allowed : AuditEvent := sampleEvent "allow" none

section
variable (runtime : Runtime)

/-- One event, under its number and after the hash of the one before it. -/
def allowedAt (seq : Nat) (prevHash : String) : ChainedAuditEvent := ⟨seq, prevHash, runtime.eventJson allowed⟩

def hashAt (seq : Nat) (prevHash : String) : String := auditHash runtime seq prevHash (runtime.eventJson allowed)

theorem accept_allowed {s : State ChainedAuditEvent} (pending : s.pending = [allowed]) :
    s.control.accept runtime auditShipping.toWire (s.batch runtime auditShipping).1 =
      if s.nextSeq = s.control.head.seq + 1 ∧ s.prevHash = s.control.head.hash then
        some ⟨⟨s.control.head.seq + 1, hashAt runtime s.nextSeq s.prevHash⟩,
          s.control.stored ++ [allowedAt runtime s.nextSeq s.prevHash]⟩
      else none := by
  have batch : s.batch runtime auditShipping =
      ([allowedAt runtime s.nextSeq s.prevHash], hashAt runtime s.nextSeq s.prevHash) := by
    rw [State.batch, State.taken, pending]
    rfl
  have some : (s.batch runtime auditShipping).1 ≠ [] := by
    rw [batch]
    exact List.cons_ne_nil _ _
  have accepted := accept_chainWith s.control some
  rw [State.batch] at batch ⊢
  rw [batch] at accepted ⊢
  exact accepted

/-- The first event is posted on a new chain. -/
def firstPost : State ChainedAuditEvent :=
  { phase := .posting, nextSeq := 1, prevHash := auditGenesis, pending := [allowed], channel := [], control := newChain
    persisted := none, recorded := [allowed] }

def oneStored : ControlPlane ChainedAuditEvent := ⟨⟨1, hashAt runtime 1 auditGenesis⟩, [allowedAt runtime 1 auditGenesis]⟩

def firstEvents : List Event := [.resume true, .record allowed, .turn, .turn]

theorem run_first :
    Transition.run (step runtime auditShipping) (initial newChain none) firstEvents = some firstPost := rfl

theorem firstPost_accepted :
    firstPost.control.accept runtime auditShipping.toWire (firstPost.batch runtime auditShipping).1 =
      some (oneStored runtime) := by
  rw [accept_allowed runtime rfl, if_pos ⟨rfl, rfl⟩]
  rfl

theorem run_answered :
    Transition.run (step runtime auditShipping) (initial newChain none) (firstEvents ++ [.answered ""]) =
      some (firstPost.shipped runtime auditShipping (oneStored runtime)) := by
  have answered := step_answered rfl (firstPost_accepted runtime) ""
  exact Transition.run_append_some.mpr ⟨_, run_first runtime, Transition.run_cons_some.mpr
    ⟨_, answered, Transition.run_nil ..⟩⟩

end

theorem one_event_is_chained :
    ∃ s, Transition.run (step sampleRuntime auditShipping) (initial newChain none) (firstEvents ++ [.answered ""]) =
        some s ∧ s.accepted = [allowed] ∧
      s.control.stored = (chainBatch sampleRuntime [allowed] 1 auditGenesis).1 ∧
      s.persisted = some ⟨1, hashAt sampleRuntime 1 auditGenesis⟩ := by
  have ran := run_answered sampleRuntime
  obtain ⟨stored, -, persisted⟩ := (audit_chain_ignores_batching sampleRuntime auditShipping).2.2 _ _ _ _ ran
  exact ⟨_, ran, rfl, stored, persisted⟩

/-! ## Once, and in order -/

section
variable {T : Type} {runtime : Runtime} {shipping : Shipping T} {s s' : State T} {event : Event}

/-- The shipper does not take over the control plane's head while it holds events that are in it. -/
def KnowsItsPlace (s : State T) : Event → Prop
  | .head true => s.unseen = 0
  | _ => True

/-- What was taken, what is still to be sent and what is queued are recorded events, in their order;
and with events taken unseen the shipper's number is behind, so nothing more is taken. -/
structure InOrder (s : State T) : Prop where
  order : (s.accepted ++ (s.pending.drop s.unseen ++ s.channel)).Sublist s.recorded
  within : s.unseen ≤ s.pending.length
  behind : 0 < s.unseen → s.nextSeq ≤ s.control.head.seq

theorem InOrder.unseen_eq_zero (inOrder : InOrder s) {control : ControlPlane T}
    (taken : Taken runtime shipping s control) : s.unseen = 0 := by
  by_contra some
  have behind := inOrder.behind (Nat.pos_of_ne_zero some)
  rw [taken.seq] at behind
  omega

theorem taken_append_drop (s : State T) : s.taken ++ s.pending.drop batchMax = s.pending :=
  List.take_append_drop ..

theorem drop_length_taken (s : State T) : s.pending.drop s.taken.length = s.pending.drop batchMax := by
  have whole := taken_append_drop s
  nth_rewrite 1 [← whole]
  exact List.drop_left

theorem InOrder.step (inOrder : InOrder s) (ready : Ready shipping s) (knows : KnowsItsPlace s event)
    (effect : Effect runtime shipping s event s') : InOrder s' := by
  cases effect with
  | record event =>
    refine ⟨?_, inOrder.within, inOrder.behind⟩
    dsimp only [State.record, Queue.trySend]
    split
    · have order := inOrder.order.append_right [event]
      rwa [List.append_assoc, List.append_assoc] at order
    · exact inOrder.order.trans (List.sublist_append_left ..)
  | resume fetched starting =>
    have none := ready.fresh starting
    refine ⟨?_, Nat.zero_le _, fun some => absurd some (Nat.lt_irrefl 0)⟩
    have order := inOrder.order
    rwa [none] at order
  | rebase asking =>
    refine ⟨?_, Nat.zero_le _, fun some => absurd some (Nat.lt_irrefl 0)⟩
    have order := inOrder.order
    rwa [show s.unseen = 0 from knows] at order
  | turn phase works => exact ⟨inOrder.order, inOrder.within, inOrder.behind⟩
  | take event channel phase waiting room works =>
    have order := inOrder.order
    rw [waiting] at order
    dsimp only [State.takeIn]
    split
    · refine ⟨?_, ?_, inOrder.behind⟩
      · dsimp only
        rw [List.drop_append_of_le_length inOrder.within, List.append_assoc]
        exact order
      · rw [List.length_append]
        exact Nat.le_add_right_of_le inOrder.within
    · refine ⟨.trans ?_ order, inOrder.within, inOrder.behind⟩
      exact (List.Sublist.append_left (List.sublist_cons_self ..) _).append_left _
  | lost error control posting taken =>
    have none := inOrder.unseen_eq_zero taken
    have some := taken_ne_nil (ready.working (.inr posting))
    have order := inOrder.order
    rw [none, List.drop_zero, ← taken_append_drop s, List.append_assoc, ← List.append_assoc] at order
    refine ⟨?_, ?_, fun _ => ?_⟩
    · dsimp only [State.failed]
      rw [drop_length_taken]
      exact order
    · exact List.length_take_le' ..
    · have := List.length_pos_of_ne_nil some
      dsimp only [State.failed]
      rw [taken.head, taken.seq]
      dsimp only
      omega
  | shipped body control posting taken =>
    have none := inOrder.unseen_eq_zero taken
    have order := inOrder.order
    rw [none, List.drop_zero, ← taken_append_drop s, List.append_assoc, ← List.append_assoc] at order
    exact ⟨order, Nat.zero_le _, fun some => absurd some (Nat.lt_irrefl 0)⟩
  | stop =>
    refine ⟨?_, Nat.zero_le _, fun some => absurd some (Nat.lt_irrefl 0)⟩
    rw [State.stop, List.drop_nil, List.append_nil, List.append_nil]
    exact (List.sublist_append_left ..).trans inOrder.order

theorem inOrder_initial (control : ControlPlane T) (persisted : Option AuditHead) :
    InOrder (initial control persisted) :=
  ⟨List.nil_sublist _, Nat.zero_le _, fun some => absurd some (Nat.lt_irrefl 0)⟩

/-- The event that the sink is given. -/
def Event.recorded : Event → Option AuditEvent
  | .record event => some event
  | _ => none

theorem effect_recorded (effect : Effect runtime shipping s event s') (turned : event.recorded = none) :
    s'.recorded = s.recorded := by
  cases effect with
  | record event => cases turned
  | _ => rfl

theorem run_recorded {events : List Event} (ready : Ready shipping s)
    (ran : Transition.run (step runtime shipping) s events = some s') :
    s'.recorded = s.recorded ++ events.filterMap Event.recorded := by
  induction events generalizing s with
  | nil =>
    cases ran
    exact (List.append_nil _).symm
  | cons event rest ih =>
    obtain ⟨middle, stepped, later⟩ := Transition.run_cons_some.mp ran
    have effect := step_effect ready stepped
    rw [ih (ready.step effect) later]
    cases given : event.recorded with
    | none => rw [effect_recorded effect given, List.filterMap_cons_none given]
    | some recorded =>
      rw [List.filterMap_cons_some given]
      cases event with
      | record event =>
        cases given
        cases stepped
        exact List.append_assoc ..
      | _ => cases given

theorem recorded_of_run {base : ControlPlane T} {file : Option AuditHead} {events : List Event}
    (ran : Transition.run (step runtime shipping) (initial base file) events = some s) :
    s.recorded = events.filterMap Event.recorded := by
  rw [run_recorded (ready_initial base file) ran]
  rfl

/-- The control plane's chain holds recorded events, each once and in their order. -/
def ShippedOnce (runtime : Runtime) (shipping : Shipping T) (base : ControlPlane T) (events : List Event)
    (s : State T) : Prop :=
  ∃ shipped, shipped.Sublist (events.filterMap Event.recorded) ∧
    s.control.stored =
      base.stored ++ (chainWith runtime shipping.make (base.head.seq + 1) base.head.hash shipped).1

/-- In every run in which the shipper takes over the control plane's head only when it holds nothing that
the control plane took unseen. -/
theorem events_are_shipped_once {base : ControlPlane T} {file : Option AuditHead} {events : List Event}
    (meets : Transition.Along (step runtime shipping) KnowsItsPlace (initial base file) events)
    (ran : Transition.run (step runtime shipping) (initial base file) events = some s) :
    ShippedOnce runtime shipping base events s := by
  obtain ⟨-, chained, inOrder⟩ := run_invariant_of_effect
    (fun s => Chained runtime shipping base file s ∧ InOrder s)
    (fun _ _ _ ready holds knows effect => ⟨holds.1.step ready effect, holds.2.step ready knows effect⟩)
    ⟨chained_initial base file, inOrder_initial base file⟩ meets ran
  refine ⟨s.accepted, ?_, chained.stored⟩
  rw [← recorded_of_run ran]
  exact (List.sublist_append_left ..).trans inOrder.order

end

section
variable (runtime : Runtime)

/-- An error of the network is no conflict. -/
theorem failed_sleeping (s : State ChainedAuditEvent) :
    s.failed "shipping audit events" = { s with phase := .sleeping } := by
  have other : Text.containsText "shipping audit events" "409" = false := by decide +kernel
  rw [State.failed, other, if_neg Bool.false_ne_true]

theorem failed_asking (s : State ChainedAuditEvent) :
    s.failed (auditShipping.what ++ " failed: 409 Conflict " ++ Text.trim "") = { s with phase := .asking } := by
  have conflict : Text.containsText (auditShipping.what ++ " failed: 409 Conflict " ++ Text.trim "") "409" = true := by
    decide +kernel
  rw [State.failed, conflict, if_pos rfl]

/-- The answer is lost, and the event posted once more. -/
def secondPost : State ChainedAuditEvent :=
  { firstPost with control := oneStored runtime, accepted := [allowed], unseen := 1 }

theorem run_second :
    Transition.run (step runtime auditShipping) firstPost
      [.lostResponse "shipping audit events", .turn, .turn, .turn, .turn] = some (secondPost runtime) := by
  have lost := step_lostResponse rfl (firstPost_accepted runtime) "shipping audit events"
  rw [failed_sleeping] at lost
  exact Transition.run_cons_some.mpr ⟨_, lost, rfl⟩

/-- The conflict is answered with the head, and the event posted again under the next number. -/
def thirdPost : State ChainedAuditEvent :=
  { secondPost runtime with nextSeq := 2, prevHash := hashAt runtime 1 auditGenesis, unseen := 0 }

def twoStored : ControlPlane ChainedAuditEvent :=
  ⟨⟨2, hashAt runtime 2 (hashAt runtime 1 auditGenesis)⟩,
    [allowedAt runtime 1 auditGenesis, allowedAt runtime 2 (hashAt runtime 1 auditGenesis)]⟩

theorem run_third :
    Transition.run (step runtime auditShipping) (secondPost runtime) [.answered "", .head true, .turn, .turn] =
      some (thirdPost runtime) := by
  have refused : (secondPost runtime).control.accept runtime auditShipping.toWire
      ((secondPost runtime).batch runtime auditShipping).1 = none := by
    rw [accept_allowed runtime rfl, if_neg fun matching => absurd (show 1 = 1 + 1 from matching.1) (by decide)]
  have answered := step_refused rfl refused ""
  rw [failed_asking] at answered
  exact Transition.run_cons_some.mpr ⟨_, answered, rfl⟩

theorem thirdPost_accepted :
    (thirdPost runtime).control.accept runtime auditShipping.toWire ((thirdPost runtime).batch runtime auditShipping).1 =
      some (twoStored runtime) := by
  rw [accept_allowed runtime rfl, if_pos ⟨rfl, rfl⟩]
  rfl
end

theorem one_event_is_shipped_once :
    ∃ s, Transition.run (step sampleRuntime auditShipping) (initial newChain none) (firstEvents ++ [.answered ""]) =
        some s ∧ s.control = oneStored sampleRuntime ∧
      ShippedOnce sampleRuntime auditShipping newChain (firstEvents ++ [.answered ""]) s := by
  have ran := run_answered sampleRuntime
  have knows : ∀ s : State ChainedAuditEvent, ∀ event ∈ firstEvents ++ [.answered ""], KnowsItsPlace s event := by
    intro s event member
    simp only [firstEvents, List.cons_append, List.nil_append, List.mem_cons, List.not_mem_nil, or_false] at member
    obtain rfl | rfl | rfl | rfl | rfl := member <;> trivial
  exact ⟨_, ran, rfl, events_are_shipped_once (Transition.along_of_forall knows _) ran⟩

/-- One event, recorded once, and twice in the chain. -/
theorem lost_answer_ships_an_event_twice :
    ¬ ∀ (events : List Event) (s : State ChainedAuditEvent),
      Transition.run (step sampleRuntime auditShipping) (initial newChain none) events = some s →
      ShippedOnce sampleRuntime auditShipping newChain events s := by
  intro once
  have answered := step_answered rfl (thirdPost_accepted sampleRuntime) ""
  have ran := Transition.run_append_some.mpr ⟨_, run_first sampleRuntime, Transition.run_append_some.mpr
    ⟨_, run_second sampleRuntime, Transition.run_append_some.mpr ⟨_, run_third sampleRuntime,
      Transition.run_cons_some.mpr ⟨_, answered, Transition.run_nil ..⟩⟩⟩⟩
  obtain ⟨shipped, recorded, stored⟩ := once _ _ ran
  have lengths := congrArg List.length stored
  have few : shipped.length ≤ 1 := recorded.length_le
  have filtered := List.length_filter_le auditShipping.admits shipped
  rw [List.length_append, length_chainWith auditShipping.toWire, Wire.texts, List.length_map] at lengths
  change 2 = 0 + (shipped.filter auditShipping.admits).length at lengths
  omega

end Skimasque.Audit
