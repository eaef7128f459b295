import Mathlib.Data.Finset.Basic
import Skimasque.Library.Transition
import Skimasque.Library.Watch

/-! Ended sessions: the set the control-plane sync replaces, and the signal an open tunnel waits on. -/

set_option autoImplicit false

namespace Skimasque.Gateway.Revocation

open Library

/-- The session ids this gateway must refuse, shared by every tunnel. -/
abbrev Revocations := Watch.Cell (Finset String)

namespace Revocations

def new : Revocations := Watch.channel ∅

def replace (revocations : Revocations) (sids : Finset String) : Revocations :=
  revocations.sendIfModified fun current => if current = sids then (current, false) else (sids, true)

/-- One set after the other. -/
def replaceAll (revocations : Revocations) (sets : List (Finset String)) : Revocations := sets.foldl replace revocations

def isRevoked (revocations : Revocations) (sid : String) : Bool := sid ∈ revocations.value

end Revocations

inductive EndReason where
  | revoked
  | expired
  deriving DecidableEq, Repr

/-- Where the future of `ended` stands between two polls. -/
inductive Phase where
  | start
  | waiting
  /-- The sender is gone: the loop never resolves. -/
  | stalled
  | ended (reason : EndReason)
  deriving DecidableEq, Repr

structure TunnelEnd where
  sid : String
  rx : Watch.Receiver
  deadline : Option Nat
  phase : Phase
  deriving DecidableEq, Repr

def Revocations.track (revocations : Revocations) (sid : String) (deadline : Option Nat) : TunnelEnd :=
  ⟨sid, revocations.subscribe, deadline, .start⟩

namespace TunnelEnd

/-- One turn of the loop: look at the set, and wait for a change if the session is not in it. -/
def look (tunnel : TunnelEnd) (revocations : Revocations) : Bool × TunnelEnd :=
  let (set, rx) := revocations.borrowAndUpdate tunnel.rx
  if tunnel.sid ∈ set then (true, { tunnel with rx })
  else
    match revocations.changed rx with
    | (.closed, rx) => (false, { tunnel with rx, phase := .stalled })
    -- The version was just marked as seen, and nothing is sent within a poll.
    | (_, rx) => (false, { tunnel with rx, phase := .waiting })

/-- Poll the `revoked` branch; the flag says that it resolved. -/
def pollRevoked (tunnel : TunnelEnd) (revocations : Revocations) : Bool × TunnelEnd :=
  match tunnel.phase with
  | .start => tunnel.look revocations
  | .waiting =>
    match revocations.changed tunnel.rx with
    | (.ready, rx) => { tunnel with rx }.look revocations
    | (.closed, rx) => (false, { tunnel with rx, phase := .stalled })
    | (.pending, rx) => (false, { tunnel with rx })
  | .stalled | .ended _ => (false, tunnel)

/-- The branch a `select!` polls first; it picks one at random. -/
inductive Branch where
  | revoked
  | sleep
  deriving DecidableEq, Repr

/-- One wake-up of the future of `ended`, at time `now`. -/
def poll (tunnel : TunnelEnd) (revocations : Revocations) (now : Nat) (first : Branch) : TunnelEnd :=
  match tunnel.phase with
  | .ended _ => tunnel
  | _ =>
    let expired := tunnel.deadline.any (· ≤ now)
    if first = .sleep ∧ expired then { tunnel with phase := .ended .expired }
    else
      let (resolved, tunnel) := tunnel.pollRevoked revocations
      if resolved then { tunnel with phase := .ended .revoked }
      else if expired then { tunnel with phase := .ended .expired }
      else tunnel

def resolved (tunnel : TunnelEnd) : Bool :=
  match tunnel.phase with
  | .ended _ => true
  | _ => false

end TunnelEnd

/-! ## One tunnel and the set it watches -/

structure State where
  revocations : Revocations
  tunnel : TunnelEnd

inductive Event where
  | replace (sids : Finset String)
  /-- The last handle to the set is dropped. -/
  | close
  | wake (now : Nat) (first : TunnelEnd.Branch)
  deriving DecidableEq

/-- A dropped handle cannot be used to replace the set. -/
def step (s : State) : Event → Option State
  | .replace sids =>
    if s.revocations.closed then none else some { s with revocations := s.revocations.replace sids }
  | .close => some { s with revocations := { s.revocations with closed := true } }
  | .wake now first => some { s with tunnel := s.tunnel.poll s.revocations now first }

def tracked (revocations : Revocations) (sid : String) (deadline : Option Nat) : State :=
  ⟨revocations, revocations.track sid deadline⟩

def isWake : Event → Bool
  | .wake _ _ => true
  | _ => false

/-- The set in force after the events, from the set before them. -/
def installed (current : Finset String) : List Event → Finset String
  | [] => current
  | .replace sids :: rest => installed sids rest
  | .close :: rest => installed current rest
  | .wake _ _ :: rest => installed current rest

/-! ## What the tunnel knows between two wake-ups -/

/-- A waiting tunnel that has seen the current version did not find its session in it; a stalled one
never will. -/
structure Informed (s : State) : Prop where
  behind : s.tunnel.rx.seen ≤ s.revocations.version
  waiting : s.tunnel.phase = .waiting → s.tunnel.rx.seen = s.revocations.version →
    s.tunnel.sid ∉ s.revocations.value
  stalled : s.tunnel.phase = .stalled → s.revocations.closed = true ∧ s.tunnel.sid ∉ s.revocations.value

@[simp] theorem replace_value (revocations : Revocations) (sids : Finset String) :
    (revocations.replace sids).value = sids := by
  unfold Revocations.replace Watch.Cell.sendIfModified
  by_cases same : revocations.value = sids <;> simp [same]

@[simp] theorem replace_closed (revocations : Revocations) (sids : Finset String) :
    (revocations.replace sids).closed = revocations.closed := rfl

theorem replace_version (revocations : Revocations) (sids : Finset String) :
    (revocations.replace sids).version = revocations.version ∧ revocations.value = sids ∨
      (revocations.replace sids).version = revocations.version + 1 := by
  unfold Revocations.replace Watch.Cell.sendIfModified
  by_cases same : revocations.value = sids <;> simp [same]

/-- A receiver is behind any change made after it subscribed. -/
theorem replaceAll_version (revocations : Revocations) (sets : List (Finset String)) :
    revocations.version ≤ (revocations.replaceAll sets).version ∧
      ((revocations.replaceAll sets).version = revocations.version →
        (revocations.replaceAll sets).value = revocations.value) := by
  unfold Revocations.replaceAll
  induction sets generalizing revocations with
  | nil => exact ⟨Nat.le_refl _, fun _ => rfl⟩
  | cons sids rest ih =>
    obtain ⟨later, kept⟩ := ih (revocations.replace sids)
    rw [List.foldl_cons]
    rcases replace_version revocations sids with ⟨same, value⟩ | bumped
    · rw [same] at later kept
      refine ⟨later, fun unchanged => ?_⟩
      rw [kept unchanged, replace_value, value]
    · refine ⟨by omega, fun unchanged => ?_⟩
      omega

theorem changed_of_replaceAll {revocations : Revocations} {sets : List (Finset String)}
    (differs : (revocations.replaceAll sets).value ≠ revocations.value) :
    ((revocations.replaceAll sets).changed revocations.subscribe).1 = .ready := by
  have newer : revocations.subscribe.seen ≠ (revocations.replaceAll sets).version := by
    intro same
    exact differs ((replaceAll_version revocations sets).2 same.symm)
  rw [Watch.Cell.changed, if_pos newer]

namespace TunnelEnd

theorem look_cases (tunnel : TunnelEnd) (revocations : Revocations) :
    (tunnel.sid ∈ revocations.value ∧ tunnel.look revocations = (true, { tunnel with rx := ⟨revocations.version⟩ })) ∨
    (tunnel.sid ∉ revocations.value ∧ tunnel.look revocations =
      (false, { tunnel with rx := ⟨revocations.version⟩, phase := if revocations.closed then .stalled else .waiting })) := by
  by_cases listed : tunnel.sid ∈ revocations.value
  · exact .inl ⟨listed, by simp [look, Watch.Cell.borrowAndUpdate, listed]⟩
  · refine .inr ⟨listed, ?_⟩
    cases closed : revocations.closed <;>
      simp [look, Watch.Cell.borrowAndUpdate, Watch.Cell.changed, listed, closed]

/-- What a poll of the `revoked` branch makes of the tunnel: it resolves exactly when the current set
lists the session, and otherwise leaves a tunnel that knows it does not. -/
structure PollsTo (s : State) (polled : Bool × TunnelEnd) : Prop where
  resolves : polled.1 = decide (s.tunnel.sid ∈ s.revocations.value)
  sid : polled.2.sid = s.tunnel.sid
  deadline : polled.2.deadline = s.tunnel.deadline
  behind : polled.2.rx.seen ≤ s.revocations.version
  informed : polled.1 = false → polled.2.resolved = false ∧ Informed { s with tunnel := polled.2 }

theorem look_pollsTo (s : State) (rx : Watch.Receiver) :
    PollsTo s ({ s.tunnel with rx }.look s.revocations) := by
  rcases look_cases { s.tunnel with rx } s.revocations with ⟨listed, found⟩ | ⟨unlisted, found⟩
  · rw [found]
    exact ⟨by simpa using listed, rfl, rfl, Nat.le_refl _, by simp⟩
  · rw [found]
    cases closed : s.revocations.closed with
    | true =>
      exact ⟨by simpa using unlisted, rfl, rfl, Nat.le_refl _,
        fun _ => ⟨rfl, Nat.le_refl _, fun _ _ => unlisted, fun _ => ⟨closed, unlisted⟩⟩⟩
    | false =>
      exact ⟨by simpa using unlisted, rfl, rfl, Nat.le_refl _,
        fun _ => ⟨rfl, Nat.le_refl _, fun _ _ => unlisted, by simp⟩⟩

theorem pollRevoked_pollsTo {s : State} (informed : Informed s) (pending : s.tunnel.resolved = false) :
    PollsTo s (s.tunnel.pollRevoked s.revocations) := by
  cases phase : s.tunnel.phase with
  | start =>
    simp only [pollRevoked, phase]
    exact look_pollsTo s s.tunnel.rx
  | waiting =>
    simp only [pollRevoked, phase, Watch.Cell.changed]
    -- Without a new version nothing is looked at, and nothing needs to be: the set is the one last seen.
    by_cases seen : s.tunnel.rx.seen = s.revocations.version
    · have unlisted := informed.waiting phase seen
      cases closed : s.revocations.closed with
      | true =>
        simp only [seen, ne_eq, not_true_eq_false, ↓reduceIte]
        exact ⟨by simpa using unlisted, rfl, rfl, informed.behind,
          fun _ => ⟨rfl, informed.behind, fun _ _ => unlisted, fun _ => ⟨closed, unlisted⟩⟩⟩
      | false =>
        simp only [seen, ne_eq, not_true_eq_false, ↓reduceIte, Bool.false_eq_true]
        exact ⟨by simpa using unlisted, rfl, rfl, informed.behind,
          fun _ => ⟨rfl, informed.behind, fun _ _ => unlisted, by simp⟩⟩
    · simp only [ne_eq, seen, not_false_eq_true, ↓reduceIte]
      rw [← phase]
      exact look_pollsTo s ⟨s.revocations.version⟩
  | stalled =>
    simp only [pollRevoked, phase]
    exact ⟨by simpa using (informed.stalled phase).2, rfl, rfl, informed.behind, fun _ => ⟨pending, informed⟩⟩
  | ended reason => simp [resolved, phase] at pending

theorem poll_pending {tunnel : TunnelEnd} (pending : tunnel.resolved = false)
    (revocations : Revocations) (now : Nat) (first : Branch) :
    tunnel.poll revocations now first =
      if first = .sleep ∧ tunnel.deadline.any (· ≤ now) then { tunnel with phase := .ended .expired }
      else if (tunnel.pollRevoked revocations).1 then
        { (tunnel.pollRevoked revocations).2 with phase := .ended .revoked }
      else if tunnel.deadline.any (· ≤ now) then
        { (tunnel.pollRevoked revocations).2 with phase := .ended .expired }
      else (tunnel.pollRevoked revocations).2 := by
  unfold poll
  cases phase : tunnel.phase with
  | ended reason => simp [resolved, phase] at pending
  | _ => rfl

theorem poll_resolved {tunnel : TunnelEnd} (done : tunnel.resolved = true)
    (revocations : Revocations) (now : Nat) (first : Branch) :
    tunnel.poll revocations now first = tunnel := by
  unfold resolved at done
  unfold poll
  cases phase : tunnel.phase with
  | ended reason => rfl
  | _ => simp [phase] at done

theorem poll_informed {s : State} (informed : Informed s) (now : Nat) (first : Branch) :
    Informed { s with tunnel := s.tunnel.poll s.revocations now first } ∧
      (s.tunnel.poll s.revocations now first).sid = s.tunnel.sid ∧
      (s.tunnel.poll s.revocations now first).deadline = s.tunnel.deadline := by
  cases pending : s.tunnel.resolved with
  | true =>
    rw [poll_resolved pending]
    exact ⟨informed, rfl, rfl⟩
  | false =>
    have polled := pollRevoked_pollsTo informed pending
    rw [poll_pending pending]
    split
    · exact ⟨⟨informed.behind, by simp, by simp⟩, rfl, rfl⟩
    split
    · exact ⟨⟨polled.behind, by simp, by simp⟩, polled.sid, polled.deadline⟩
    split
    · exact ⟨⟨polled.behind, by simp, by simp⟩, polled.sid, polled.deadline⟩
    · rename_i unresolved _
      exact ⟨(polled.informed (Bool.eq_false_iff.mpr unresolved)).2, polled.sid, polled.deadline⟩

/-- An open tunnel that wakes ends as revoked exactly when the current set lists its session and its
deadline does not get in first. -/
theorem poll_revoked_iff {s : State} (informed : Informed s) (pending : s.tunnel.resolved = false)
    (now : Nat) (first : Branch) :
    (s.tunnel.poll s.revocations now first).phase = .ended .revoked ↔
      s.tunnel.sid ∈ s.revocations.value ∧ ∀ deadline ∈ s.tunnel.deadline, now < deadline ∨
        first = .revoked := by
  have polled := pollRevoked_pollsTo informed pending
  have late : s.tunnel.deadline.any (· ≤ now) = true ↔ ∃ deadline ∈ s.tunnel.deadline, deadline ≤ now := by
    cases s.tunnel.deadline <;> simp
  have inTime : (∀ deadline ∈ s.tunnel.deadline, now < deadline ∨ first = .revoked) ↔
      ¬ (first = .sleep ∧ s.tunnel.deadline.any (· ≤ now) = true) := by
    rw [late]
    cases first <;> simp
  rw [inTime, poll_pending pending]
  split
  · rename_i slept
    simp [slept]
  rename_i notSlept
  split
  · rename_i resolves
    rw [polled.resolves, decide_eq_true_eq] at resolves
    simp only [true_iff]
    exact ⟨resolves, notSlept⟩
  · rename_i unresolved
    have stays := (polled.informed (Bool.eq_false_iff.mpr unresolved)).1
    rw [polled.resolves, decide_eq_true_eq] at unresolved
    constructor
    · intro ended
      split at ended
      · cases ended
      · simp [resolved, ended] at stays
    · intro ⟨listed, _⟩
      exact absurd listed unresolved

end TunnelEnd

theorem step_informed (s : State) (event : Event) (s' : State) (informed : Informed s)
    (stepped : step s event = some s') :
    Informed s' := by
  cases event with
  | replace sids =>
    simp only [step] at stepped
    split at stepped
    · cases stepped
    cases stepped
    rename_i isOpen
    have behind := informed.behind
    refine ⟨?_, ?_, fun stalls => absurd (informed.stalled stalls).1 isOpen⟩
    · rcases replace_version s.revocations sids with ⟨same, _⟩ | bumped <;> simp only [] <;> omega
    -- A replace by the same set is not a change; any other leaves the receiver behind.
    · intro waits seen
      rcases replace_version s.revocations sids with ⟨same, kept⟩ | bumped
      · rw [replace_value, ← kept]
        exact informed.waiting waits (seen.trans same)
      · simp only [] at seen
        omega
  | close =>
    cases stepped
    exact ⟨informed.behind, informed.waiting, fun stalls => ⟨rfl, (informed.stalled stalls).2⟩⟩
  | wake now first =>
    cases stepped
    exact (TunnelEnd.poll_informed informed now first).1

theorem tracked_informed (revocations : Revocations) (sid : String) (deadline : Option Nat) :
    Informed (tracked revocations sid deadline) :=
  ⟨Nat.le_refl _, by simp [tracked, Revocations.track], by simp [tracked, Revocations.track]⟩

/-! ## Whole runs -/

/-- In the run of `events` from `start`, a replace installs `sids` while the tunnel is open, the events
`between` do not wake the tunnel, and the wake-up that follows leaves `woken`. -/
def NextWake (start : State) (events : List Event) (sids : Finset String) (between : List Event)
    (now : Nat) (first : TunnelEnd.Branch) (woken : State) : Prop :=
  ∃ before after opened, events = before ++ .replace sids :: between ++ .wake now first :: after ∧
    (∀ event ∈ between, isWake event = false) ∧
    Transition.run step start before = some opened ∧ opened.tunnel.resolved = false ∧
    Transition.run step start (before ++ .replace sids :: between ++ [.wake now first]) = some woken

def NoRevocationMissed (start : State) (events : List Event) : Prop :=
  ∀ sids between now first woken, NextWake start events sids between now first woken →
    start.tunnel.sid ∈ sids → woken.tunnel.phase = .ended .revoked

theorem run_between {s s' : State} {between : List Event}
    (quiet : ∀ event ∈ between, isWake event = false)
    (ran : Transition.run step s between = some s') :
    s'.tunnel = s.tunnel ∧ s'.revocations.value = installed s.revocations.value between := by
  induction between generalizing s with
  | nil =>
    cases ran
    exact ⟨rfl, rfl⟩
  | cons event rest ih =>
    obtain ⟨middle, stepped, later⟩ := Transition.run_cons_some.mp ran
    obtain ⟨sameTunnel, value⟩ := ih (fun e member => quiet e (List.mem_cons_of_mem _ member)) later
    cases event with
    | replace sids =>
      simp only [step] at stepped
      split at stepped <;> cases stepped
      exact ⟨sameTunnel, by rw [value, replace_value, installed]⟩
    | close =>
      cases stepped
      exact ⟨sameTunnel, value⟩
    | wake now first => exact absurd (quiet _ (List.mem_cons_self ..)) (by simp [isWake])

theorem step_sid {s s' : State} {event : Event} (informed : Informed s)
    (stepped : step s event = some s') :
    s'.tunnel.sid = s.tunnel.sid ∧ s'.tunnel.deadline = s.tunnel.deadline := by
  cases event with
  | replace sids =>
    simp only [step] at stepped
    split at stepped <;> cases stepped
    exact ⟨rfl, rfl⟩
  | close =>
    cases stepped
    exact ⟨rfl, rfl⟩
  | wake now first =>
    cases stepped
    exact (TunnelEnd.poll_informed informed now first).2

/-- Along a run the tunnel stays the same tunnel and knows what it has seen. -/
theorem run_informed {start s : State} {events : List Event} (informed : Informed start)
    (ran : Transition.run step start events = some s) :
    Informed s ∧ s.tunnel.sid = start.tunnel.sid ∧ s.tunnel.deadline = start.tunnel.deadline := by
  refine Transition.run_invariant
    (fun s => Informed s ∧ s.tunnel.sid = start.tunnel.sid ∧ s.tunnel.deadline = start.tunnel.deadline)
    ?_ ⟨informed, rfl, rfl⟩ ran
  intro s event s' ⟨known, sid, deadline⟩ stepped
  have same := step_sid known stepped
  exact ⟨step_informed s event s' known stepped, same.1.trans sid, same.2.trans deadline⟩

theorem nextWake_revoked_iff {start woken : State} {events between : List Event}
    {sids : Finset String} {now : Nat} {first : TunnelEnd.Branch} (informed : Informed start)
    (wakes : NextWake start events sids between now first woken) :
    woken.tunnel.phase = .ended .revoked ↔ start.tunnel.sid ∈ installed sids between ∧
      ∀ deadline ∈ start.tunnel.deadline, now < deadline ∨ first = .revoked := by
  obtain ⟨before, after, opened, -, quiet, ranBefore, pending, ran⟩ := wakes
  rw [List.append_assoc] at ran
  obtain ⟨opened', ranBefore', ranReplace⟩ := Transition.run_append_some.mp ran
  cases ranBefore.symm.trans ranBefore'
  obtain ⟨waiting, ranBetween, ranWake⟩ := Transition.run_append_some.mp ranReplace
  obtain ⟨replaced, stepped, ranQuiet⟩ := Transition.run_cons_some.mp ranBetween
  obtain ⟨_, wakeStep, last⟩ := Transition.run_cons_some.mp ranWake
  cases last
  cases wakeStep
  -- Nothing polls the tunnel between the replace and the wake-up: it finds the set installed last.
  have ranAll := Transition.run_append_some.mpr ⟨opened, ranBefore, ranBetween⟩
  obtain ⟨known, sid, deadline⟩ := run_informed informed ranAll
  simp only [step] at stepped
  split at stepped <;> cases stepped
  obtain ⟨sameTunnel, value⟩ := run_between quiet ranQuiet
  rw [TunnelEnd.poll_revoked_iff known (by rw [sameTunnel]; exact pending), sid, deadline, value, replace_value]

/-- An open tunnel misses no revocation of a run exactly when every set that lists its session is
still listing it, replaced or not, at the tunnel's next wake-up, and no deadline gets in first there. -/
theorem no_revocation_missed_iff (revocations : Revocations) (sid : String) (deadline : Option Nat)
    (events : List Event) :
    NoRevocationMissed (tracked revocations sid deadline) events ↔
      ∀ sids between now first woken,
        NextWake (tracked revocations sid deadline) events sids between now first woken → sid ∈ sids →
        sid ∈ installed sids between ∧ ∀ limit ∈ deadline, now < limit ∨ first = .revoked := by
  have informed := tracked_informed revocations sid deadline
  constructor
  · intro none sids between now first woken wakes listed
    exact (nextWake_revoked_iff informed wakes).mp (none sids between now first woken wakes listed)
  · intro kept sids between now first woken wakes listed
    exact (nextWake_revoked_iff informed wakes).mpr (kept sids between now first woken wakes listed)

/-- Revoked and dropped from the list between two wake-ups: the tunnel stays open. -/
theorem dropped_revocation_missed :
    ¬ NoRevocationMissed (tracked Revocations.new "sess_a" none)
      [.wake 0 .revoked, .replace {"sess_a"}, .replace ∅, .wake 1 .revoked] := by
  intro none
  have ended := none {"sess_a"} [.replace ∅] 1 .revoked _
    ⟨[.wake 0 .revoked], [], _, rfl, by decide, rfl, rfl, rfl⟩ (by decide)
  revert ended
  decide

end Skimasque.Gateway.Revocation
