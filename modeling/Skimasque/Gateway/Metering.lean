import Skimasque.Gateway.Stack

/-! Permits over time. A call takes its permit before the inner service runs, the tunnel carries it from
there on, and whichever way either of them ends, the permit goes back. -/

set_option autoImplicit false

namespace Skimasque.Gateway
open Library Engine
open Platform (Map)

/-- The decision that allowed the request, if a policy layer was there to make one. -/
def TunnelRequest.allowed (request : TunnelRequest) : Option Allowed := request.authorized.bind (·.decision)

/-- What the layer has attached to a call while the inner service runs. -/
structure Metered where
  permit : Option Permit
  limits : TunnelLimits
  deriving DecidableEq, Repr

/-- `Meter::call` as far as the call of the inner service. -/
def Quota.reserve (quota : Quota) (request : TunnelRequest) : Except Rejection Metered × Quota :=
  match request.allowed with
  | none => (.ok ⟨none, {}⟩, quota)
  | some allowed =>
    let key := limiterKey request allowed.policy
    let (limits, quota) := quota.tunnelLimits key allowed.limits
    match allowed.limits.concurrentConnections with
    | none => (.ok ⟨none, limits⟩, quota)
    | some max =>
      match quota.tryAcquire key max.toNat with
      | (none, quota) =>
        (.error ((Rejection.new 503 "the concurrent tunnel limit for this policy is reached").withProxyError
          "connection_limit_reached"), quota)
      | (some permit, quota) => (.ok ⟨some permit, limits⟩, quota)

/-- The rest of it, for an inner service that accepts. -/
def Metered.attach (metered : Metered) (accepted : Accepted) : Accepted :=
  ({ accepted with guards := accepted.guards ++ metered.permit.toList }).limitedBy metered.limits

def Quota.releaseAll (quota : Quota) (permits : List Permit) : Quota := permits.foldl Quota.release quota

theorem meter_eq (inner : Service) (request : TunnelRequest) (world : World) :
    meter inner request world =
      match world.quota.reserve request with
      | (.error rejection, quota) => (.error rejection, { world with quota })
      | (.ok metered, quota) =>
        match inner request { world with quota } with
        | (.ok accepted, after) => (.ok (metered.attach accepted), after)
        | (.error rejection, after) =>
          (.error rejection, { after with quota := after.quota.releaseAll metered.permit.toList }) := by
  have plain (accepted : Accepted) (limits : TunnelLimits) :
      Metered.attach ⟨none, limits⟩ accepted = accepted.limitedBy limits := by
    simp [Metered.attach]
  unfold meter Quota.reserve TunnelRequest.allowed
  cases request.authorized.bind (·.decision) with
  | none =>
    have untouched (accepted : Accepted) : Metered.attach ⟨none, {}⟩ accepted = accepted := by
      rw [plain]
      rfl
    dsimp only
    cases answered : inner request world with
    | mk result after =>
      cases result with
      | ok accepted => simp only [untouched]
      | error rejection => rfl
  | some allowed =>
    dsimp only
    cases allowed.limits.concurrentConnections with
    | none =>
      dsimp only
      cases answered : inner request _ with
      | mk result after =>
        cases result with
        | ok accepted => simp only [plain, Except.map]
        | error rejection => rfl
    | some max =>
      dsimp only
      cases Quota.tryAcquire _ _ _ with
      | mk acquired quota =>
        cases acquired with
        | none => rfl
        | some permit =>
          dsimp only
          cases inner request { world with quota } with
          | mk result after =>
            cases result with
            | ok accepted => rfl
            | error rejection => rfl

theorem reserve_snd (quota : Quota) (request : TunnelRequest) :
    (quota.reserve request).2 =
      match request.allowed with
      | none => quota
      | some allowed =>
        let key := limiterKey request allowed.policy
        let limited := (quota.tunnelLimits key allowed.limits).2
        match allowed.limits.concurrentConnections with
        | none => limited
        | some max => (limited.tryAcquire key max.toNat).2 := by
  unfold Quota.reserve
  cases request.allowed with
  | none => rfl
  | some allowed =>
    dsimp only
    cases allowed.limits.concurrentConnections with
    | none => rfl
    | some max =>
      dsimp only
      generalize Quota.tryAcquire _ _ _ = answer
      obtain ⟨acquired, after⟩ := answer
      cases acquired with
      | none => rfl
      | some permit => rfl

/-! ## Permits out and permits left -/

/-- Every permit that is out belongs to a semaphore of the table, and what a semaphore has left is what
it was made with less what is out. -/
structure Balanced (permits : Map Semaphore) (held : List Permit) : Prop where
  backed : ∀ permit ∈ held, permit.key ∈ permits
  balance : ∀ key semaphore, permits.lookup key = some semaphore →
    held.count ⟨key⟩ + semaphore.available = semaphore.size

theorem entryOrInsert_cases {β : Type} (table : Map β) (key : String) (value : β) :
    (∃ found, table.lookup key = some found ∧ entryOrInsert table key value = (found, table)) ∨
      table.lookup key = none ∧ entryOrInsert table key value = (value, table.insert key value) := by
  unfold entryOrInsert
  cases table.lookup key with
  | none => exact .inr ⟨rfl, rfl⟩
  | some found => exact .inl ⟨found, rfl, rfl⟩

section
variable {quota after : Quota} {held more : List Permit} {permit : Permit} {key : String} {size : Nat}

theorem Balanced.perm (balanced : Balanced quota.permits held) (same : held.Perm more) :
    Balanced quota.permits more := by
  refine ⟨fun permit member => balanced.backed permit (same.mem_iff.mpr member), fun key semaphore found => ?_⟩
  rw [← same.count_eq]
  exact balanced.balance key semaphore found

/-- A key that was never used has nothing out. -/
theorem Balanced.count_eq_zero (balanced : Balanced quota.permits held) (absent : quota.permits.lookup key = none) :
    held.count ⟨key⟩ = 0 := by
  rw [List.count_eq_zero]
  intro member
  have present := AList.lookup_isSome.mpr (balanced.backed ⟨key⟩ member)
  rw [absent] at present
  cases present

/-- Give the entry of one key a new number of permits left. -/
theorem Balanced.update {permits : Map Semaphore} {semaphore : Semaphore} (balanced : Balanced permits held)
    (others : ∀ other, other ≠ key → more.count ⟨other⟩ = held.count ⟨other⟩)
    (backed : ∀ permit ∈ more, permit.key = key ∨ permit ∈ held)
    (own : more.count ⟨key⟩ + semaphore.available = semaphore.size) :
    Balanced (permits.insert key semaphore) more := by
  refine ⟨fun permit member => ?_, fun other found there => ?_⟩
  · rw [AList.mem_insert]
    cases backed permit member with
    | inl same => exact .inl same
    | inr old => exact .inr (balanced.backed permit old)
  · by_cases same : other = key
    · subst same
      rw [AList.lookup_insert, Option.some.injEq] at there
      rw [← there]
      exact own
    · rw [AList.lookup_insert_ne same] at there
      rw [others other same]
      exact balanced.balance other found there

theorem tryAcquire_cases (balanced : Balanced quota.permits held) (key : String) (size : Nat) :
    ∃ semaphore table, entryOrInsert quota.permits key ⟨size, size⟩ = (semaphore, table) ∧
      Balanced table held ∧ table.lookup key = some semaphore ∧
      held.count ⟨key⟩ + semaphore.available = semaphore.size := by
  obtain ⟨found, there, entry⟩ | ⟨absent, entry⟩ := entryOrInsert_cases quota.permits key ⟨size, size⟩
  · exact ⟨found, quota.permits, entry, balanced, there, balanced.balance key found there⟩
  · have none := balanced.count_eq_zero absent
    refine ⟨⟨size, size⟩, _, entry, ?_, AList.lookup_insert _, by rw [none, Nat.zero_add]⟩
    refine balanced.update (fun other _ => rfl) (fun permit member => .inr member) ?_
    rw [none, Nat.zero_add]

theorem Balanced.tryAcquire (balanced : Balanced quota.permits held)
    (acquired : quota.tryAcquire key size = (some permit, after)) :
    Balanced after.permits (permit :: held) := by
  obtain ⟨semaphore, table, entry, kept, there, own⟩ := tryAcquire_cases balanced key size
  simp only [Quota.tryAcquire, entry] at acquired
  split at acquired
  · cases acquired
  · rename_i left
    cases acquired
    refine kept.update ?_ ?_ ?_
    · intro other differs
      exact List.count_cons_of_ne (by simpa using Ne.symm differs)
    · intro permit member
      cases List.mem_cons.mp member with
      | inl same => exact .inl (by rw [same])
      | inr old => exact .inr old
    · rw [List.count_cons_self]
      dsimp only
      omega

theorem Balanced.release (balanced : Balanced quota.permits (permit :: held)) :
    Balanced (quota.release permit).permits held := by
  have present := AList.lookup_isSome.mpr (balanced.backed permit (List.mem_cons_self ..))
  obtain ⟨semaphore, there⟩ := Option.isSome_iff_exists.mp present
  have own := balanced.balance permit.key semaphore there
  rw [List.count_cons_self] at own
  simp only [Quota.release, there]
  refine balanced.update ?_ (fun other member => .inr (List.mem_cons_of_mem _ member)) ?_
  · intro other differs
    exact (List.count_cons_of_ne fun same => differs (by rw [same])).symm
  · dsimp only
    omega

theorem Balanced.releaseAll {permits : List Permit} (balanced : Balanced quota.permits (permits ++ held)) :
    Balanced (quota.releaseAll permits).permits held := by
  induction permits generalizing quota with
  | nil => exact balanced
  | cons permit rest ih => exact ih balanced.release

end

/-! ## Calls and tunnels -/

namespace Metering

/-- The layer's tables, the calls that the inner service has not answered, and the tunnels that were
accepted and have not ended. -/
structure State where
  quota : Quota
  calls : List Metered
  tunnels : List Accepted

inductive Event where
  | call (request : TunnelRequest)
  | succeeds (call : Metered) (inner : Accepted)
  | fails (call : Metered)
  /-- The future of the call is dropped before it resolves. -/
  | cancelled (call : Metered)
  /-- The serving task lets go of the tunnel: the response could not be sent, the relay is over, the
  session was ended, or the task itself was dropped. -/
  | ended (tunnel : Accepted)

/-- What a call drops with it when there will be no tunnel. -/
def State.abandon (s : State) (call : Metered) : Option State :=
  if call ∈ s.calls then
    some { s with calls := s.calls.erase call, quota := s.quota.releaseAll call.permit.toList }
  else none

def step (s : State) : Event → Option State
  | .call request =>
    match s.quota.reserve request with
    | (.error _, quota) => some { s with quota }
    | (.ok metered, quota) => some { s with quota, calls := metered :: s.calls }
  | .succeeds call inner =>
    -- Nothing inside the quota layer holds a guard.
    if call ∈ s.calls ∧ inner.guards = [] then
      some { s with calls := s.calls.erase call, tunnels := call.attach inner :: s.tunnels }
    else none
  | .fails call => s.abandon call
  | .cancelled call => s.abandon call
  | .ended tunnel =>
    if tunnel ∈ s.tunnels then
      some { s with tunnels := s.tunnels.erase tunnel, quota := s.quota.releaseAll tunnel.guards }
    else none

def initial : State := ⟨⟨∅, ∅, ∅⟩, [], []⟩

variable {s s' : State}

theorem tunnelLimits_permits (quota : Quota) (key : String) (limits : Limits) :
    (quota.tunnelLimits key limits).2.permits = quota.permits := by
  have one (quota : Quota) (limiter : Quota → UInt64 → RateLimiter × Quota)
      (keeps : ∀ quota rate, (limiter quota rate).2.permits = quota.permits) (rate : Option UInt64) :
      (quota.limiterFor limiter rate).2.permits = quota.permits := by
    cases rate with
    | none => rfl
    | some rate => exact keeps quota rate
  unfold Quota.tunnelLimits
  dsimp only
  rw [one _ _ (fun _ _ => rfl), one _ _ (fun _ _ => rfl)]

def limitedTo (org : Option String) (policy : String) (limits : Limits) : TunnelRequest :=
  { databaseRequest with
    extensions := { tenantId := org }
    authorized := some (.fromDecision ⟨.name "db.example", 5432⟩ ⟨policy, "db.example:5432", none, limits, {}⟩) }

def oneConnection : Limits := { concurrentConnections := some 1 }

end Metering

/-! ## One key, one policy of one organisation -/

/-- An entry of the layer's tables. The tables only grow, so an entry is the object made for it. -/
inductive Shared where
  | permits (key : String)
  | bandwidth (key : String)
  | packets (key : String)
  deriving DecidableEq, Repr

def Shared.key : Shared → String
  | .permits key | .bandwidth key | .packets key => key

/-- The semaphore and the rate limiters that a call uses. -/
def TunnelRequest.selects (request : TunnelRequest) : List Shared :=
  match request.allowed with
  | none => []
  | some allowed =>
    let key := limiterKey request allowed.policy
    (allowed.limits.bandwidthBitsPerSec.map fun _ => .bandwidth key).toList ++
      (allowed.limits.packetsPerSec.map fun _ => .packets key).toList ++
      (allowed.limits.concurrentConnections.map fun _ => .permits key).toList

/-- The request comes from the organisation and was allowed by the policy. -/
structure TunnelRequest.AllowedBy (request : TunnelRequest) (org policy : String) : Prop where
  tenant : request.extensions.tenantId = some org
  policy : request.allowed.map (·.policy) = some policy

/-- Calls for the two policies have an object in common only if they are one policy of one organisation. -/
def NothingShared (org policy other otherPolicy : String) : Prop :=
  ∀ request otherRequest : TunnelRequest, request.AllowedBy org policy → otherRequest.AllowedBy other otherPolicy →
    ∀ object ∈ request.selects, object ∈ otherRequest.selects → org = other ∧ policy = otherPolicy

theorem mem_toList_map {α β : Type} {value found : α} {option : Option β} :
    found ∈ (option.map fun _ => value).toList ↔ found = value ∧ option.isSome := by
  cases option with
  | none => simp
  | some _ => simp

theorem mem_selects_iff {request : TunnelRequest} {allowed : Allowed} {object : Shared}
    (decided : request.allowed = some allowed) :
    object ∈ request.selects ↔
      (object = .bandwidth (limiterKey request allowed.policy) ∧ allowed.limits.bandwidthBitsPerSec.isSome) ∨
      (object = .packets (limiterKey request allowed.policy) ∧ allowed.limits.packetsPerSec.isSome) ∨
      (object = .permits (limiterKey request allowed.policy) ∧ allowed.limits.concurrentConnections.isSome) := by
  unfold TunnelRequest.selects
  rw [decided]
  simp only [List.mem_append, mem_toList_map, or_assoc]

theorem key_of_mem_selects {request : TunnelRequest} {allowed : Allowed} {object : Shared}
    (decided : request.allowed = some allowed) (selected : object ∈ request.selects) :
    object.key = limiterKey request allowed.policy := by
  obtain ⟨rfl, -⟩ | ⟨rfl, -⟩ | ⟨rfl, -⟩ := (mem_selects_iff decided).mp selected
  · rfl
  · rfl
  · rfl

section
variable (quota : Quota) (key other : String)

theorem entryOrInsert_lookup_ne {β : Type} (table : Map β) (value : β) (differs : other ≠ key) :
    (entryOrInsert table key value).2.lookup other = table.lookup other := by
  obtain ⟨found, -, entry⟩ | ⟨-, entry⟩ := entryOrInsert_cases table key value
  · rw [entry]
  · rw [entry]
    exact AList.lookup_insert_ne differs

theorem tunnelLimits_lookup (limits : Limits) :
    ((other = key → limits.bandwidthBitsPerSec = none) →
      (quota.tunnelLimits key limits).2.bandwidth.lookup other = quota.bandwidth.lookup other) ∧
    ((other = key → limits.packetsPerSec = none) →
      (quota.tunnelLimits key limits).2.packets.lookup other = quota.packets.lookup other) := by
  unfold Quota.tunnelLimits Quota.limiterFor Quota.bandwidthFor Quota.packetsFor
  dsimp only
  cases limits.bandwidthBitsPerSec <;> cases limits.packetsPerSec <;>
    simp +contextual [entryOrInsert_lookup_ne]

theorem tryAcquire_lookup {size : Nat} (differs : other ≠ key) :
    (quota.tryAcquire key size).2.permits.lookup other = quota.permits.lookup other := by
  have entered := entryOrInsert_lookup_ne key other quota.permits ⟨size, size⟩ differs
  unfold Quota.tryAcquire
  dsimp only
  split
  · exact entered
  · dsimp only
    rw [AList.lookup_insert_ne differs]
    exact entered

theorem tryAcquire_rates (size : Nat) : (quota.tryAcquire key size).2.bandwidth = quota.bandwidth ∧
    (quota.tryAcquire key size).2.packets = quota.packets := by
  unfold Quota.tryAcquire
  dsimp only
  split
  · exact ⟨rfl, rfl⟩
  · exact ⟨rfl, rfl⟩

/-- Every entry that a call makes or changes is one it selects. -/
theorem reserve_lookup (request : TunnelRequest) :
    (.bandwidth other ∉ request.selects →
      (quota.reserve request).2.bandwidth.lookup other = quota.bandwidth.lookup other) ∧
    (.packets other ∉ request.selects →
      (quota.reserve request).2.packets.lookup other = quota.packets.lookup other) ∧
    (.permits other ∉ request.selects →
      (quota.reserve request).2.permits.lookup other = quota.permits.lookup other) := by
  rw [reserve_snd]
  cases decided : request.allowed with
  | none => exact ⟨fun _ => rfl, fun _ => rfl, fun _ => rfl⟩
  | some allowed =>
    have rates := tunnelLimits_lookup quota (limiterKey request allowed.policy) other allowed.limits
    have permits := Metering.tunnelLimits_permits quota (limiterKey request allowed.policy) allowed.limits
    simp only [mem_selects_iff decided, reduceCtorEq, false_and, false_or, or_false, Shared.bandwidth.injEq,
      Shared.packets.injEq, Shared.permits.injEq, not_and, Option.not_isSome_iff_eq_none]
    cases allowed.limits.concurrentConnections with
    | none => exact ⟨rates.1, rates.2, fun _ => by rw [permits]⟩
    | some max =>
      have acquired := tryAcquire_rates (quota.tunnelLimits (limiterKey request allowed.policy) allowed.limits).2
        (limiterKey request allowed.policy) max.toNat
      refine ⟨fun unlimited => ?_, fun unlimited => ?_, fun differs => ?_⟩
      · rw [acquired.1, rates.1 unlimited]
      · rw [acquired.2, rates.2 unlimited]
      · have apart : other ≠ limiterKey request allowed.policy := fun same => Option.some_ne_none max (differs same)
        rw [tryAcquire_lookup _ _ _ apart, permits]

end

theorem limiterKey_of_tenant {request : TunnelRequest} {org : String} (tenant : request.extensions.tenantId = some org)
    (policy : String) : limiterKey request policy = org ++ "/" ++ policy := by
  unfold limiterKey
  rw [tenant]

/-- One organisation is named by the other's name and the start of the other's policy. -/
def Straddles (org policy other otherPolicy : String) : Prop :=
  ∃ part, org = other ++ "/" ++ part ∧ otherPolicy = part ++ "/" ++ policy

theorem key_eq_iff {org policy other otherPolicy : String} :
    org ++ "/" ++ policy = other ++ "/" ++ otherPolicy ↔
      (org = other ∧ policy = otherPolicy) ∨ Straddles org policy other otherPolicy ∨
        Straddles other otherPolicy org policy := by
  have lists (left right : String) : (left ++ "/" ++ right).toList = left.toList ++ '/' :: right.toList := by
    simp
  have straddles (org policy other otherPolicy : String) : Straddles org policy other otherPolicy ↔
      ∃ part, org.toList = other.toList ++ '/' :: part ∧ otherPolicy.toList = part ++ '/' :: policy.toList := by
    unfold Straddles
    constructor
    · intro ⟨part, long, short⟩
      exact ⟨part.toList, by rw [long, lists], by rw [short, lists]⟩
    · intro ⟨part, long, short⟩
      refine ⟨String.ofList part, ?_, ?_⟩
      · rw [← String.toList_inj, lists, String.toList_ofList, long]
      · rw [← String.toList_inj, lists, String.toList_ofList, short]
  rw [← String.toList_inj, lists, lists, Text.join_eq_join_iff, straddles, straddles, String.toList_inj,
    String.toList_inj]

theorem ne_of_straddles {org policy other otherPolicy : String} (straddles : Straddles org policy other otherPolicy) :
    org ≠ other := by
  obtain ⟨part, rfl, -⟩ := straddles
  intro same
  have lengths := congrArg String.length same
  simp only [String.length_append] at lengths
  have : "/".length = 1 := rfl
  omega

/-- Calls for two policies share an object exactly where one organisation's name runs into the other's
policy. -/
theorem nothing_shared_iff (org policy other otherPolicy : String) :
    NothingShared org policy other otherPolicy ↔
      ¬ (Straddles org policy other otherPolicy ∨ Straddles other otherPolicy org policy) := by
  constructor
  · intro apart straddles
    have same := key_eq_iff.mpr (.inr straddles)
    -- Requests limited to one connection each, of the two policies.
    have shared := apart (Metering.limitedTo (some org) policy Metering.oneConnection)
      (Metering.limitedTo (some other) otherPolicy Metering.oneConnection) ⟨rfl, rfl⟩ ⟨rfl, rfl⟩
      (.permits (org ++ "/" ++ policy)) (List.mem_singleton.mpr rfl) (List.mem_singleton.mpr (by rw [same]; rfl))
    cases straddles with
    | inl long => exact ne_of_straddles long shared.1
    | inr long => exact ne_of_straddles long shared.1.symm
  · intro apart request otherRequest mine theirs object selected selectedToo
    obtain ⟨allowed, decided, rfl⟩ := Option.map_eq_some_iff.mp mine.policy
    obtain ⟨otherAllowed, otherDecided, rfl⟩ := Option.map_eq_some_iff.mp theirs.policy
    have same : org ++ "/" ++ allowed.policy = other ++ "/" ++ otherAllowed.policy := by
      rw [← limiterKey_of_tenant mine.tenant, ← limiterKey_of_tenant theirs.tenant,
        ← key_of_mem_selects decided selected, ← key_of_mem_selects otherDecided selectedToo]
    cases key_eq_iff.mp same with
    | inl equal => exact equal
    | inr straddles => exact absurd straddles apart

/-- Organisation `a` with a policy `b/c`, and organisation `a/b` with a policy `c`: a tunnel of the one
uses up the only permit of the other. -/
theorem two_organisations_share_a_permit :
    (¬ ∀ org policy other otherPolicy, ¬ Text.isEmpty (Text.trim org) → ¬ Text.isEmpty (Text.trim other) →
      ¬ Text.isEmpty policy → ¬ Text.isEmpty otherPolicy → NothingShared org policy other otherPolicy) ∧
    ((((⟨∅, ∅, ∅⟩ : Quota).reserve (Metering.limitedTo (some "a") "b/c" Metering.oneConnection)).2.reserve
      (Metering.limitedTo (some "a/b") "c" Metering.oneConnection)).1.toOption = none) := by
  refine ⟨fun apart => ?_, by decide⟩
  have shared := apart "a" "b/c" "a/b" "c" (by decide) (by decide) (by decide) (by decide)
    (Metering.limitedTo (some "a") "b/c" Metering.oneConnection)
    (Metering.limitedTo (some "a/b") "c" Metering.oneConnection) ⟨rfl, rfl⟩ ⟨rfl, rfl⟩
    (.permits "a/b/c") (by decide) (by decide)
  exact absurd shared.1 (by decide)

end Skimasque.Gateway
