import Skimasque.Gateway.Proxy

/-! The layers of a gateway, each around an inner service: identify the workload, enforce the policy, meter what the
policy limits. The deployed stack is all three around the proxies. -/

set_option autoImplicit false

namespace Skimasque.Gateway
open Library Library.Address Library.History Engine Skimasque.Core
open Platform (Map TenantSnapshot)

/-! ## Identity -/

/-- `Identify::call`: no bearer token is 407, one that does not verify is 403. -/
def identify (oracles : Oracles) (inner : Service) : Service := fun request world =>
  match request.bearerToken with
  | none => (.error (.proxyAuthRequired "Bearer"), world)
  | some token =>
    let answer := oracles.verify world.calls token
    let world := world.log (.verify token answer)
    match answer with
    | .ok identity =>
      inner { request with extensions := { request.extensions with workload := some identity } } world
    | .error reason =>
      let rejection := Rejection.new 403 ("workload identity token rejected: " ++ reason)
      (.error (rejection.withProxyError "http_request_denied"), world)

/-! ## Policy -/

inductive Mode where
  | enforce
  | observe
  deriving DecidableEq, Repr

/-- Where the policy is read from; the value is the one in force when the request comes by. -/
inductive PolicySource where
  | single (set : PolicySet)
  | tenants (snapshot : TenantSnapshot)

/-- The service a `PolicyLayer` makes, less the service inside. -/
structure Enforce where
  policies : PolicySource
  mode : Mode
  audit : Bool

def policyTransport : Protocol → Transport
  | .connectUdp => .udp
  | _ => .tcp

def policyDestination (target : Target) : Engine.Destination where
  host := match target.host with
    | .name name => .name (Text.toAsciiLowercase name)
    | .ip ip => .ip ip
  port := target.port

def denialRejection (denied : Denied) : Rejection :=
  let detail := match denied.reason, denied.policy with
    | .policyMismatch _ _, _ | .baseline _ _, _ => denied.reason.summary
    | _, some policy =>
      "policy \"" ++ policy ++ "\": " ++ denied.reason.summary ++ " suggested rule: " ++ denied.suggestedRule
    | _, none => denied.reason.summary ++ " suggested rule: " ++ denied.suggestedRule
  (Rejection.new 403 detail).withProxyError "destination_prohibited"

def tenantRejection (detail : String) : Rejection :=
  (Rejection.new 403 detail).withProxyError "http_request_denied"

/-- The one set the request may be evaluated against, with its organisation in tenant mode. -/
def PolicySource.choose (source : PolicySource) (request : TunnelRequest) :
    Except Rejection (PolicySet × Option String) :=
  match source with
  | .single set => .ok (set, none)
  | .tenants snapshot =>
    match request.extensions.tenantId with
    | none => .error (tenantRejection "no organisation resolved for this request")
    | some tenantId =>
      match snapshot.resolveOrg tenantId with
      | none => .error (tenantRejection "organisation is not served by this gateway")
      | some tenant => .ok (tenant.policy, some tenantId)

def requestContext (request : TunnelRequest) (target : Target) : RequestContext where
  workload := request.extensions.workload.getD {}
  application := request.application
  transport := policyTransport request.protocol
  destination := policyDestination target
  requestedPolicy := request.requestedPolicy

def AuditEvent.fromDecision (decision : Decision) (protocol application destination client : String)
    (identity : WorkloadIdentity) : AuditEvent :=
  match decision with
  | .allow allowed =>
    { decision := "allow", protocol, application, destination, client, identity,
      policy := some allowed.policy, rule := some allowed.rule }
  | .deny denied =>
    { decision := "deny", protocol, application, destination, client, identity,
      policy := denied.policy, reason := some denied.reason.summary,
      suggestedRule := some denied.suggestedRule }

def auditEvent (request : TunnelRequest) (target : Target) (decision : Decision)
    (orgId : Option String) : AuditEvent :=
  let ctx := requestContext request target
  { AuditEvent.fromDecision decision request.protocol.upgradeToken ctx.application target.text request.client.text
      ctx.workload with
    requestedPolicy := ctx.requestedPolicy, orgId }

def World.record (world : World) (event : AuditEvent) : World :=
  { world with audit := world.audit ++ [event] }

def Enforce.call (layer : Enforce) (inner : Service) : Service := fun request world =>
  match request.target with
  | none => (.error (.notImplemented "policy enforcement covers connect-udp and connect-tcp only"), world)
  | some target =>
    match layer.policies.choose request with
    | .error rejection => (.error rejection, world)
    | .ok (policies, orgId) =>
      let decision := policies.evaluate (requestContext request target)
      match layer.mode with
      -- Observed, not enforced: only the proxy's own floor is left.
      | .observe => inner (request.authorize (.trusting target)) world
      | .enforce =>
        -- The decision is recorded before it is acted on, whatever stops the tunnel later.
        let world := if layer.audit then world.record (auditEvent request target decision orgId) else world
        match decision with
        | .allow allowed => inner (request.authorize (.fromDecision target allowed)) world
        | .deny denied => (.error (denialRejection denied), world)

/-! ## Quota -/

/-- `HashMap::entry(key).or_insert(value)`. -/
def entryOrInsert {β : Type} (table : Map β) (key : String) (value : β) : β × Map β :=
  match table.lookup key with
  | some found => (found, table)
  | none => (value, table.insert key value)

namespace Quota

def bandwidthFor (quota : Quota) (key : String) (bitsPerSec : UInt64) : RateLimiter × Quota :=
  let (rate, bandwidth) := entryOrInsert quota.bandwidth key bitsPerSec
  (⟨key, rate⟩, { quota with bandwidth })

def packetsFor (quota : Quota) (key : String) (packetsPerSec : UInt64) : RateLimiter × Quota :=
  let (rate, packets) := entryOrInsert quota.packets key packetsPerSec
  (⟨key, rate⟩, { quota with packets })

/-- A limit that is not set makes no limiter. -/
def limiterFor (quota : Quota) (limiter : Quota → UInt64 → RateLimiter × Quota) :
    Option UInt64 → Option RateLimiter × Quota
  | none => (none, quota)
  | some rate =>
    let (made, quota) := limiter quota rate
    (some made, quota)

def tunnelLimits (quota : Quota) (key : String) (limits : Limits) : TunnelLimits × Quota :=
  let (bandwidth, quota) := quota.limiterFor (·.bandwidthFor key ·) limits.bandwidthBitsPerSec
  let (packetRate, quota) := quota.limiterFor (·.packetsFor key ·) limits.packetsPerSec
  ({ bandwidth, packetRate, totalBytes := limits.totalBytes }, quota)

/-- `Semaphore::try_acquire_owned` on the semaphore of the key. -/
def tryAcquire (quota : Quota) (key : String) (size : Nat) : Option Permit × Quota :=
  let (semaphore, permits) := entryOrInsert quota.permits key ⟨size, size⟩
  if semaphore.available = 0 then (none, { quota with permits })
  else
    let taken := { semaphore with available := semaphore.available - 1 }
    (some ⟨key⟩, { quota with permits := permits.insert key taken })

/-- A permit that is dropped goes back. -/
def release (quota : Quota) (permit : Permit) : Quota :=
  match quota.permits.lookup permit.key with
  | none => quota
  | some semaphore =>
    let returned := { semaphore with available := semaphore.available + 1 }
    { quota with permits := quota.permits.insert permit.key returned }

end Quota

def limiterKey (request : TunnelRequest) (policy : String) : String :=
  match request.extensions.tenantId with
  | some scope => scope ++ "/" ++ policy
  | none => policy

def Accepted.limitedBy (accepted : Accepted) (limits : TunnelLimits) : Accepted :=
  if limits.isEmpty then accepted else accepted.withLimits limits

/-- `Meter::call`. A permit is held by the tunnel, or dropped with the call that does not open one. -/
def meter (inner : Service) : Service := fun request world =>
  match request.authorized.bind (·.decision) with
  | none => inner request world
  | some allowed =>
    let key := limiterKey request allowed.policy
    -- The limiters exist from here on, even if no permit is left.
    let (limits, quota) := world.quota.tunnelLimits key allowed.limits
    match allowed.limits.concurrentConnections with
    | none =>
      let (result, world) := inner request { world with quota }
      (result.map (·.limitedBy limits), world)
    | some max =>
      match quota.tryAcquire key max.toNat with
      | (none, quota) =>
        (.error ((Rejection.new 503 "the concurrent tunnel limit for this policy is reached").withProxyError
          "connection_limit_reached"), { world with quota })
      | (some permit, quota) =>
        match inner request { world with quota } with
        | (.ok accepted, world) => (.ok ((accepted.hold permit).limitedBy limits), world)
        | (.error rejection, world) => (.error rejection, { world with quota := world.quota.release permit })

/-- Identity, policy and quota around the proxies. -/
def stack (oracles : Oracles) (layer : Enforce) (dispatch : Dispatch) : Service :=
  identify oracles (layer.call (meter (dispatch.call oracles)))

/-! ## Failing closed -/

section
variable {oracles : Oracles} {inner : Service} {request : TunnelRequest} {world after : World}
  {result : Except Rejection Accepted}

/-- A layer that rejects on its own leaves the log as it was. -/
structure TurnedAway (before after : World) (result : Except Rejection Accepted) : Prop where
  calls : after.calls = before.calls
  rejects : ∃ rejection, result = .error rejection

theorem meter_cases (called : meter inner request world = (result, after)) :
    TurnedAway world after result ∨
      ∃ start answer finish, inner request start = (answer, finish) ∧ start.calls = world.calls ∧
        after.calls = finish.calls ∧
        ∀ accepted, result = .ok accepted → ∃ granted, answer = .ok granted ∧
          accepted.kind = granted.kind := by
  have sameKind (granted : Accepted) (limits : TunnelLimits) : (granted.limitedBy limits).kind = granted.kind := by
    unfold Accepted.limitedBy
    split <;> rfl
  unfold meter at called
  split at called
  · exact .inr ⟨world, result, after, called, rfl, rfl, fun accepted ok => ⟨accepted, ok, rfl⟩⟩
  · rename_i allowed decided
    dsimp only at called
    generalize world.quota.tunnelLimits (limiterKey request allowed.policy) allowed.limits = limited at called
    obtain ⟨limits, quota⟩ := limited
    split at called
    · cases called
      refine .inr ⟨{ world with quota }, _, _, rfl, rfl, rfl, fun accepted ok => ?_⟩
      obtain ⟨granted, answered, rfl⟩ := Result.map_eq_ok_iff.mp ok
      exact ⟨granted, answered, sameKind granted _⟩
    · split at called
      · cases called
        exact .inl ⟨rfl, _, rfl⟩
      · split at called
        · rename_i granted finish answered
          cases called
          refine .inr ⟨_, _, _, answered, rfl, rfl, fun accepted ok => ?_⟩
          cases ok
          exact ⟨granted, rfl, sameKind (granted.hold _) _⟩
        · rename_i rejection finish answered
          cases called
          exact .inr ⟨_, _, _, answered, rfl, rfl, fun _ ok => by cases ok⟩

/-- In enforce mode the inner service is called for an allow and for nothing else. -/
theorem enforce_cases {set : PolicySet} {audit : Bool}
    (called : Enforce.call ⟨.single set, .enforce, audit⟩ inner request world = (result, after)) :
    TurnedAway world after result ∨
      ∃ target allowed start, request.target = some target ∧
        set.evaluate (requestContext request target) = .allow allowed ∧ start.calls = world.calls ∧
        inner (request.authorize (.fromDecision target allowed)) start = (result, after) := by
  unfold Enforce.call at called
  split at called
  · cases called
    exact .inl ⟨rfl, _, rfl⟩
  · rename_i target targeted
    dsimp only [PolicySource.choose] at called
    split at called
    · rename_i allowed granted
      refine .inr ⟨target, allowed, _, targeted, granted, ?_, called⟩
      split <;> rfl
    · cases called
      refine .inl ⟨?_, _, rfl⟩
      split <;> rfl

theorem identify_cases (called : identify oracles inner request world = (result, after)) :
    (request.bearerToken = none ∧ TurnedAway world after result) ∨
      ∃ token, request.bearerToken = some token ∧
        ((∃ reason, TurnedAway (world.log (.verify token (.error reason))) after result) ∨
          ∃ identity,
            inner { request with extensions := { request.extensions with workload := some identity } }
              (world.log (.verify token (.ok identity))) = (result, after)) := by
  unfold identify at called
  split at called
  · rename_i absent
    cases called
    exact .inl ⟨absent, rfl, _, rfl⟩
  · rename_i token presented
    refine .inr ⟨token, presented, ?_⟩
    dsimp only at called
    split at called
    · rename_i identity verified
      rw [verified] at called
      exact .inr ⟨identity, called⟩
    · rename_i reason refused
      rw [refused] at called
      cases called
      exact .inl ⟨reason, rfl, _, rfl⟩

/-- The checks a request has passed: the first call verified its bearer token as an identity, and for that identity
the set allows what it asks. -/
structure Cleared (set : PolicySet) (request : TunnelRequest) (calls : List Call) (token : String)
    (identity : WorkloadIdentity) (target : Target) (allowed : Allowed) : Prop where
  presented : request.bearerToken = some token
  verified : calls.head? = some (.verify token (.ok identity))
  targeted : request.target = some target
  evaluated : set.evaluate
    { workload := identity
      application := request.application
      transport := policyTransport request.protocol
      destination := policyDestination target
      requestedPolicy := request.requestedPolicy } = .allow allowed

/-- Either a layer turns the request away, after one call to the verifier at most, or it is cleared
and then served. -/
theorem stack_cases {set : PolicySet} {audit : Bool} {dispatch : Dispatch} (fresh : world.calls = [])
    (called : stack oracles ⟨.single set, .enforce, audit⟩ dispatch request world = (result, after)) :
    ((∃ rejection, result = .error rejection) ∧ ∀ call ∈ after.calls, call.isNetwork = false) ∨
      ∃ token identity target allowed, Cleared set request after.calls token identity target allowed ∧
        ∃ start answer finish, start.calls = [.verify token (.ok identity)] ∧
          dispatch.Served request.protocol target start finish answer ∧ after.calls = finish.calls ∧
          ∀ accepted, result = .ok accepted → ∃ granted, answer = .ok granted ∧
            accepted.kind = granted.kind := by
  have logged (token : String) (answer : Except String WorkloadIdentity) :
      (world.log (.verify token answer)).calls = [.verify token answer] := by
    rw [World.log, fresh]
    rfl
  have quiet (token : String) (answer : Except String WorkloadIdentity) :
      ∀ call ∈ [Call.verify token answer], call.isNetwork = false := List.forall_mem_singleton.mpr rfl
  obtain ⟨-, same, rejects⟩ | ⟨token, presented, ⟨reason, same, rejects⟩ | ⟨identity, called⟩⟩ :=
    identify_cases called
  · refine .inl ⟨rejects, ?_⟩
    rw [same, fresh]
    exact List.forall_mem_nil _
  · refine .inl ⟨rejects, ?_⟩
    rw [same, logged]
    exact quiet token _
  obtain ⟨same, rejects⟩ | ⟨target, allowed, start, targeted, granted, same, called⟩ := enforce_cases called
  · refine .inl ⟨rejects, ?_⟩
    rw [same, logged]
    exact quiet token _
  obtain ⟨same', rejects⟩ | ⟨start', answer, finish, called, same', same'', accepts⟩ := meter_cases called
  · refine .inl ⟨rejects, ?_⟩
    rw [same', same, logged]
    exact quiet token _
  -- The policy layer has put its target into the request, so that is where the proxies go.
  have served := dispatch_spec rfl called
  have begun : start'.calls = [.verify token (.ok identity)] := by rw [same', same, logged]
  refine .inr ⟨token, identity, target, allowed, ⟨presented, ?_, targeted, granted⟩,
    start', answer, finish, begun, served, same'', accepts⟩
  rw [same'']
  apply served.calls.head
  rw [begun]
  rfl

/-- An opened socket does not depend on what a layer adds to the answer. -/
theorem Reaches.of_kind {calls : List Call} {protocol : Protocol} {floor : AddressPolicy}
    {target : Target} {accepted granted : Accepted} {peer : SocketAddr}
    (reaches : Reaches calls protocol floor target granted peer)
    (same : accepted.kind = granted.kind) : Reaches calls protocol floor target accepted peer := by
  refine ⟨reaches.resolved, reaches.permitted, ?_⟩
  unfold Opened
  rw [same]
  exact reaches.opened

theorem Dispatch.permits_of_quiet {dispatch : Dispatch} {protocol : Protocol} {call : Call}
    (quiet : call.isNetwork = false) : dispatch.Permits protocol call := by
  intro via peer opens
  cases call with
  | verify token answer => cases opens
  | lookupHost name port answer => cases opens
  | bindUdp source answer => cases opens
  | connectUdp socket addr answer => cases quiet
  | connectTcp addr answer => cases quiet

theorem transport_of_opened {calls : List Call} {protocol : Protocol} {accepted : Accepted}
    {peer : SocketAddr} (opened : Opened calls protocol accepted peer) :
    (policyTransport protocol = .udp ↔ protocol = .connectUdp) ∧
      (policyTransport protocol = .tcp ↔ protocol = .connectTcp) := by
  cases protocol with
  | connectUdp => decide
  | connectTcp => decide
  | connectIp => cases opened

end

/-- The whole stack, on one request, with whatever the outside answers. An accepted tunnel was cleared
by the verifier and the policy, and leads where the policy looked; no socket is opened to a prohibited
address in any case, and nothing at all is looked up or opened for a request that was not cleared. -/
theorem gateway_fails_closed {oracles : Oracles} {set : PolicySet} {audit : Bool} {dispatch : Dispatch}
    {request : TunnelRequest} {quota : Quota} {trail : List AuditEvent}
    {result : Except Rejection Accepted} {after : World}
    (called : stack oracles ⟨.single set, .enforce, audit⟩ dispatch request ⟨[], quota, trail⟩ = (result, after)) :
    (∀ accepted peer, result = .ok accepted → accepted.peer = some peer →
      ∃ token identity target allowed floor, Cleared set request after.calls token identity target allowed ∧
        ((policyTransport request.protocol = .udp ↔ request.protocol = .connectUdp) ∧
          (policyTransport request.protocol = .tcp ↔ request.protocol = .connectTcp)) ∧
        dispatch.floor request.protocol = some floor ∧
        Reaches after.calls request.protocol floor target accepted peer) ∧
    (∀ call ∈ after.calls, dispatch.Permits request.protocol call) ∧
    ((¬ ∃ token identity target allowed, Cleared set request after.calls token identity target allowed) →
      ∀ call ∈ after.calls, call.isNetwork = false) := by
  obtain ⟨⟨rejection, rejected⟩, quiet⟩ |
    ⟨token, identity, target, allowed, cleared, start, answer, finish, begun, served, same, accepts⟩ :=
      stack_cases rfl called
  · refine ⟨?_, fun call member => Dispatch.permits_of_quiet (quiet call member), fun _ => quiet⟩
    intro accepted peer ok
    rw [rejected] at ok
    cases ok
  · refine ⟨?_, ?_, fun notCleared => absurd ⟨token, identity, target, allowed, cleared⟩ notCleared⟩
    · intro accepted peer ok answered
      obtain ⟨granted, answeredOk, kind⟩ := accepts accepted ok
      obtain ⟨floor, reached, proxied, reaches⟩ := served.accepts granted answeredOk
      rw [← same] at reaches
      have mine := reaches.of_kind kind
      obtain rfl : reached = peer := Option.some.inj (mine.opened.peer_eq.symm.trans answered)
      exact ⟨token, identity, target, allowed, floor, cleared, transport_of_opened mine.opened, proxied, mine⟩
    · rw [same]
      apply served.calls.forall_mem
      rw [begun]
      exact List.forall_mem_singleton.mpr (Dispatch.permits_of_quiet rfl)

/-! A name that resolves to a private address and then to a public one. -/

def privateAddr : SocketAddr := ⟨.v4 0x0a000005, 5432⟩

def publicAddr : SocketAddr := ⟨.v4 0xc6336405, 5432⟩

def mixedAnswers : Oracles where
  verify _ token := if token = "abc" then .ok { organization := some "acme" } else .error "unknown token"
  lookupHost _ _ _ := .ok [privateAddr, publicAddr]
  bindUdp _ _ := .ok 3
  connectUdp _ _ _ := .ok ()
  connectTcp _ _ := .ok 4

def databasePolicy : Policy where
  name := "database"
  matchSpec := { organization := some "acme" }
  rules := [⟨none, .name "psql", .tcp, .allow, [⟨.exact "db.example", .exact 5432, "db.example:5432"⟩]⟩]

def databaseRequest : TunnelRequest where
  protocol := .connectTcp
  destination := .tcp ⟨.name "DB.example", 5432⟩
  client := ⟨.v4 0xc0000201, 40000⟩
  headers := [("proxy-authorization", headerText "Bearer abc"), ("x-masque-application", headerText "psql")]
  extensions := {}
  authorized := none

def databaseServed : Except Rejection Accepted × World :=
  stack mixedAnswers ⟨.single ⟨[databasePolicy]⟩, .enforce, true⟩ ⟨none, some {}⟩ databaseRequest
    ⟨[], ⟨∅, ∅, ∅⟩, []⟩

theorem mixed_answers_reach_the_public_one :
    databaseServed.1 = .ok (.tcp 4 publicAddr) ∧
      ∃ token identity target allowed floor,
        Cleared ⟨[databasePolicy]⟩ databaseRequest databaseServed.2.calls token identity target allowed ∧
        Reaches databaseServed.2.calls .connectTcp floor target (.tcp 4 publicAddr) publicAddr := by
  have called : stack mixedAnswers ⟨.single ⟨[databasePolicy]⟩, .enforce, true⟩ ⟨none, some {}⟩ databaseRequest
      ⟨[], ⟨∅, ∅, ∅⟩, []⟩ = (databaseServed.1, databaseServed.2) := rfl
  have accepted : databaseServed.1 = .ok (.tcp 4 publicAddr) := by decide +kernel
  obtain ⟨token, identity, target, allowed, floor, cleared, -, -, reaches⟩ :=
    (gateway_fails_closed called).1 _ publicAddr accepted rfl
  exact ⟨accepted, token, identity, target, allowed, floor, cleared, reaches⟩

end Skimasque.Gateway
