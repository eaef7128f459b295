import Skimasque.Gateway.Stack

/-! One policy layer in front of many organisations: a request is judged by the policy of its own
organisation and by nothing else in the table. -/

set_option autoImplicit false

namespace Skimasque.Gateway
open Library Engine Skimasque.Core
open Platform (Runtime Tenant TenantSnapshot TenantSpec)

/-- The decision a layer comes to, for a request it can put to a policy. -/
def Enforce.decision (layer : Enforce) (request : TunnelRequest) : Option Decision :=
  match request.target, layer.policies.choose request with
  | some target, .ok (policies, _) => some (policies.evaluate (requestContext request target))
  | _, _ => none

/-- A layer answers a request in one of two ways, whatever is inside: it hands a request on, or it
rejects. Either way the world is first changed to `after`. -/
def Answers (layer : Service → Service) (request : TunnelRequest) (before after : World) : Prop :=
  (∃ forwarded, ∀ inner, layer inner request before = inner forwarded after) ∨
    ∃ rejection, ∀ inner, layer inner request before = (.error rejection, after)

/-- Refused on the spot: nothing inside is called and nothing is recorded. -/
def Refuses (layer : Service → Service) (request : TunnelRequest) : Prop :=
  ∃ rejection, ∀ inner world, layer inner request world = (.error rejection, world)

section
variable {left right snapshot : TenantSnapshot} {org : String} {mode : Mode} {audit : Bool}
  {request : TunnelRequest}

theorem choose_congr
    (agree : (left.resolveOrg org).map (·.policy) = (right.resolveOrg org).map (·.policy))
    (tenant : request.extensions.tenantId = some org) :
    (PolicySource.tenants left).choose request = (PolicySource.tenants right).choose request := by
  simp only [PolicySource.choose, tenant]
  cases inLeft : left.resolveOrg org with
  | none =>
    cases inRight : right.resolveOrg org with
    | none => rfl
    | some other => simp [inLeft, inRight] at agree
  | some own =>
    cases inRight : right.resolveOrg org with
    | none => simp [inLeft, inRight] at agree
    | some other =>
      rw [inLeft, inRight, Option.map_some, Option.map_some, Option.some.injEq] at agree
      simp only [agree]

/-- The table is read in one place only. -/
theorem enforce_congr (same : (PolicySource.tenants left).choose request = (PolicySource.tenants right).choose request)
    (inner : Service) (world : World) :
    Enforce.call ⟨.tenants left, mode, audit⟩ inner request world =
      Enforce.call ⟨.tenants right, mode, audit⟩ inner request world := by
  simp only [Enforce.call, same]

theorem choose_org {policies : PolicySet} {orgId : Option String}
    (tenant : request.extensions.tenantId = some org)
    (chosen : (PolicySource.tenants snapshot).choose request = .ok (policies, orgId)) : orgId = some org := by
  simp only [PolicySource.choose, tenant] at chosen
  split at chosen
  · cases chosen
  · cases chosen
    rfl

/-- A decision is recorded once, under the request's own organisation, before it is acted on. -/
theorem enforce_records {decision : Decision} (tenant : request.extensions.tenantId = some org)
    (decided : Enforce.decision ⟨.tenants snapshot, .enforce, true⟩ request = some decision) :
    ∃ event : AuditEvent, event.orgId = some org ∧ ∀ world,
      Answers (Enforce.call ⟨.tenants snapshot, .enforce, true⟩) request world (world.record event) := by
  unfold Enforce.decision at decided
  split at decided
  · rename_i target policies orgId targeted chosen
    obtain rfl := choose_org tenant chosen
    refine ⟨auditEvent request target decision (some org), rfl, fun world => ?_⟩
    cases decided
    unfold Answers Enforce.call
    simp only [targeted, chosen, if_true]
    cases policies.evaluate (requestContext request target) with
    | allow allowed => exact .inl ⟨_, fun inner => rfl⟩
    | deny denied => exact .inr ⟨_, fun inner => rfl⟩
  · cases decided

theorem choose_unserved
    (unserved : ∀ tenantId, request.extensions.tenantId = some tenantId → snapshot.resolveOrg tenantId = none) :
    ∃ rejection, (PolicySource.tenants snapshot).choose request = .error rejection := by
  simp only [PolicySource.choose]
  cases tenant : request.extensions.tenantId with
  | none => exact ⟨_, rfl⟩
  | some tenantId =>
    simp only [unserved tenantId tenant]
    exact ⟨_, rfl⟩

theorem enforce_refuses {layer : Enforce}
    (refused : ∃ rejection, layer.policies.choose request = .error rejection) : Refuses layer.call request := by
  obtain ⟨rejection, refused⟩ := refused
  unfold Refuses Enforce.call
  cases request.target with
  | none => exact ⟨_, fun inner world => rfl⟩
  | some target =>
    simp only [refused]
    exact ⟨_, fun inner world => rfl⟩

end

/-- Two tables that agree on an organisation's policy treat its requests alike, down to the audit
event; a request with no organisation in the table is refused; and the table that is made of a list
sends every organisation and every slug to one tenant, the same by either. -/
theorem tenants_do_not_interfere (runtime : Runtime) :
    (∀ (left right : TenantSnapshot) (org : String) (mode : Mode) (audit : Bool) (request : TunnelRequest),
      (left.resolveOrg org).map (·.policy) = (right.resolveOrg org).map (·.policy) →
      request.extensions.tenantId = some org →
      Enforce.decision ⟨.tenants left, mode, audit⟩ request =
          Enforce.decision ⟨.tenants right, mode, audit⟩ request ∧
        (∀ inner world, Enforce.call ⟨.tenants left, mode, audit⟩ inner request world =
          Enforce.call ⟨.tenants right, mode, audit⟩ inner request world) ∧
        ∀ decision, Enforce.decision ⟨.tenants left, .enforce, true⟩ request = some decision →
          ∃ event : AuditEvent, event.orgId = some org ∧ ∀ world,
            Answers (Enforce.call ⟨.tenants left, .enforce, true⟩) request world (world.record event) ∧
            Answers (Enforce.call ⟨.tenants right, .enforce, true⟩) request world (world.record event)) ∧
    (∀ (snapshot : TenantSnapshot) (mode : Mode) (audit : Bool) (request : TunnelRequest),
      (∀ org, request.extensions.tenantId = some org → snapshot.resolveOrg org = none) →
      Refuses (Enforce.call ⟨.tenants snapshot, mode, audit⟩) request) ∧
    ∀ (version : Nat) (specs : List TenantSpec),
      (∃ kept, kept.Sublist (specs.map (Tenant.new runtime)) ∧
        (∀ spec ∈ specs, ∃ tenant ∈ kept, tenant.id = spec.orgId ∨ tenant.slug = spec.slug) ∧
        (TenantSnapshot.store runtime version specs).Represents kept) ∧
      (∀ tenant, (∃ org, (TenantSnapshot.store runtime version specs).resolveOrg org = some tenant) ↔
        ∃ slug, (TenantSnapshot.store runtime version specs).resolveSlug slug = some tenant) ∧
      ∀ slug tenant, (TenantSnapshot.store runtime version specs).resolveSlug slug = some tenant →
        (TenantSnapshot.store runtime version specs).resolveOrg tenant.id = some tenant := by
  refine ⟨?_, ?_, ?_⟩
  · intro left right org mode audit request agree tenant
    have same := choose_congr agree tenant
    refine ⟨by simp only [Enforce.decision, same], enforce_congr same, fun decision decided => ?_⟩
    obtain ⟨event, named, recorded⟩ := enforce_records tenant decided
    refine ⟨event, named, fun world => ⟨recorded world, ?_⟩⟩
    unfold Answers
    simp only [← enforce_congr same]
    exact recorded world
  · intro snapshot mode audit request unserved
    exact enforce_refuses (choose_unserved unserved)
  · intro version specs
    obtain ⟨kept, sub, taken, represents⟩ := Platform.store_represents runtime version specs
    exact ⟨⟨kept, sub, taken, represents⟩, represents.same_tenants,
      fun slug tenant found => represents.resolveOrg_id found⟩

-- One organisation alone, and the same one among others that repeat its slug and its id.
def acmeSpec : TenantSpec := ⟨"org_a", "acme", ["acme"], ∅, ⟨[databasePolicy]⟩⟩

def otherSpecs : List TenantSpec :=
  [⟨"org_b", "beta", ["beta"], ∅, ⟨[]⟩⟩, acmeSpec, ⟨"org_c", "acme", [], ∅, ⟨[]⟩⟩, ⟨"org_a", "other", [], ∅, ⟨[]⟩⟩]

def alone : TenantSnapshot := TenantSnapshot.store Platform.sampleRuntime 1 [acmeSpec]

def amongOthers : TenantSnapshot := TenantSnapshot.store Platform.sampleRuntime 2 otherSpecs

def acmeRequest : TunnelRequest :=
  { databaseRequest with
    extensions := { tenantId := some "org_a", workload := some { organization := some "acme" } } }

theorem other_organisations_change_nothing :
    (Enforce.decision ⟨.tenants alone, .enforce, true⟩ acmeRequest).any Decision.isAllow = true ∧
      (∀ inner world, Enforce.call ⟨.tenants alone, .enforce, true⟩ inner acmeRequest world =
        Enforce.call ⟨.tenants amongOthers, .enforce, true⟩ inner acmeRequest world) ∧
      Refuses (Enforce.call ⟨.tenants ⟨3, ∅, ∅⟩, .enforce, true⟩) acmeRequest ∧
      amongOthers.resolveOrg "org_c" = none := by
  obtain ⟨isolated, refused, -⟩ := tenants_do_not_interfere Platform.sampleRuntime
  have agree : (alone.resolveOrg "org_a").map (·.policy) = (amongOthers.resolveOrg "org_a").map (·.policy) := rfl
  refine ⟨by decide, (isolated alone amongOthers "org_a" .enforce true acmeRequest agree rfl).2.1, ?_, rfl⟩
  exact refused ⟨3, ∅, ∅⟩ .enforce true acmeRequest fun org _ => rfl

end Skimasque.Gateway
