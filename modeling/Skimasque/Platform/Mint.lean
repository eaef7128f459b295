import Skimasque.Platform.Tenants

/-! Token exchange on a platform gateway: which tenant a job's OIDC token is for, whether its owner is
verified for that tenant, and the one request to the control plane that mints a credential. -/

set_option autoImplicit false

namespace Skimasque.Platform
open Library Engine

def slugMaxLen : Nat := 39

def isSlugChar (c : Char) : Bool := ('a' ≤ c && c ≤ 'z') || Text.isAsciiDigit c || c == '-'

-- Characters and bytes count alike in what the last test lets through.
def isValidSlug (text : String) : Bool :=
  !Text.isEmpty text && text.toList.length ≤ slugMaxLen && !Text.startsWith text "-" && !Text.endsWith text "-" &&
    text.toList.all isSlugChar

/-- The audience of a tenant's workflows. -/
def tenantAudience (baseUrl slug : String) : String := Text.trimEndMatches '/' baseUrl ++ "/o/" ++ slug

def slugFromAudience (baseUrl audience : String) : Option String := do
  let rest ← Text.stripPrefix (Text.trimEndMatches '/' baseUrl ++ "/o/") audience
  let rest := (Text.stripSuffix "/" rest).getD rest
  if isValidSlug rest then some rest else none

inductive MintError where
  | unauthorized (detail : String)
  | unavailable (detail : String)
  | refused (code message : String)
  deriving DecidableEq, Repr

namespace Refusal

def ownerNotVerified : String := "owner_not_verified"

def unknownOrg : String := "unknown_org"

end Refusal

def severalOrganisations : String :=
  "The token names more than one SkiMasque organisation. Check the `audience` in your workflow."

/-- The loop of `slug_of` over the audiences, with what it has found so far. -/
def slugOfFrom (baseUrl : String) (found : Option (String × String)) :
    List String → Except MintError (String × String)
  | [] =>
    match found with
    | some named => .ok named
    | none => .error (.refused Refusal.unknownOrg
        ("Unknown SkiMasque organisation. Check the `audience` in your workflow. It must be `" ++
          tenantAudience baseUrl "<your-org-slug>" ++ "`."))
  | audience :: rest =>
    match slugFromAudience baseUrl audience, found with
    | none, _ => slugOfFrom baseUrl found rest
    | some slug, none => slugOfFrom baseUrl (some (slug, audience)) rest
    | some slug, some named =>
      if named.1 = slug then slugOfFrom baseUrl found rest
      else .error (.refused Refusal.unknownOrg severalOrganisations)

/-- What verified claims say: the identity the provider maps them to, the subject, and the numeric id
of the repository owner. -/
structure Claims where
  identity : WorkloadIdentity
  subject : Option String
  ownerId : Option Nat
  deriving DecidableEq, Repr

inductive OidcError where
  | discovery (detail : String)
  | jwks (detail : String)
  | other (detail : String)
  deriving DecidableEq, Repr

structure PlatformMintRequest where
  orgId : String
  identity : WorkloadIdentity
  subject : Option String
  ownerId : Option Nat
  ttlSeconds : Nat
  deriving DecidableEq, Repr

structure MintedCredential where
  credential : String
  expiresIn : Nat
  deriving DecidableEq, Repr

inductive PlatformMintError where
  | refused (code message : String)
  | unavailable (detail : String)
  deriving DecidableEq, Repr

/-- The answers from outside: the audiences a token claims, the OIDC verifier for a token and an
audience, and the control plane. -/
structure Services where
  peekAudiences : String → List String
  verifyClaimsForAudience : String → String → Except OidcError Claims
  platformMint : PlatformMintRequest → Except PlatformMintError MintedCredential

structure PlatformMinter where
  baseUrl : String
  ttlSeconds : Nat
  ownerSettingsUrl : String
  deriving DecidableEq, Repr

def slugOf (minter : PlatformMinter) (services : Services) (token : String) :
    Except MintError (String × String) :=
  slugOfFrom minter.baseUrl none (services.peekAudiences token)

def unavailable : String := "SkiMasque control plane unreachable; try again shortly."

def oidcKeysUnavailable : String := "GitHub OIDC keys unavailable; try again shortly."

def ownerRefusal (minter : PlatformMinter) (owner slug : String) : MintError :=
  .refused Refusal.ownerNotVerified <|
    if Text.isEmpty owner then
      "The job's token names no repository owner, so it cannot be verified for `" ++ slug ++ "`."
    else "`" ++ owner ++ "` is not verified for `" ++ slug ++ "`. Verify it at " ++ minter.ownerSettingsUrl ++ "."

/-- The owner of the job's repository, normalised; empty if the token names none. -/
def ownerOf (claims : Claims) : String := (claims.identity.organization.map normalizeOwner).getD ""

/-- The result of an exchange and the mint requests it sent, in order. -/
def PlatformMinter.mint (runtime : Runtime) (minter : PlatformMinter) (services : Services)
    (snapshot : TenantSnapshot)
    (token : String) : Except MintError MintedCredential × List PlatformMintRequest :=
  match slugOf minter services token with
  | .error error => (.error error, [])
  | .ok (slug, audience) =>
    match snapshot.resolveSlug slug with
    | none => (.error (.refused Refusal.unknownOrg
        ("Unknown SkiMasque organisation `" ++ slug ++ "`. Check the `audience` in your workflow.")), [])
    | some tenant =>
      match services.verifyClaimsForAudience token audience with
      | .error (.discovery _) | .error (.jwks _) => (.error (.unavailable oidcKeysUnavailable), [])
      | .error (.other detail) => (.error (.unauthorized detail), [])
      | .ok claims =>
        let owner := ownerOf claims
        if Text.isEmpty owner || !tenant.owns runtime owner claims.ownerId then
          (.error (ownerRefusal minter owner slug), [])
        else
          let request := ⟨tenant.id, claims.identity, claims.subject, claims.ownerId, minter.ttlSeconds⟩
          match services.platformMint request with
          | .ok minted => (.ok minted, [request])
          | .error (.refused code message) => (.error (.refused code message), [request])
          | .error (.unavailable _) => (.error (.unavailable unavailable), [request])

/-! ## Audiences -/

/-- The audience has the form of a tenant's, for a valid slug, with at most one `/` after it. -/
def Names (baseUrl audience slug : String) : Prop :=
  isValidSlug slug = true ∧ (audience = tenantAudience baseUrl slug ∨ audience = tenantAudience baseUrl slug ++ "/")

theorem stripSuffix_valid {slug : String} (valid : isValidSlug slug = true) :
    Text.stripSuffix "/" slug = none := by
  cases stripped : Text.stripSuffix "/" slug with
  | none => rfl
  | some front =>
    rw [Text.stripSuffix_eq_some_iff] at stripped
    simp only [isValidSlug, Bool.and_eq_true, List.all_eq_true] at valid
    have slash := valid.2 '/' (by simp [stripped])
    exact absurd slash (by decide)

theorem slugFromAudience_eq_some_iff {baseUrl audience slug : String} :
    slugFromAudience baseUrl audience = some slug ↔ Names baseUrl audience slug := by
  simp only [slugFromAudience, bind, Option.bind_eq_some_iff, Text.stripPrefix_eq_some_iff, Option.ite_none_right_eq_some,
    Option.some.injEq]
  unfold Names tenantAudience
  constructor
  · intro ⟨rest, split, valid, same⟩
    subst same
    refine ⟨valid, ?_⟩
    cases stripped : Text.stripSuffix "/" rest with
    | none => exact .inl split
    | some front =>
      rw [Text.stripSuffix_eq_some_iff] at stripped
      right
      simp [split, stripped, String.append_assoc]
  · intro ⟨valid, form⟩
    cases form with
    | inl bare =>
      have same : (Text.stripSuffix "/" slug).getD slug = slug := by rw [stripSuffix_valid valid]; rfl
      exact ⟨slug, bare, by rw [same]; exact valid, same⟩
    | inr slashed =>
      have stripped : Text.stripSuffix "/" (slug ++ "/") = some slug := Text.stripSuffix_eq_some_iff.mpr rfl
      have same : (Text.stripSuffix "/" (slug ++ "/")).getD (slug ++ "/") = slug := by rw [stripped]; rfl
      exact ⟨slug ++ "/", by rw [slashed, String.append_assoc], by rw [same]; exact valid, same⟩

/-- What the loop has found before the audiences, and all it finds in them, names the one slug it returns. -/
structure SettledOn (baseUrl : String) (found : Option (String × String)) (audiences : List String)
    (named : String × String) : Prop where
  before : ∀ first ∈ found, first.1 = named.1
  agrees : ∀ audience ∈ audiences, ∀ slug, Names baseUrl audience slug → slug = named.1
  source : found = some named ∨ named.2 ∈ audiences ∧ Names baseUrl named.2 named.1

theorem SettledOn.cons {baseUrl audience : String} {found : Option (String × String)}
    {rest : List String} {named : String × String} (settled : SettledOn baseUrl found rest named)
    (agrees : ∀ slug, Names baseUrl audience slug → slug = named.1) :
    SettledOn baseUrl found (audience :: rest) named where
  before := settled.before
  agrees := List.forall_mem_cons.mpr ⟨agrees, settled.agrees⟩
  source := settled.source.imp_right fun inRest => ⟨List.mem_cons_of_mem _ inRest.1, inRest.2⟩

theorem Names.unique {baseUrl audience slug other : String} (names : Names baseUrl audience slug)
    (names' : Names baseUrl audience other) : other = slug := by
  rw [← slugFromAudience_eq_some_iff] at names names'
  exact Option.some.inj (names'.symm.trans names)

theorem slugOfFrom_eq_ok {baseUrl : String} {found : Option (String × String)} {audiences : List String}
    {named : String × String} (ok : slugOfFrom baseUrl found audiences = .ok named) :
    SettledOn baseUrl found audiences named := by
  induction audiences generalizing found with
  | nil =>
    unfold slugOfFrom at ok
    cases found with
    | none => cases ok
    | some first =>
      cases ok
      exact ⟨by simp, by simp, .inl rfl⟩
  | cons audience rest ih =>
    unfold slugOfFrom at ok
    cases parsed : slugFromAudience baseUrl audience with
    | none =>
      simp only [parsed] at ok
      refine (ih ok).cons fun slug names => ?_
      rw [slugFromAudience_eq_some_iff.mpr names] at parsed
      cases parsed
    | some slug =>
      have names := slugFromAudience_eq_some_iff.mp parsed
      simp only [parsed] at ok
      cases found with
      | none =>
        -- This audience is the first that counts: what the rest settles on, it settled.
        have settled := ih ok
        have same : slug = named.1 := settled.before (slug, audience) rfl
        refine ⟨by simp, List.forall_mem_cons.mpr ⟨fun other names' => (names.unique names').trans same,
          settled.agrees⟩, .inr ?_⟩
        cases settled.source with
        | inl here =>
          cases here
          exact ⟨List.mem_cons_self .., names⟩
        | inr inRest => exact ⟨List.mem_cons_of_mem _ inRest.1, inRest.2⟩
      | some first =>
        dsimp only at ok
        split at ok
        · rename_i agrees
          have settled := ih ok
          refine settled.cons fun other names' => ?_
          rw [names.unique names', ← agrees]
          exact settled.before first rfl
        · cases ok

theorem slugOfFrom_tenantAudience {baseUrl slug : String} (valid : isValidSlug slug = true) :
    slugOfFrom baseUrl none [tenantAudience baseUrl slug] = .ok (slug, tenantAudience baseUrl slug) := by
  have names : Names baseUrl (tenantAudience baseUrl slug) slug := ⟨valid, .inl rfl⟩
  have parsed := slugFromAudience_eq_some_iff.mpr names
  unfold slugOfFrom
  simp only [parsed]
  rfl

/-! ## What a mint request takes -/

section
variable (runtime : Runtime) (minter : PlatformMinter) (list : Protocol.TenantList)

/-- All that a mint request for an organisation has to rest on, as the tenant list and the OIDC
verifier have it. -/
def Authorised (services : Services) (token : String) (request : PlatformMintRequest) : Prop :=
  ∃ entry ∈ dedup list.tenants, ∃ audience claims,
    request.orgId = entry.orgId ∧
    (∀ other ∈ services.peekAudiences token, ∀ slug, Names minter.baseUrl other slug → slug = entry.slug) ∧
    (tableOf runtime list).resolveSlug entry.slug = some (tenantOf runtime entry) ∧
    audience ∈ services.peekAudiences token ∧ Names minter.baseUrl audience entry.slug ∧
    services.verifyClaimsForAudience token audience = .ok claims ∧
    ownerOf claims ≠ "" ∧
    (∃ listed ∈ entry.owners, runtime.toLowercase (normalizeOwner listed) = runtime.toLowercase (ownerOf claims)) ∧
    ∀ login id, entry.ownerIds.lookup login = some id → normalizeOwner login = ownerOf claims →
      claims.ownerId = some id

/-- Every mint request of every exchange, whatever the token and whatever the answers, is authorised. -/
def MintsOnlyAuthorised : Prop :=
  ∀ services token, ∀ request ∈ (minter.mint runtime services (tableOf runtime list) token).2,
    Authorised runtime minter list services token request

/-- Every id recorded for a listed owner, by the owner's normalised login, is where `owns` looks it up. -/
def RecordedIdsFound : Prop :=
  ∀ entry ∈ dedup list.tenants, isValidSlug entry.slug = true →
    ∀ login id, entry.ownerIds.lookup login = some id →
    normalizeOwner login ≠ "" →
    (∃ listed ∈ entry.owners, runtime.toLowercase (normalizeOwner listed) = runtime.toLowercase (normalizeOwner login)) →
    (lowercaseKeys runtime entry.ownerIds).lookup (runtime.toLowercase (normalizeOwner login)) = some id

end

variable {runtime : Runtime} {minter : PlatformMinter} {list : Protocol.TenantList}

theorem owns_iff {tenant : Tenant} {owner : String} {ownerId : Option Nat} :
    tenant.owns runtime owner ownerId = true ↔ runtime.toLowercase owner ∈ tenant.owners ∧
      ∀ recorded, tenant.ownerIds.lookup (runtime.toLowercase owner) = some recorded →
        ownerId = some recorded := by
  unfold Tenant.owns
  dsimp only
  split
  · rename_i unlisted
    simp [unlisted]
  · rename_i listed
    cases found : tenant.ownerIds.lookup (runtime.toLowercase owner) with
    | none => simpa using listed
    | some recorded => simpa using fun _ => not_not.mp listed

theorem mem_owners_tenantOf {entry : Protocol.Tenant} {login : String} :
    login ∈ (tenantOf runtime entry).owners ↔
      ∃ listed ∈ entry.owners, runtime.toLowercase (normalizeOwner listed) = login := by
  simp [tenantOf, Tenant.new, specOf]

/-- The only way to a request: one slug, its tenant, the claims for its audience, and an owner it owns. -/
theorem mem_mint_iff {services : Services} {snapshot : TenantSnapshot} {token : String}
    {request : PlatformMintRequest} :
    request ∈ (minter.mint runtime services snapshot token).2 ↔
      ∃ slug audience tenant claims, slugOf minter services token = .ok (slug, audience) ∧
        snapshot.resolveSlug slug = some tenant ∧
          services.verifyClaimsForAudience token audience = .ok claims ∧
        ownerOf claims ≠ "" ∧ tenant.owns runtime (ownerOf claims) claims.ownerId = true ∧
        request = ⟨tenant.id, claims.identity, claims.subject, claims.ownerId, minter.ttlSeconds⟩ := by
  unfold PlatformMinter.mint
  cases named : slugOf minter services token with
  | error error => simp
  | ok pair =>
    obtain ⟨slug, audience⟩ := pair
    cases resolved : snapshot.resolveSlug slug with
    | none => simp [resolved]
    | some tenant =>
      cases verified : services.verifyClaimsForAudience token audience with
      | error error => cases error <;> simp [resolved, verified]
      | ok claims =>
        have refuses : (Text.isEmpty (ownerOf claims) || !tenant.owns runtime (ownerOf claims) claims.ownerId) = true ↔
            ¬ (ownerOf claims ≠ "" ∧ tenant.owns runtime (ownerOf claims) claims.ownerId = true) := by
          rw [Bool.or_eq_true, Text.isEmpty_iff, Bool.not_eq_true', not_and_or, ne_eq, not_not, Bool.not_eq_true]
        constructor
        · intro member
          simp only [resolved, verified] at member
          split at member
          · cases member
          rename_i allowed
          rw [refuses, not_not] at allowed
          refine ⟨slug, audience, tenant, claims, rfl, resolved, verified, allowed.1, allowed.2, ?_⟩
          split at member <;> exact List.mem_singleton.mp member
        · intro ⟨slug', audience', tenant', claims', same, resolved', verified', nonempty, owns, isRequest⟩
          cases same
          cases resolved.symm.trans resolved'
          cases verified.symm.trans verified'
          simp only [resolved, verified]
          rw [if_neg (by rw [refuses, not_not]; exact ⟨nonempty, owns⟩), isRequest]
          split <;> exact List.mem_singleton_self _

theorem mint_authorised (found : RecordedIdsFound runtime list) :
    MintsOnlyAuthorised runtime minter list := by
  intro services token request sent
  obtain ⟨slug, audience, tenant, claims, named, resolved, verified, nonempty, owns, rfl⟩ :=
    mem_mint_iff.mp sent
  obtain ⟨-, only, source⟩ := slugOfFrom_eq_ok named
  have named : audience ∈ services.peekAudiences token ∧ Names minter.baseUrl audience slug := by
    cases source with
    | inl impossible => cases impossible
    | inr here => exact here
  obtain ⟨entry, kept, rfl, rfl⟩ := resolveSlug_tableOf.mp resolved
  obtain ⟨listed, recorded⟩ := owns_iff.mp owns
  rw [mem_owners_tenantOf] at listed
  refine ⟨entry, kept, audience, claims, rfl, only, resolved, named.1, named.2, verified, nonempty, listed, ?_⟩
  intro login id lookup same
  have looked := found entry kept named.2.1 login id lookup (same ▸ nonempty) (same ▸ listed)
  rw [same] at looked
  exact recorded id looked

/-- A token for the tenant whose owner is written as the recorded login, with an owner id of choice. -/
def probe (minter : PlatformMinter) (slug login : String) (ownerId : Option Nat) : Services where
  peekAudiences _ := [tenantAudience minter.baseUrl slug]
  verifyClaimsForAudience _ _ := .ok ⟨{ organization := some login }, none, ownerId⟩
  platformMint _ := .error (.unavailable "")

theorem recordedIds_found (authorised : MintsOnlyAuthorised runtime minter list) :
    RecordedIdsFound runtime list := by
  intro entry kept valid login id lookup nonempty listed
  by_contra missed
  -- Whatever `owns` finds instead of the recorded id, a token that satisfies it is minted for.
  let ownerId := (lowercaseKeys runtime entry.ownerIds).lookup (runtime.toLowercase (normalizeOwner login))
  have resolved : (tableOf runtime list).resolveSlug entry.slug = some (tenantOf runtime entry) :=
    resolveSlug_tableOf.mpr ⟨entry, kept, rfl, rfl⟩
  have sent : ⟨entry.orgId, { organization := some login }, none, ownerId, minter.ttlSeconds⟩ ∈
      (minter.mint runtime (probe minter entry.slug login ownerId) (tableOf runtime list) "").2 := by
    refine mem_mint_iff.mpr ⟨entry.slug, _, tenantOf runtime entry, _, slugOfFrom_tenantAudience valid, resolved, rfl,
      nonempty, ?_, rfl⟩
    exact owns_iff.mpr ⟨mem_owners_tenantOf.mpr listed, fun recorded looked => looked⟩
  obtain ⟨entry', kept', audience, claims, sameOrg, -, -, -, -, verified, -, -, sameId⟩ :=
    authorised _ _ _ sent
  cases verified
  have sameEntry : entry' = entry := List.inj_on_of_nodup_map (dedup_nodup list.tenants).1 kept' kept sameOrg.symm
  subst sameEntry
  exact missed (sameId login id lookup rfl)

/-- Minting never crosses tenants, whatever the tokens and the answers, exactly when every owner id
the tenant list records for a listed owner is found under that owner's lowercased normalised login. -/
theorem platform_mint_authorised_iff (runtime : Runtime) (minter : PlatformMinter)
    (list : Protocol.TenantList) :
    MintsOnlyAuthorised runtime minter list ↔ RecordedIdsFound runtime list :=
  ⟨recordedIds_found, mint_authorised⟩

-- One tenant whose owner id is recorded under a login with a space in front.
def spacedList : Protocol.TenantList :=
  ⟨1, [⟨"org_a", "acme", ["acme"], AList.insert " acme" 7 ∅, none, ⟨"ed25519", "", none⟩⟩]⟩

def sampleMinter : PlatformMinter :=
  ⟨"https://gateway.example", 900, "https://control.example/settings/owners"⟩

/-- The recorded id is 7, the token says 8, and the request goes out. -/
theorem spaced_login_mints_for_another_owner : ¬ MintsOnlyAuthorised sampleRuntime sampleMinter spacedList := by
  intro authorised
  have sent : ⟨"org_a", { organization := some "acme" }, none, some 8, 900⟩ ∈
      (sampleMinter.mint sampleRuntime (probe sampleMinter "acme" "acme" (some 8)) (tableOf sampleRuntime spacedList) "").2 := by
    decide
  obtain ⟨entry, kept, audience, claims, -, -, -, -, -, verified, -, -, sameId⟩ := authorised _ _ _ sent
  cases verified
  have only : entry ∈ [spacedList.tenants.head (by decide)] := kept
  rw [List.mem_singleton] at only
  subst only
  have mismatch := sameId " acme" 7 (by decide) (by decide)
  revert mismatch
  decide

end Skimasque.Platform
