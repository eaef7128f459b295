import Skimasque.Platform.Tenants

/-! Platform credentials: tokens scoped to an organisation, verified with that organisation's keys alone. -/

set_option autoImplicit false

namespace Skimasque.Platform
open Library Engine

abbrev PublicKey := List UInt8

/-- The claims of a credential that the gateway reads. -/
structure CredentialClaims where
  orgId : Option String
  identity : WorkloadIdentity
  deriving DecidableEq, Repr

/-- What the gateway takes from other crates. `decode` is `jsonwebtoken::decode` with the credential's
validation, at a given time; `orgOnly` reads the `org_id` member of a JSON payload. -/
structure Jwt where
  decode : Nat → PublicKey → String → Except String CredentialClaims
  base64Standard : String → Option (List UInt8)
  base64UrlSafeNoPad : String → Option (List UInt8)
  orgOnly : List UInt8 → Option (Option String)

structure CredentialVerifier where
  decoding : List PublicKey
  deriving DecidableEq, Repr

def credentialNotScoped : String := "credential is not scoped to an organisation"

section
variable (jwt : Jwt)

/-- Try each key in turn; the last error stands if none of them verifies the token. -/
def verifyClaimsWith (now : Nat) (token last : String) : List PublicKey → Except String CredentialClaims
  | [] => .error last
  | key :: rest =>
    match jwt.decode now key token with
    | .ok claims => .ok claims
    | .error error => verifyClaimsWith now token error rest

def CredentialVerifier.verifyClaims (verifier : CredentialVerifier) (now : Nat) (token : String) :
    Except String CredentialClaims :=
  verifyClaimsWith jwt now token "no signing key configured" verifier.decoding

/-- The same loop, for the identity alone. -/
def CredentialVerifier.verify (verifier : CredentialVerifier) (now : Nat) (token : String) :
    Except String WorkloadIdentity :=
  (verifier.verifyClaims jwt now token).map (·.identity)

def CredentialVerifier.verifyForOrg (verifier : CredentialVerifier) (now : Nat)
    (token expectedOrg : String) :
    Except String WorkloadIdentity :=
  match verifier.verifyClaims jwt now token with
  | .error error => .error error
  | .ok verified =>
    match verified.orgId with
    | some org =>
      if org = expectedOrg then .ok verified.identity
      else .error ("credential is scoped to \"" ++ org ++ "\", not \"" ++ expectedOrg ++ "\"")
    | none => .error credentialNotScoped

/-- The `org_id` claim of a token, read without verifying anything. -/
def peekOrgId (token : String) : Option String := do
  let payload ← (Text.split '.' token)[1]?
  let bytes ← jwt.base64UrlSafeNoPad payload
  let org ← jwt.orgOnly bytes
  org

/-- The current key and, across a rotation, the one before it; nothing if one does not decode. -/
def SigningKey.allPublicKeyBytes (key : SigningKey) : Option (List PublicKey) := do
  let current ← jwt.base64Standard key.publicKeyB64
  match key.previousPublicKeyB64 with
  | none => return [current]
  | some previous => return [current, ← jwt.base64Standard previous]

def verifierFor (tenant : Protocol.Tenant) : CredentialVerifier :=
  if !Text.eqIgnoreAsciiCase tenant.signingKey.algorithm "ed25519" then ⟨[]⟩
  else
    match tenant.signingKey.allPublicKeyBytes jwt with
    | some keys => ⟨keys⟩
    | none => ⟨[]⟩

/-- The key map `apply` makes of a list. -/
def keyMapOf (list : Protocol.TenantList) : Map CredentialVerifier :=
  Map.insertAll (·.orgId) (verifierFor jwt) ∅ (dedup list.tenants)

/-- The entry carries the key: as its current signing key or as the one before. -/
def Carries (entry : Protocol.Tenant) (key : PublicKey) : Prop :=
  ∃ keys, entry.signingKey.allPublicKeyBytes jwt = some keys ∧ key ∈ keys

end

variable {jwt : Jwt}

-- The first key that decodes the token decides; the errors of the keys before it are forgotten.
theorem verifyClaimsWith_eq_ok {now : Nat} {token last : String} {keys : List PublicKey}
    {claims : CredentialClaims} (ok : verifyClaimsWith jwt now token last keys = .ok claims) :
    ∃ key ∈ keys, jwt.decode now key token = .ok claims := by
  induction keys generalizing last with
  | nil => cases ok
  | cons key rest ih =>
    unfold verifyClaimsWith at ok
    cases decoded : jwt.decode now key token with
    | ok found =>
      rw [decoded] at ok
      exact ⟨key, List.mem_cons_self .., decoded.trans ok⟩
    | error error =>
      simp only [decoded] at ok
      obtain ⟨other, member, verifies⟩ := ih ok
      exact ⟨other, List.mem_cons_of_mem _ member, verifies⟩

/-- A token verified for an organisation claims it, and one of the verifier's keys decodes it. -/
theorem verifyForOrg_eq_ok {verifier : CredentialVerifier} {now : Nat} {token org : String}
    {identity : WorkloadIdentity} (ok : verifier.verifyForOrg jwt now token org = .ok identity) :
    ∃ key ∈ verifier.decoding, jwt.decode now key token = .ok ⟨some org, identity⟩ := by
  unfold CredentialVerifier.verifyForOrg at ok
  split at ok
  · cases ok
  rename_i verified checked
  obtain ⟨key, member, decoded⟩ := verifyClaimsWith_eq_ok checked
  obtain ⟨claimed, who⟩ := verified
  cases claimed with
  | none => cases ok
  | some found =>
    dsimp only at ok
    split at ok
    · rename_i same
      cases ok
      exact ⟨key, member, same ▸ decoded⟩
    · cases ok

theorem mem_verifierFor {entry : Protocol.Tenant} {key : PublicKey}
    (member : key ∈ (verifierFor jwt entry).decoding) :
    Carries jwt entry key := by
  unfold verifierFor at member
  split at member
  · cases member
  split at member
  · rename_i keys decoded
    exact ⟨keys, decoded, member⟩
  · cases member

theorem lookup_keyMapOf {list : Protocol.TenantList} {org : String} {verifier : CredentialVerifier} :
    (keyMapOf jwt list).lookup org = some verifier ↔
      ∃ entry ∈ dedup list.tenants, entry.orgId = org ∧ verifierFor jwt entry = verifier :=
  Map.lookup_insertAll_eq_some_iff (dedup_nodup list.tenants).1

/-- The key map and the table of one list are about the same organisations: those the list keeps. -/
theorem mem_keyMapOf_iff {list : Protocol.TenantList} {org : String} :
    org ∈ keyMapOf jwt list ↔ list.Keeps org := by
  rw [keyMapOf, Map.mem_insertAll]
  simp [Protocol.TenantList.Keeps]

theorem resolveOrg_isSome_iff {runtime : Runtime} {list : Protocol.TenantList} {org : String} :
    ((tableOf runtime list).resolveOrg org).isSome = true ↔ list.Keeps org := by
  rw [Option.isSome_iff_exists]
  constructor
  · intro ⟨tenant, resolved⟩
    obtain ⟨entry, kept, same, -⟩ := resolveOrg_tableOf.mp resolved
    exact ⟨entry, kept, same⟩
  · intro ⟨entry, kept, same⟩
    exact ⟨_, resolveOrg_tableOf.mpr ⟨entry, kept, same, rfl⟩⟩

end Skimasque.Platform
