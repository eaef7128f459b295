import Skimasque.Gateway.Stack
import Skimasque.Platform.Isolation

/-! Sessions: a tunnel is refused once its session has ended or its credential has run out, and every
other tunnel of a session is given the signal that ends it. -/

set_option autoImplicit false

namespace Skimasque.Gateway
open Library Engine
open Revocation (Revocations TunnelEnd)
open Platform (CredentialClaims CredentialVerifier Jwt Map TenantSnapshot verifyNow verifyNow_decodes)

/-! ## Verifying a credential -/

/-- What a gateway takes from other crates to verify a credential and to read it once more. `decodeHs256` is
`jsonwebtoken::decode` with a secret; `claimsExp` is the `exp` of a JSON payload as `Claims` has it, and `expOnly`
is the one member of `Exp`. -/
structure Tokens extends Jwt where
  decodeHs256 : Nat → List UInt8 → String → Except String CredentialClaims
  claimsExp : List UInt8 → Option Int64
  expOnly : List UInt8 → Option UInt64

/-- The verifier of a gateway with one organisation: the keys of its control plane, if it has one, and its own secret. -/
structure CredentialIdentity where
  ed : Option CredentialVerifier
  hs : List UInt8
  deriving DecidableEq, Repr

section
variable (tokens : Tokens)

def CredentialIdentity.verify (gateway : CredentialIdentity) (now : Nat) (token : String) :
    Except String WorkloadIdentity :=
  let own := (tokens.decodeHs256 now gateway.hs token).map (·.identity)
  match gateway.ed with
  | none => own
  | some ed =>
    match ed.verify tokens.toJwt now token with
    | .ok identity => .ok identity
    | .error _ => own

/-- `TenantIdentify::call`: as `identify`, with the organisation next to the identity. -/
def tenantIdentify (verify : String → Except String (String × WorkloadIdentity)) (inner : Service) : Service :=
  fun request world =>
    match request.bearerToken with
    | none => (.error (.proxyAuthRequired "Bearer"), world)
    | some token =>
      let answer := verify token
      let world := world.log (.verify token (answer.map Prod.snd))
      match answer with
      | .ok (tenant, identity) =>
        inner { request with extensions := { request.extensions with tenantId := some tenant, workload := some identity } }
          world
      | .error reason => (.error (tenantRejection ("credential rejected: " ++ reason)), world)

/-- The outermost layer of a deployed gateway, with what its verifier reads when a request comes by. -/
inductive Front where
  | identity (gateway : CredentialIdentity)
  | tenants (table : TenantSnapshot) (keys : Map CredentialVerifier)

def Front.verify (front : Front) (now : Nat) (token : String) : Except String (Option String × WorkloadIdentity) :=
  match front with
  | .identity gateway => (gateway.verify tokens now token).map fun identity => (none, identity)
  | .tenants table keys => (verifyNow tokens.toJwt now table keys token).map fun verified => (some verified.1, verified.2)

/-- The oracles are there for the rest of the world; neither layer asks them for a verdict. -/
def Front.call (front : Front) (oracles : Oracles) (now : Nat) : Service → Service :=
  match front with
  | .identity gateway => identify { oracles with verify := fun _ token => gateway.verify tokens now token }
  | .tenants table keys => tenantIdentify (verifyNow tokens.toJwt now table keys)

/-! ## Ending a session -/

/-- The call panics: it has no answer, and no answer has this status. -/
def Rejection.aborted : Rejection := .new 0 ""

def Rejection.sessionEnded : Rejection :=
  (Rejection.new 403 "this session has ended; start a new one").withProxyError "session_ended"

def Rejection.sessionExpired : Rejection :=
  (Rejection.new 403 "this session has expired; start a new one").withProxyError "session_expired"

/-- What a call of the layer meets: the set when it is looked at, the sets that replace it before the tunnel is
tracked, and the two clocks in nanoseconds. The clock of the system counts from the epoch, and may be set before it. -/
structure Moment where
  revocations : Revocations
  replaced : List (Finset String)
  systemNow : Int
  instantNow : Nat

def Moment.atCall (moment : Moment) : Revocations := moment.revocations.replaceAll moment.replaced

def nanosPerSec : Nat := 1000000000

/-- The `exp` of the bearer credential, if it says: read from the header again, and not verified. -/
def credentialExpiry (request : TunnelRequest) : Option UInt64 := do
  let token ← request.bearerToken
  let payload ← (Text.split '.' token)[1]?
  let bytes ← tokens.base64UrlSafeNoPad payload
  tokens.expOnly bytes

/-- When the tunnel is to end. Both clocks count seconds in an `i64`, and an addition past the last of them panics. -/
def Moment.deadline (moment : Moment) : Option UInt64 → Except Rejection (Option Nat)
  | none => .ok none
  | some exp =>
    if 2 ^ 63 ≤ exp.toNat then .error .aborted
    else
      let left := (exp.toNat * nanosPerSec : Nat) - moment.systemNow
      if left ≤ 0 then .error .sessionExpired
      else if 2 ^ 63 * nanosPerSec ≤ moment.instantNow + left.toNat then .error .aborted
      else .ok (some (moment.instantNow + left.toNat))

/-- `Revoked::call`. -/
def revoked (moment : Moment) (inner : Service) : Service := fun request world =>
  match request.extensions.workload.bind (·.sid) with
  | none => inner request world
  | some sid =>
    if moment.revocations.isRevoked sid then (.error .sessionEnded, world)
    else
      match moment.deadline (credentialExpiry tokens request) with
      | .error rejection => (.error rejection, world)
      | .ok deadline =>
        -- Tracked before the inner service runs, so that nothing that lands meanwhile is missed.
        let tunnelEnd := moment.atCall.track sid deadline
        let (result, world) := inner request world
        (result.map (·.withEnd tunnelEnd), world)

/-- The layers of a deployed gateway, outer to inner, around whatever serves the tunnels. -/
def deployed (front : Front) (oracles : Oracles) (now : Nat) (moment : Moment) (layer : Enforce) (proxy : Service) :
    Service :=
  front.call tokens oracles now (revoked tokens moment (layer.call (meter proxy)))

end

/-! ## The two readings of a credential -/

/-- The token is a compact signed token, and its payload claims to expire at that second. -/
def Tokens.HasExp (tokens : Tokens) (token : String) (exp : Nat) : Prop :=
  ∃ header payload signature head bytes claim, token = header ++ "." ++ payload ++ "." ++ signature ∧
    tokens.base64UrlSafeNoPad header = some head ∧ tokens.base64UrlSafeNoPad payload = some bytes ∧
    tokens.claimsExp bytes = some claim ∧ claim.toInt = exp

/-- What the other crates say of themselves. The alphabet of `BASE64_URL_SAFE_NO_PAD` has no dot; a token that
`jsonwebtoken` decodes is a compact one, with the `exp` that the validation requires; and a number that `serde_json`
reads as an `i64`, it reads as a `u64` unless it is negative. -/
structure Tokens.Documented (tokens : Tokens) : Prop where
  alphabet : ∀ text bytes, tokens.base64UrlSafeNoPad text = some bytes → '.' ∉ text.toList
  ed25519 : ∀ now key token claims, tokens.decode now key token = .ok claims → ∃ exp, tokens.HasExp token exp
  hs256 : ∀ now secret token claims, tokens.decodeHs256 now secret token = .ok claims → ∃ exp, tokens.HasExp token exp
  member : ∀ bytes claim, tokens.claimsExp bytes = some claim → 0 ≤ claim.toInt →
    tokens.expOnly bytes = some (UInt64.ofNat claim.toInt.toNat)

section
variable {tokens : Tokens}

theorem CredentialIdentity.verify_hasExp (documented : tokens.Documented) {gateway : CredentialIdentity} {now : Nat}
    {token : String} {identity : WorkloadIdentity} (ok : gateway.verify tokens now token = .ok identity) :
    ∃ exp, tokens.HasExp token exp := by
  have ownSecret (ok : (tokens.decodeHs256 now gateway.hs token).map (·.identity) = .ok identity) :
      ∃ exp, tokens.HasExp token exp := by
    obtain ⟨claims, decoded, -⟩ := Result.map_eq_ok_iff.mp ok
    exact documented.hs256 now gateway.hs token claims decoded
  unfold CredentialIdentity.verify at ok
  dsimp only at ok
  split at ok
  · exact ownSecret ok
  split at ok
  · rename_i found
    obtain ⟨claims, verified, -⟩ := Result.map_eq_ok_iff.mp found
    obtain ⟨key, -, decoded⟩ := Platform.verifyClaimsWith_eq_ok verified
    exact documented.ed25519 now key token claims decoded
  · exact ownSecret ok

/-- Whichever verifier accepts a credential, it has decoded it with the one validation there is. -/
theorem Front.verify_hasExp (documented : tokens.Documented) {front : Front} {now : Nat} {token : String}
    {tenant : Option String} {identity : WorkloadIdentity} (ok : front.verify tokens now token = .ok (tenant, identity)) :
    ∃ exp, tokens.HasExp token exp := by
  cases front with
  | identity gateway =>
    obtain ⟨found, verified, -⟩ := Result.map_eq_ok_iff.mp ok
    exact CredentialIdentity.verify_hasExp documented verified
  | tenants table keys =>
    obtain ⟨found, verified, -⟩ := Result.map_eq_ok_iff.mp ok
    obtain ⟨key, decoded⟩ := verifyNow_decodes verified
    exact documented.ed25519 now key token _ decoded

/-- The payload that is read from the left is the one that was verified. -/
theorem credentialExpiry_eq (documented : tokens.Documented) {request : TunnelRequest} {token : String} {exp : Nat}
    (presented : request.bearerToken = some token) (claimed : tokens.HasExp token exp) :
    exp < 2 ^ 63 ∧ credentialExpiry tokens request = some (UInt64.ofNat exp) := by
  obtain ⟨header, payload, signature, head, bytes, claim, rfl, headDecodes, decodes, claims, same⟩ := claimed
  have compact : header ++ "." ++ payload ++ "." ++ signature =
      String.ofList (header.toList ++ '.' :: (payload.toList ++ '.' :: signature.toList)) := by
    rw [← String.toList_inj]
    simp
  have second : (Text.split '.' (header ++ "." ++ payload ++ "." ++ signature))[1]? = some payload := by
    rw [compact, Text.split_second (documented.alphabet _ _ headDecodes) (documented.alphabet _ _ decodes),
      String.ofList_toList]
  have read : tokens.expOnly bytes = some (UInt64.ofNat exp) := by
    rw [documented.member bytes claim claims (by omega), same, Int.toNat_natCast]
  refine ⟨by have := claim.toInt_lt; omega, ?_⟩
  simp [credentialExpiry, presented, second, decodes, read]

/-! ## Bounded tunnels -/

variable {front : Front} {oracles : Oracles} {now exp : Nat} {moment : Moment} {inner : Service}
  {request : TunnelRequest} {world after : World} {token sid : String} {tenant : Option String}
  {identity : WorkloadIdentity}

/-- The request as the front hands it on. -/
def TunnelRequest.admitted (request : TunnelRequest) (tenant : Option String) (identity : WorkloadIdentity) :
    TunnelRequest :=
  { request with extensions := ⟨tenant.or request.extensions.tenantId, some identity⟩ }

theorem Front.call_verified (presented : request.bearerToken = some token)
    (verified : front.verify tokens now token = .ok (tenant, identity)) :
    front.call tokens oracles now inner request world =
      inner (request.admitted tenant identity) (world.log (.verify token (.ok identity))) := by
  cases front with
  | identity gateway =>
    obtain ⟨found, accepts, same⟩ := Result.map_eq_ok_iff.mp verified
    cases same
    simp only [Front.call, identify, presented, accepts]
    rfl
  | tenants table keys =>
    obtain ⟨⟨org, found⟩, accepts, same⟩ := Result.map_eq_ok_iff.mp verified
    cases same
    simp only [Front.call, tenantIdentify, presented, accepts]
    rfl

theorem toNat_ofNat_exp (range : exp < 2 ^ 63) : (UInt64.ofNat exp).toNat = exp := by
  rw [UInt64.toNat_ofNat', Nat.mod_eq_of_lt (by omega)]

theorem Moment.deadline_expired (range : exp < 2 ^ 63) (expired : (exp * nanosPerSec : Nat) ≤ moment.systemNow) :
    moment.deadline (some (UInt64.ofNat exp)) = .error .sessionExpired := by
  simp only [Moment.deadline, toNat_ofNat_exp range]
  rw [if_neg (by omega), if_pos (by omega)]

/-- A deadline that is made lies as far ahead on its clock as the expiry does on the other. -/
theorem Moment.deadline_eq_ok {found : Option Nat} (range : exp < 2 ^ 63)
    (made : moment.deadline (some (UInt64.ofNat exp)) = .ok found) :
    ∃ deadline, found = some deadline ∧ moment.instantNow < deadline ∧
      (deadline : Int) - moment.instantNow = (exp * nanosPerSec : Nat) - moment.systemNow := by
  simp only [Moment.deadline, toNat_ofNat_exp range] at made
  rw [if_neg (by omega)] at made
  split at made
  · cases made
  split at made
  · cases made
  · cases made
    exact ⟨_, rfl, by omega, by omega⟩

section
variable (session : request.extensions.workload.bind (·.sid) = some sid)
include session

theorem revoked_listed (listed : moment.revocations.isRevoked sid = true) :
    revoked tokens moment inner request world = (.error .sessionEnded, world) := by
  simp [revoked, session, listed]

theorem revoked_refused {rejection : Rejection} (unlisted : moment.revocations.isRevoked sid = false)
    (refused : moment.deadline (credentialExpiry tokens request) = .error rejection) :
    revoked tokens moment inner request world = (.error rejection, world) := by
  simp [revoked, session, unlisted, refused]

theorem revoked_tracked {deadline : Option Nat} (unlisted : moment.revocations.isRevoked sid = false)
    (made : moment.deadline (credentialExpiry tokens request) = .ok deadline) :
    revoked tokens moment inner request world =
      ((inner request world).1.map (·.withEnd (moment.atCall.track sid deadline)), (inner request world).2) := by
  simp [revoked, session, unlisted, made]

end

end

/-- A session's tunnel is bounded by its credential and by its session: if the request is accepted, the session was
not revoked when the layer looked, and the limits carry an end that was subscribed before the inner service was called,
with the deadline of the token that was verified. If the session is revoked or the credential has run out, the answer
is a rejection whatever is inside. -/
theorem sessions_bound_their_tunnels (tokens : Tokens) (documented : tokens.Documented) (front : Front)
    (oracles : Oracles) (now : Nat) (moment : Moment) (layer : Enforce) (proxy : Service) (request : TunnelRequest)
    (world : World) (token sid : String) (tenant : Option String) (identity : WorkloadIdentity)
    (presented : request.bearerToken = some token)
    (verified : front.verify tokens now token = .ok (tenant, identity)) (session : identity.sid = some sid) :
    ∃ exp, (∀ other, tokens.HasExp token other ↔ other = exp) ∧
      (∀ accepted after, deployed tokens front oracles now moment layer proxy request world = (.ok accepted, after) →
        moment.revocations.isRevoked sid = false ∧
        ∃ granted tunnelEnd deadline,
          layer.call (meter proxy) (request.admitted tenant identity) (world.log (.verify token (.ok identity))) =
            (.ok granted, after) ∧
          accepted = granted.withEnd tunnelEnd ∧ accepted.limits.tunnelEnd = some tunnelEnd ∧
          tunnelEnd = moment.atCall.track sid (some deadline) ∧ tunnelEnd.sid = sid ∧
          tunnelEnd.deadline = some deadline ∧ moment.instantNow < deadline ∧
          (deadline : Int) - moment.instantNow = (exp * nanosPerSec : Nat) - moment.systemNow ∧
          ∀ during, (moment.atCall.replaceAll during).value ≠ moment.atCall.value →
            ((moment.atCall.replaceAll during).changed tunnelEnd.rx).1 = .ready) ∧
      (moment.revocations.isRevoked sid = true → ∀ inner,
        front.call tokens oracles now (revoked tokens moment inner) request world =
          (.error .sessionEnded, world.log (.verify token (.ok identity)))) ∧
      (moment.revocations.isRevoked sid = false → (exp * nanosPerSec : Nat) ≤ moment.systemNow → ∀ inner,
        front.call tokens oracles now (revoked tokens moment inner) request world =
          (.error .sessionExpired, world.log (.verify token (.ok identity)))) := by
  obtain ⟨exp, claimed⟩ := Front.verify_hasExp documented verified
  obtain ⟨range, expiry⟩ := credentialExpiry_eq documented presented claimed
  have read : credentialExpiry tokens (request.admitted tenant identity) = some (UInt64.ofNat exp) := expiry
  have named : (request.admitted tenant identity).extensions.workload.bind (·.sid) = some sid := session
  refine ⟨exp, fun other => ⟨fun also => ?_, fun same => same ▸ claimed⟩, ?_, ?_, ?_⟩
  -- The one reading of the header gives both.
  · obtain ⟨otherRange, otherExpiry⟩ := credentialExpiry_eq documented presented also
    have same := congrArg UInt64.toNat (Option.some.inj (otherExpiry.symm.trans expiry))
    rwa [toNat_ofNat_exp otherRange, toNat_ofNat_exp range] at same
  · intro accepted after called
    rw [deployed, Front.call_verified presented verified] at called
    cases listed : moment.revocations.isRevoked sid with
    | true =>
      rw [revoked_listed named listed] at called
      cases called
    | false =>
      cases made : moment.deadline (credentialExpiry tokens (request.admitted tenant identity)) with
      | error rejection =>
        rw [revoked_refused named listed made] at called
        cases called
      | ok found =>
        rw [revoked_tracked named listed made, Prod.mk.injEq] at called
        rw [read] at made
        obtain ⟨deadline, rfl, ahead, distance⟩ := Moment.deadline_eq_ok range made
        obtain ⟨granted, answer, rfl⟩ := Result.map_eq_ok_iff.mp called.1
        refine ⟨rfl, granted, _, deadline, Prod.ext answer called.2, rfl, rfl, rfl, rfl, rfl, ahead, distance, ?_⟩
        intro during differs
        exact Revocation.changed_of_replaceAll differs
  · intro listed inner
    rw [Front.call_verified presented verified, revoked_listed named listed]
  · intro unlisted expired inner
    have refused := Moment.deadline_expired range expired
    rw [← read] at refused
    rw [Front.call_verified presented verified, revoked_refused named unlisted refused]

/-! A credential of the gateway's own for the session `sess_a`, good until the second 100. -/

def issuedHeader : String := "eyJ0eXAiOiJKV1QiLCJhbGciOiJIUzI1NiJ9"

def issuedPayload : String :=
  "eyJpc3MiOiJ1cm46c2tpbWFzcXVlOmdhdGV3YXkiLCJpYXQiOjAsImV4cCI6MTAwLCJzaWQiOiJzZXNzX2EifQ"

def issuedSignature : String := "mIyAIfz8CfztIcQlu00i6Y3EqRZ4pKFWnyaHDOKXoiY"

def issuedToken : String := issuedHeader ++ "." ++ issuedPayload ++ "." ++ issuedSignature

def issuedHead : List UInt8 := headerText "\x7b\"typ\":\"JWT\",\"alg\":\"HS256\"\x7d"

def issuedClaims : List UInt8 :=
  headerText "\x7b\"iss\":\"urn:skimasque:gateway\",\"iat\":0,\"exp\":100,\"sid\":\"sess_a\"\x7d"

def issuedIdentity : WorkloadIdentity := { sid := some "sess_a" }

/-- The crates, on this one credential: `jsonwebtoken` takes it until its leeway of 30 seconds is over. -/
def issuedTokens : Tokens where
  decode _ _ _ := .error "InvalidAlgorithm"
  base64Standard _ := none
  base64UrlSafeNoPad text :=
    if text = issuedHeader then some issuedHead else if text = issuedPayload then some issuedClaims else none
  orgOnly _ := none
  decodeHs256 now secret token :=
    if token = issuedToken ∧ secret = List.replicate 32 1 ∧ now ≤ 130 then .ok ⟨none, issuedIdentity⟩
    else .error "InvalidToken"
  claimsExp bytes := if bytes = issuedClaims then some 100 else none
  expOnly bytes := if bytes = issuedClaims then some 100 else none

def isUrlSafe (c : Char) : Bool := Text.isAsciiAlphanumeric c || c == '-' || c == '_'

theorem isUrlSafe_header : issuedHeader.toList.all isUrlSafe = true := by decide +kernel

theorem isUrlSafe_payload : issuedPayload.toList.all isUrlSafe = true := by decide +kernel

theorem isUrlSafe_signature : issuedSignature.toList.all isUrlSafe = true := by decide +kernel

/-- Crates that know one credential of the gateway's own, which is taken up to the second `limit`. -/
def Tokens.single (payload signature : String) (bytes : List UInt8) (exp : Int64) (limit : Nat) : Tokens where
  decode _ _ _ := .error "InvalidAlgorithm"
  base64Standard _ := none
  base64UrlSafeNoPad text :=
    if text = issuedHeader then some issuedHead else if text = payload then some bytes else none
  orgOnly _ := none
  decodeHs256 now secret token :=
    if token = issuedHeader ++ "." ++ payload ++ "." ++ signature ∧ secret = List.replicate 32 1 ∧ now ≤ limit then
      .ok ⟨none, issuedIdentity⟩
    else .error "InvalidToken"
  claimsExp found := if found = bytes then some exp else none
  expOnly found := if found = bytes then some (UInt64.ofNat exp.toInt.toNat) else none

section
variable {payload signature : String} {bytes : List UInt8} {exp : Int64} {limit : Nat}

theorem Tokens.single_hasExp (apart : payload ≠ issuedHeader) (positive : 0 ≤ exp.toInt) :
    (Tokens.single payload signature bytes exp limit).HasExp (issuedHeader ++ "." ++ payload ++ "." ++ signature)
      exp.toInt.toNat := by
  refine ⟨issuedHeader, payload, signature, issuedHead, bytes, exp, rfl, ?_, ?_, ?_, (Int.toNat_of_nonneg positive).symm⟩
  · simp only [Tokens.single, if_true]
  · simp only [Tokens.single, if_neg apart, if_true]
  · simp only [Tokens.single, if_true]

theorem Tokens.single_documented (safe : payload.toList.all isUrlSafe = true) (apart : payload ≠ issuedHeader)
    (positive : 0 ≤ exp.toInt) : (Tokens.single payload signature bytes exp limit).Documented where
  alphabet text found decoded := by
    have clear {part : String} (safe : part.toList.all isUrlSafe = true) : '.' ∉ part.toList := by
      intro dotted
      exact absurd (List.all_eq_true.mp safe _ dotted) (by decide)
    simp only [Tokens.single] at decoded
    split at decoded
    · rename_i same
      exact same ▸ clear isUrlSafe_header
    split at decoded
    · rename_i same
      exact same ▸ clear safe
    · cases decoded
  ed25519 now key token claims decoded := by cases decoded
  hs256 now secret token claims decoded := by
    simp only [Tokens.single] at decoded
    split at decoded
    · rename_i same
      exact ⟨_, same.1 ▸ Tokens.single_hasExp apart positive⟩
    · cases decoded
  member found claim claims _ := by
    simp only [Tokens.single] at claims ⊢
    split at claims
    · rename_i same
      cases claims
      rw [if_pos same]
    · cases claims

end

theorem issuedTokens_eq : issuedTokens = Tokens.single issuedPayload issuedSignature issuedClaims 100 130 := rfl

theorem issuedPayload_ne : issuedPayload ≠ issuedHeader := by decide +kernel

theorem issued_hasExp : issuedTokens.HasExp issuedToken 100 := by
  rw [issuedTokens_eq]
  exact Tokens.single_hasExp issuedPayload_ne (by decide)

theorem issued_documented : issuedTokens.Documented := by
  rw [issuedTokens_eq]
  exact Tokens.single_documented isUrlSafe_payload issuedPayload_ne (by decide)

theorem toNat_of_isUrlSafe {c : Char} (safe : isUrlSafe c = true) : 32 ≤ c.toNat ∧ c.toNat < 127 := by
  have between {low high : Char} (within : low ≤ c ∧ c ≤ high) : low.toNat ≤ c.toNat ∧ c.toNat ≤ high.toNat :=
    ⟨UInt32.le_iff_toNat_le.mp within.1, UInt32.le_iff_toNat_le.mp within.2⟩
  simp only [isUrlSafe, Text.isAsciiAlphanumeric, Text.isAsciiDigit, Text.isAsciiAlphabetic, Bool.or_eq_true,
    Bool.and_eq_true, decide_eq_true_eq, beq_iff_eq] at safe
  rcases safe with ((digit | lower | upper) | rfl) | rfl
  · have bounds := between digit
    simp only [Char.reduceToNat] at bounds
    omega
  · have bounds := between lower
    simp only [Char.reduceToNat] at bounds
    omega
  · have bounds := between upper
    simp only [Char.reduceToNat] at bounds
    omega
  · decide
  · decide

def issuedRequest : TunnelRequest :=
  { databaseRequest with
    headers := [("proxy-authorization", headerText ("Bearer " ++ issuedToken)),
      ("x-masque-application", headerText "psql")] }

theorem bearerToken_of_isUrlSafe {request : TunnelRequest} {header payload signature : String}
    (headerSafe : header.toList.all isUrlSafe = true) (payloadSafe : payload.toList.all isUrlSafe = true)
    (signatureSafe : signature.toList.all isUrlSafe = true)
    (presented : request.headers.get "proxy-authorization" =
      some (headerText ("Bearer " ++ (header ++ "." ++ payload ++ "." ++ signature)))) :
    request.bearerToken = some (header ++ "." ++ payload ++ "." ++ signature) := by
  have visible {part : String} (safe : part.toList.all isUrlSafe = true) :
      ∀ c ∈ part.toList, 32 ≤ c.toNat ∧ c.toNat < 127 :=
    fun c member => toNat_of_isUrlSafe (List.all_eq_true.mp safe c member)
  have text : (headerText ("Bearer " ++ (header ++ "." ++ payload ++ "." ++ signature))).toStr =
      some ("Bearer " ++ (header ++ "." ++ payload ++ "." ++ signature)) := by
    apply toStr_headerText
    simp only [String.toList_append, List.forall_mem_append]
    refine ⟨by simp, ⟨⟨⟨visible headerSafe, by simp⟩, visible payloadSafe⟩, by simp⟩, ?_⟩
    exact visible signatureSafe
  rw [TunnelRequest.bearerToken, presented, Option.bind_some, text, Option.bind_some]
  exact Text.stripPrefix_eq_some_iff.mpr rfl

theorem issuedRequest_bearerToken : issuedRequest.bearerToken = some issuedToken := by
  apply bearerToken_of_isUrlSafe isUrlSafe_header isUrlSafe_payload isUrlSafe_signature
  simp [HeaderMap.get, issuedRequest, issuedToken]

def sessionPolicy : Policy :=
  { databasePolicy with matchSpec := {}, limits := { totalBytes := some 1000, concurrentConnections := some 2 } }

def sessionLayer : Enforce := ⟨.single ⟨[sessionPolicy]⟩, .enforce, true⟩

def accepting : Service := fun _ world => (.ok (.tcp 4 publicAddr), world)

/-- At the second 40, with another session's end on its way. -/
def atForty : Moment := ⟨Revocations.new, [{"sess_b"}], 40 * 10 ^ 9, 7 * 10 ^ 9⟩

def noWorld : World := ⟨[], ⟨∅, ∅, ∅⟩, []⟩

theorem issued_verifies (now : Nat) (early : now ≤ 130) :
    Front.verify issuedTokens (.identity ⟨none, List.replicate 32 1⟩) now issuedToken = .ok (none, issuedIdentity) := by
  simp only [Front.verify, CredentialIdentity.verify, issuedTokens, early, and_self, if_true]
  rfl

theorem session_tunnel_ends_with_its_credential :
    ∃ accepted after tunnelEnd,
      deployed issuedTokens (.identity ⟨none, List.replicate 32 1⟩) mixedAnswers 40 atForty sessionLayer accepting
        issuedRequest noWorld = (.ok accepted, after) ∧
      accepted.limits.totalBytes = some 1000 ∧ accepted.limits.tunnelEnd = some tunnelEnd ∧
      tunnelEnd.sid = "sess_a" ∧ tunnelEnd.deadline = some (67 * nanosPerSec) := by
  have verified := issued_verifies 40 (by decide)
  obtain ⟨-, expiry⟩ := credentialExpiry_eq issued_documented issuedRequest_bearerToken issued_hasExp
  have session : (issuedRequest.admitted none issuedIdentity).extensions.workload.bind (·.sid) = some "sess_a" := rfl
  have granted : (sessionLayer.call (meter accepting) (issuedRequest.admitted none issuedIdentity)
      (noWorld.log (.verify issuedToken (.ok issuedIdentity)))).1 =
      .ok { kind := .tcp 4 publicAddr, guards := [⟨"database"⟩], limits := { totalBytes := some 1000 } } := by
    decide +kernel
  obtain ⟨accepted, after, served, total⟩ : ∃ accepted after,
      deployed issuedTokens (.identity ⟨none, List.replicate 32 1⟩) mixedAnswers 40 atForty sessionLayer accepting
        issuedRequest noWorld = (.ok accepted, after) ∧ accepted.limits.totalBytes = some 1000 := by
    rw [deployed, Front.call_verified issuedRequest_bearerToken verified]
    have made : atForty.deadline (credentialExpiry issuedTokens (issuedRequest.admitted none issuedIdentity)) =
        .ok (some (67 * nanosPerSec)) := by
      rw [show credentialExpiry issuedTokens (issuedRequest.admitted none issuedIdentity) = _ from expiry]
      decide +kernel
    rw [revoked_tracked session rfl made, granted]
    exact ⟨_, _, rfl, rfl⟩
  obtain ⟨exp, unique, bounded, -, -⟩ := sessions_bound_their_tunnels issuedTokens issued_documented
    (.identity ⟨none, List.replicate 32 1⟩) mixedAnswers 40 atForty sessionLayer accepting issuedRequest noWorld issuedToken
    "sess_a" none issuedIdentity issuedRequest_bearerToken verified rfl
  obtain rfl := (unique 100).mp issued_hasExp
  obtain ⟨-, granted, tunnelEnd, deadline, -, -, carried, -, sid, ends, -, distance, -⟩ := bounded accepted after served
  refine ⟨accepted, after, tunnelEnd, served, total, carried, sid, ends.trans (congrArg some ?_)⟩
  simp only [atForty, nanosPerSec] at distance ⊢
  omega

end Skimasque.Gateway
