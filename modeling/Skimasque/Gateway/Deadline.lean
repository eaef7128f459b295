import Skimasque.Gateway.Session

/-! When the deadline of a session's tunnel can be computed: the two clocks and the `exp` of the token have different
ranges, and one sum is not checked. -/

set_option autoImplicit false

namespace Skimasque.Gateway
open Library Engine
open Revocation (Revocations TunnelEnd)

/-- Whatever is inside, the call ends: the session is over, the credential has expired, or the request is passed on and
what comes back carries an end. -/
def Settled (layer : Service → Service) (request passed : TunnelRequest) (world after : World) : Prop :=
  ∀ inner, layer inner request world = (.error .sessionEnded, after) ∨
    layer inner request world = (.error .sessionExpired, after) ∨
    ∃ tunnelEnd, layer inner request world = ((inner passed after).1.map (·.withEnd tunnelEnd), (inner passed after).2)

/-- A panic is none of the three: an inner service that accepts tells it from a request that was passed on. -/
theorem not_settled_of_aborted {layer : Service → Service} {request passed : TunnelRequest} {world after : World}
    (aborted : ∀ inner, layer inner request world = (.error .aborted, after)) :
    ¬Settled layer request passed world after := by
  intro settled
  have answer := settled accepting
  rw [aborted] at answer
  rcases answer with ended | expired | ⟨tunnelEnd, through⟩
  · exact absurd (Except.error.inj (congrArg Prod.fst ended)) (by decide)
  · exact absurd (Except.error.inj (congrArg Prod.fst expired)) (by decide)
  · cases congrArg Prod.fst through

section
variable {tokens : Tokens} {moment : Moment} {request : TunnelRequest} {world : World} {sid : String} {exp : Nat}

/-- The last sum of the three, and the only one that can leave its range: the distance to the expiry, added to the
monotonic clock. -/
def Moment.Fits (moment : Moment) (exp : Nat) : Prop :=
  (moment.instantNow : Int) + ((exp * nanosPerSec : Nat) - moment.systemNow) < (2 ^ 63 * nanosPerSec : Nat)

theorem Moment.deadline_fits (range : exp < 2 ^ 63) (ahead : moment.systemNow < (exp * nanosPerSec : Nat))
    (fits : moment.Fits exp) : ∃ deadline, moment.deadline (some (UInt64.ofNat exp)) = .ok (some deadline) := by
  simp only [Moment.deadline, toNat_ofNat_exp range]
  simp only [Moment.Fits] at fits
  rw [if_neg (by omega), if_neg (by omega), if_neg (by omega)]
  exact ⟨_, rfl⟩

theorem Moment.deadline_aborts (range : exp < 2 ^ 63) (ahead : moment.systemNow < (exp * nanosPerSec : Nat))
    (large : ¬moment.Fits exp) : moment.deadline (some (UInt64.ofNat exp)) = .error .aborted := by
  simp only [Moment.deadline, toNat_ofNat_exp range]
  simp only [Moment.Fits] at large
  rw [if_neg (by omega), if_neg (by omega), if_pos (by omega)]

theorem revoked_settled_iff (session : request.extensions.workload.bind (·.sid) = some sid) (range : exp < 2 ^ 63)
    (read : credentialExpiry tokens request = some (UInt64.ofNat exp)) :
    Settled (revoked tokens moment) request request world world ↔
      moment.revocations.isRevoked sid = true ∨ (exp * nanosPerSec : Nat) ≤ moment.systemNow ∨ moment.Fits exp := by
  cases listed : moment.revocations.isRevoked sid with
  | true => exact ⟨fun _ => .inl rfl, fun _ service => .inl (revoked_listed session listed)⟩
  | false =>
    simp only [Bool.false_eq_true, false_or]
    by_cases expired : (exp * nanosPerSec : Nat) ≤ moment.systemNow
    · have refused := Moment.deadline_expired range expired
      rw [← read] at refused
      exact ⟨fun _ => .inl expired, fun _ service => .inr (.inl (revoked_refused session listed refused))⟩
    rw [or_iff_right expired]
    have ahead : moment.systemNow < (exp * nanosPerSec : Nat) := by omega
    constructor
    · intro settled
      by_contra large
      have aborted := Moment.deadline_aborts range ahead large
      rw [← read] at aborted
      exact not_settled_of_aborted (fun inner => revoked_refused session listed aborted) settled
    · intro fits service
      obtain ⟨deadline, made⟩ := Moment.deadline_fits range ahead fits
      rw [← read] at made
      exact .inr (.inr ⟨_, revoked_tracked session listed made⟩)

end

/-- A session's request is answered exactly if its session has ended, its credential has expired, or the time that is
left fits on the monotonic clock. -/
theorem session_deadline_settled_iff (tokens : Tokens) (documented : tokens.Documented) (front : Front)
    (oracles : Oracles) (now : Nat) (moment : Moment) (request : TunnelRequest) (world : World) (token sid : String)
    (exp : Nat) (tenant : Option String) (identity : WorkloadIdentity) (presented : request.bearerToken = some token)
    (verified : front.verify tokens now token = .ok (tenant, identity)) (session : identity.sid = some sid)
    (claimed : tokens.HasExp token exp) :
    Settled (fun inner => front.call tokens oracles now (revoked tokens moment inner)) request
        (request.admitted tenant identity) world (world.log (.verify token (.ok identity))) ↔
      moment.revocations.isRevoked sid = true ∨ (exp * nanosPerSec : Nat) ≤ moment.systemNow ∨
        (moment.instantNow : Int) + ((exp * nanosPerSec : Nat) - moment.systemNow) < (2 ^ 63 * nanosPerSec : Nat) := by
  obtain ⟨range, expiry⟩ := credentialExpiry_eq documented presented claimed
  have read : credentialExpiry tokens (request.admitted tenant identity) = some (UInt64.ofNat exp) := expiry
  have named : (request.admitted tenant identity).extensions.workload.bind (·.sid) = some sid := session
  have called (inner : Service) := @Front.call_verified tokens front oracles now (revoked tokens moment inner) request world
    token tenant identity presented verified
  have settled : Settled (revoked tokens moment) (request.admitted tenant identity) (request.admitted tenant identity)
      (world.log (.verify token (.ok identity))) (world.log (.verify token (.ok identity))) ↔ _ :=
    revoked_settled_iff named range read
  rw [← Moment.Fits, ← settled]
  simp only [Settled, called]

theorem issued_request_is_settled :
    Settled (fun inner => Front.call issuedTokens (.identity ⟨none, List.replicate 32 1⟩) mixedAnswers 40
        (revoked issuedTokens atForty inner)) issuedRequest (issuedRequest.admitted none issuedIdentity) noWorld
      (noWorld.log (.verify issuedToken (.ok issuedIdentity))) := by
  refine (session_deadline_settled_iff issuedTokens issued_documented (.identity ⟨none, List.replicate 32 1⟩)
    mixedAnswers 40 atForty issuedRequest noWorld issuedToken "sess_a" 100 none issuedIdentity
    issuedRequest_bearerToken (issued_verifies 40 (by decide)) rfl issued_hasExp).mpr (.inr (.inr ?_))
  decide

/-! A credential of the same gateway with the largest `exp` there is, at a gateway that has been up for an hour and whose
wall clock reads the first second of 1970. -/

def lastingPayload : String :=
  "eyJpc3MiOiJ1cm46c2tpbWFzcXVlOmdhdGV3YXkiLCJpYXQiOjAsImV4cCI6OTIyMzM3MjAzNjg1NDc3NTgwNywic2lkIjoic2Vzc19hIn0"

def lastingSignature : String := "oIRcxdhCCcA9MnZrpoknMleSnVMCKscoUr0uOfO1cQw"

def lastingToken : String := issuedHeader ++ "." ++ lastingPayload ++ "." ++ lastingSignature

def lastingClaims : List UInt8 :=
  headerText "\x7b\"iss\":\"urn:skimasque:gateway\",\"iat\":0,\"exp\":9223372036854775807,\"sid\":\"sess_a\"\x7d"

def lastingTokens : Tokens :=
  .single lastingPayload lastingSignature lastingClaims 9223372036854775807 (9223372036854775807 + 30)

def lastingRequest : TunnelRequest :=
  { databaseRequest with
    headers := [("proxy-authorization", headerText ("Bearer " ++ lastingToken)),
      ("x-masque-application", headerText "psql")] }

theorem isUrlSafe_lastingPayload : lastingPayload.toList.all isUrlSafe = true := by decide +kernel

theorem isUrlSafe_lastingSignature : lastingSignature.toList.all isUrlSafe = true := by decide +kernel

theorem lastingPayload_ne : lastingPayload ≠ issuedHeader := by decide +kernel

theorem lasting_hasExp : lastingTokens.HasExp lastingToken 9223372036854775807 :=
  Tokens.single_hasExp lastingPayload_ne (by decide)

theorem lasting_documented : lastingTokens.Documented :=
  Tokens.single_documented isUrlSafe_lastingPayload lastingPayload_ne (by decide)

theorem lastingRequest_bearerToken : lastingRequest.bearerToken = some lastingToken := by
  apply bearerToken_of_isUrlSafe isUrlSafe_header isUrlSafe_lastingPayload isUrlSafe_lastingSignature
  simp [HeaderMap.get, lastingRequest, lastingToken]

theorem lasting_verifies :
    Front.verify lastingTokens (.identity ⟨none, List.replicate 32 1⟩) 1 lastingToken = .ok (none, issuedIdentity) := by
  have known : lastingTokens.decodeHs256 1 (List.replicate 32 1) lastingToken = .ok ⟨none, issuedIdentity⟩ := by
    have early : 1 ≤ 9223372036854775807 + 30 := by omega
    simp only [lastingTokens, Tokens.single, lastingToken, early, and_self, if_true]
  simp only [Front.verify, CredentialIdentity.verify, known]
  rfl

def wrongClock : Moment := ⟨Revocations.new, [], 10 ^ 9, 3600 * 10 ^ 9⟩

/-- The verifier accepts the credential, it has not expired, and the call panics. -/
theorem lasting_request_is_not_settled :
    lastingTokens.Documented ∧ lastingRequest.bearerToken = some lastingToken ∧
    Front.verify lastingTokens (.identity ⟨none, List.replicate 32 1⟩) 1 lastingToken = .ok (none, issuedIdentity) ∧
    issuedIdentity.sid = some "sess_a" ∧ lastingTokens.HasExp lastingToken 9223372036854775807 ∧
    Front.call lastingTokens (.identity ⟨none, List.replicate 32 1⟩) mixedAnswers 1
        (revoked lastingTokens wrongClock accepting) lastingRequest noWorld =
      (.error .aborted, noWorld.log (.verify lastingToken (.ok issuedIdentity))) ∧
    ¬Settled (fun inner => Front.call lastingTokens (.identity ⟨none, List.replicate 32 1⟩) mixedAnswers 1
        (revoked lastingTokens wrongClock inner)) lastingRequest (lastingRequest.admitted none issuedIdentity) noWorld
      (noWorld.log (.verify lastingToken (.ok issuedIdentity))) := by
  have range : 9223372036854775807 < 2 ^ 63 := by decide
  have large : ¬wrongClock.Fits 9223372036854775807 := by
    simp only [Moment.Fits, wrongClock, nanosPerSec]
    omega
  have ahead : wrongClock.systemNow < (9223372036854775807 * nanosPerSec : Nat) := by decide
  obtain ⟨-, expiry⟩ := credentialExpiry_eq lasting_documented lastingRequest_bearerToken lasting_hasExp
  have read : credentialExpiry lastingTokens (lastingRequest.admitted none issuedIdentity) =
    some (UInt64.ofNat 9223372036854775807) := expiry
  have named : (lastingRequest.admitted none issuedIdentity).extensions.workload.bind (·.sid) = some "sess_a" := rfl
  have aborted := Moment.deadline_aborts range ahead large
  rw [← read] at aborted
  have called (inner : Service) : Front.call lastingTokens (.identity ⟨none, List.replicate 32 1⟩) mixedAnswers 1
        (revoked lastingTokens wrongClock inner) lastingRequest noWorld =
      (.error .aborted, noWorld.log (.verify lastingToken (.ok issuedIdentity))) := by
    rw [Front.call_verified lastingRequest_bearerToken lasting_verifies, revoked_refused named rfl aborted]
  refine ⟨lasting_documented, lastingRequest_bearerToken, lasting_verifies, rfl, lasting_hasExp, called accepting, ?_⟩
  exact not_settled_of_aborted called

end Skimasque.Gateway
