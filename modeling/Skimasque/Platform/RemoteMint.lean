import Skimasque.Platform.Mint

/-! Token exchange on a gateway of one organisation: the control plane is asked to mint the credential, and a local issuer
signs one where that fails. -/

set_option autoImplicit false

namespace Skimasque.Platform
open Library Engine

structure MintRequest where
  identity : WorkloadIdentity
  subject : Option String
  ttlSeconds : Nat
  deriving DecidableEq, Repr

structure MintResponse where
  credential : String
  expiresIn : Nat
  deriving DecidableEq, Repr

/-- What a request to the control plane comes to: no answer, or a status and a body, which may break off. -/
inductive Answer where
  | noAnswer
  | answered (status : Nat) (body : Except Unit String)
  deriving DecidableEq, Repr

/-- The other crates and the other side: the OIDC verifier for a token, the control plane, what a status and a JSON text
are read as, and the key of the local issuer. -/
structure RemoteServices where
  verifyClaims : String → Except OidcError Claims
  post : MintRequest → Answer
  statusText : Nat → String
  parseMintResponse : String → Option MintResponse
  issueFor : WorkloadIdentity → Option String → Nat → Except String MintedCredential

structure RemoteMinter where
  ttlSeconds : Nat
  fallback : Bool
  deriving DecidableEq, Repr

/-- The `outcome` that a mint is counted under. -/
inductive MintOutcome where
  | controlPlane
  | fallback
  | error
  deriving DecidableEq, Repr

def isSuccess (status : Nat) : Bool := 200 ≤ status && status < 300

def errorForStatus (services : RemoteServices) (status : Nat) (body : Except Unit String) (what : String) : Except String Unit :=
  if isSuccess status then .ok ()
  else .error (what ++ " failed: " ++ services.statusText status ++ " " ++ Text.trim (body.toOption.getD ""))

/-- Every way to fail ends in a text: what was asked for, a status, or what could not be read. -/
def mintCredential (services : RemoteServices) (request : MintRequest) : Except String MintedCredential :=
  match services.post request with
  | .noAnswer => .error "requesting a minted credential"
  | .answered status body => do
    errorForStatus services status body "credential mint"
    match body.toOption.bind services.parseMintResponse with
    | some minted => return ⟨minted.credential, minted.expiresIn⟩
    | none => .error "parsing the mint response"

def fallbackCredentialTtl : Nat := 300

/-- The result of an exchange, and what it is counted under once the identity is verified. -/
def RemoteMinter.mint (minter : RemoteMinter) (services : RemoteServices) (token : String) :
    Except MintError MintedCredential × Option MintOutcome :=
  match services.verifyClaims token with
  | .error (.discovery detail) | .error (.jwks detail) => (.error (.unavailable detail), none)
  | .error (.other detail) => (.error (.unauthorized detail), none)
  | .ok claims =>
    match mintCredential services ⟨claims.identity, claims.subject, minter.ttlSeconds⟩ with
    | .ok minted => (.ok minted, some .controlPlane)
    -- A refusal, an answer that cannot be read and no answer at all are one error here.
    | .error error =>
      if minter.fallback then
        (match services.issueFor claims.identity claims.subject fallbackCredentialTtl with
          | .ok issued => .ok issued
          | .error detail => .error (.unavailable detail), some .fallback)
      else (.error (.unavailable ("the control plane could not mint a credential: " ++ error)), some .error)

/-! ## Refusals -/

/-- No HTTP answer, or one that says the other side failed. -/
def Answer.Failed : Answer → Prop
  | .noAnswer => True
  | .answered status _ => 500 ≤ status ∧ status < 600

/-- The control plane heard the request and turned it down. -/
def Answer.Refused : Answer → Prop
  | .noAnswer => False
  | .answered status _ => 400 ≤ status ∧ status < 500

/-- The answer carries a credential. -/
def Answer.Minted (services : RemoteServices) : Answer → Prop
  | .noAnswer => False
  | .answered status body => isSuccess status = true ∧ (body.toOption.bind services.parseMintResponse).isSome = true

/-- A local credential only where the control plane failed, and none at all where it refused. -/
def RefusalFinal (minter : RemoteMinter) (services : RemoteServices) (token : String) (claims : Claims) : Prop :=
  let answer := services.post ⟨claims.identity, claims.subject, minter.ttlSeconds⟩
  (∀ credential, minter.mint services token = (.ok credential, some .fallback) → answer.Failed) ∧
    (answer.Refused → ∀ credential outcome, minter.mint services token ≠ (.ok credential, outcome))

section
variable {minter : RemoteMinter} {services : RemoteServices} {token : String} {claims : Claims}

/-- The request comes to a credential when the answer carries one, and to an error in every other case. -/
theorem mintCredential_isOk_iff {request : MintRequest} :
    (∃ minted, mintCredential services request = .ok minted) ↔ (services.post request).Minted services := by
  unfold mintCredential
  cases services.post request with
  | noAnswer => simp [Answer.Minted]
  | answered status body =>
    simp only [Answer.Minted, errorForStatus]
    by_cases success : isSuccess status = true
    · rw [if_pos success, Result.ok_bind]
      cases body.toOption.bind services.parseMintResponse with
      | none => simp [success]
      | some minted => simp [success, pure, Except.pure]
    · rw [if_neg success]
      simp [success, bind, Except.bind]

theorem not_refused_of_minted {answer : Answer} (minted : answer.Minted services) : ¬answer.Refused := by
  intro refused
  cases answer with
  | noAnswer => exact refused
  | answered status body =>
    obtain ⟨success, -⟩ := minted
    simp only [isSuccess, Bool.and_eq_true, decide_eq_true_iff] at success
    exact absurd success.2 (Nat.not_lt.mpr (Nat.le_trans (by decide) refused.1))

theorem not_refused_of_failed {answer : Answer} (failed : answer.Failed) : ¬answer.Refused := by
  intro refused
  cases answer with
  | noAnswer => exact refused
  | answered status body => exact absurd refused.2 (Nat.not_lt.mpr failed.1)

/-- A credential was minted where the answer carries one. -/
theorem mint_of_minted (verified : services.verifyClaims token = .ok claims)
    (minted : (services.post ⟨claims.identity, claims.subject, minter.ttlSeconds⟩).Minted services) :
    ∃ credential, minter.mint services token = (.ok credential, some .controlPlane) := by
  obtain ⟨credential, read⟩ := mintCredential_isOk_iff.mpr minted
  exact ⟨credential, by simp [RemoteMinter.mint, verified, read]⟩

/-- In every other case the local issuer is asked, if there is one. -/
theorem mint_of_not_minted (verified : services.verifyClaims token = .ok claims)
    (unminted : ¬(services.post ⟨claims.identity, claims.subject, minter.ttlSeconds⟩).Minted services) :
    (∀ credential outcome, minter.mint services token = (.ok credential, outcome) ↔ minter.fallback = true ∧
      services.issueFor claims.identity claims.subject fallbackCredentialTtl = .ok credential ∧ outcome = some .fallback) := by
  intro credential outcome
  rw [← mintCredential_isOk_iff] at unminted
  unfold RemoteMinter.mint
  rw [verified]
  cases read : mintCredential services ⟨claims.identity, claims.subject, minter.ttlSeconds⟩ with
  | ok minted => exact absurd ⟨minted, read⟩ unminted
  | error error =>
    simp only [read]
    cases minter.fallback with
    | false => simp
    | true =>
      cases services.issueFor claims.identity claims.subject fallbackCredentialTtl with
      | ok issued => simp [eq_comm]
      | error detail => simp

end

/-- A refusal is final exactly where no local issuer signs, or the control plane failed or minted the credential. -/
theorem refusal_is_final_iff (minter : RemoteMinter) (services : RemoteServices) (token : String) (claims : Claims)
    (verified : services.verifyClaims token = .ok claims) :
    RefusalFinal minter services token claims ↔
      minter.fallback = false ∨
      (∀ issued, services.issueFor claims.identity claims.subject fallbackCredentialTtl ≠ .ok issued) ∨
      (services.post ⟨claims.identity, claims.subject, minter.ttlSeconds⟩).Failed ∨
      (services.post ⟨claims.identity, claims.subject, minter.ttlSeconds⟩).Minted services := by
  unfold RefusalFinal
  by_cases minted : (services.post ⟨claims.identity, claims.subject, minter.ttlSeconds⟩).Minted services
  · obtain ⟨credential, made⟩ := @mint_of_minted minter services token claims verified minted
    simp only [minted, or_true, iff_true, made]
    exact ⟨by simp, fun refused => absurd refused (not_refused_of_minted minted)⟩
  · have made := @mint_of_not_minted minter services token claims verified minted
    simp only [minted, or_false, made, ne_eq]
    constructor
    -- An issuer that signs would have signed, so that the control plane must have failed.
    · rintro ⟨onlyFailed, -⟩
      by_contra other
      simp only [not_or, not_forall, not_not, Bool.not_eq_false] at other
      obtain ⟨fallback, ⟨issued, signs⟩, answered⟩ := other
      exact answered (onlyFailed issued ⟨fallback, signs, trivial⟩)
    · rintro (without | unsigned | failed)
      · simp [without]
      · simp [unsigned]
      · exact ⟨fun _ _ => failed, fun refused => absurd refused (not_refused_of_failed failed)⟩

-- A control plane that gives one answer, and a local issuer that always signs.
def answering (answer : Answer) : RemoteServices where
  verifyClaims _ := .ok ⟨{ organization := some "acme" }, some "repo:acme/widget", none⟩
  post _ := answer
  statusText _ := "403 Forbidden"
  parseMintResponse text := if text = "minted" then some ⟨"remote", 3600⟩ else none
  issueFor _ _ ttl := .ok ⟨"local", ttl⟩

/-- With an issuer, an answer with a credential leaves no room for another. -/
theorem minted_answer_is_final :
    RefusalFinal ⟨3600, true⟩ (answering (.answered 200 (.ok "minted"))) "token"
      ⟨{ organization := some "acme" }, some "repo:acme/widget", none⟩ := by
  rw [refusal_is_final_iff _ _ _ _ rfl]
  exact .inr (.inr (.inr ⟨rfl, rfl⟩))

/-- The control plane forbids the credential, and the gateway signs one. -/
theorem forbidden_is_signed_locally :
    RemoteMinter.mint ⟨3600, true⟩ (answering (.answered 403 (.ok "identity not allowed"))) "token" =
        (.ok ⟨"local", 300⟩, some .fallback) ∧
      ¬RefusalFinal ⟨3600, true⟩ (answering (.answered 403 (.ok "identity not allowed"))) "token"
        ⟨{ organization := some "acme" }, some "repo:acme/widget", none⟩ := by
  have signed : RemoteMinter.mint ⟨3600, true⟩ (answering (.answered 403 (.ok "identity not allowed"))) "token" =
      (.ok ⟨"local", 300⟩, some .fallback) := by decide
  refine ⟨signed, fun final => ?_⟩
  exact final.2 ⟨by decide, by decide⟩ _ _ signed

end Skimasque.Platform
