import Skimasque.Control.Sync
import Skimasque.Library.Polling
import Skimasque.Platform.Tenants

/-! How often a gateway polls: the loops that follow the policy, the revoked sessions and the tenants, when each poll starts
and what it says is known already. -/

set_option autoImplicit false

namespace Skimasque.Control
open Library Library.Polling Engine

/-- An answer, how many milliseconds the control plane held the request open, and the time it is given at. -/
structure Turn (α : Type) where
  answer : α
  took : Nat
  now : Nat
  deriving DecidableEq, Repr

/-- The least time between two tenant polls, in milliseconds. -/
def minPollInterval : Nat := 1000

def maxBackoff : Nat := 60

/-- A version that is sent with a poll; `0` stands for none. -/
def known : Nat → Option Nat
  | 0 => none
  | version + 1 => some (version + 1)

/-! ## The three loops -/

section
variable (formats : Formats) (runtime : Platform.Runtime)

def policyStep (gateway : Gateway) (turn : Turn Response) : Gateway := syncStep formats gateway (turn.answer, turn.now)

def policySent (gateway : Gateway) : Option Nat := known gateway.state.version

/-- Only a failed poll is slept on. -/
def policyGap (gateway : Gateway) (turn : Turn Response) : Nat :=
  turn.took + match turn.answer with
    | .failed => gateway.backoff * 1000
    | _ => 0

inductive RevocationAnswer where
  | updated (generation : Nat) (revoked : List String)
  | unchanged
  | failed
  deriving DecidableEq, Repr

structure RevocationSync where
  generation : Option Nat
  revoked : List String
  backoff : Nat
  deriving DecidableEq, Repr

/-- One turn of `run_revocation_sync`. -/
def revocationStep (sync : RevocationSync) (turn : Turn RevocationAnswer) : RevocationSync :=
  match turn.answer with
  | .updated generation revoked => ⟨some generation, revoked, 1⟩
  | .unchanged => { sync with backoff := 1 }
  | .failed => { sync with backoff := min (sync.backoff * 2) maxBackoff }

def revocationGap (sync : RevocationSync) (turn : Turn RevocationAnswer) : Nat :=
  turn.took + match turn.answer with
    | .failed => sync.backoff * 1000
    | _ => 0

inductive TenantAnswer where
  | updated (list : Platform.Protocol.TenantList)
  | unchanged
  | failed

structure TenantSync where
  table : Platform.TenantSnapshot
  state : SyncState
  backoff : Nat

/-- One turn of `run_tenant_sync`. -/
def tenantStep (sync : TenantSync) (turn : Turn TenantAnswer) : TenantSync :=
  match turn.answer with
  | .updated list => ⟨Platform.tableOf runtime list, ⟨list.version, true⟩, 1⟩
  | .unchanged => { sync with state := { sync.state with healthy := true }, backoff := 1 }
  | .failed => { sync with state := { sync.state with healthy := false }, backoff := min (sync.backoff * 2) maxBackoff }

def tenantSent (sync : TenantSync) : Option Nat := known sync.table.version

/-- Whatever the answer, the next poll waits for its earliest time. -/
def tenantGap (sync : TenantSync) (turn : Turn TenantAnswer) : Nat :=
  max minPollInterval (turn.took + match turn.answer with
    | .failed => sync.backoff * 1000
    | _ => 0)

/-! ## What keeps a loop from spinning -/

/-- The poll failed, or was held open, or brought a revision that loads under another version. -/
def PolicyCalm (gateway : Gateway) (turn : Turn Response) : Prop :=
  turn.answer = .failed ∨ minPollInterval ≤ turn.took ∨
    ∃ version documents set, turn.answer = .body version documents ∧ PolicySet.fromDocuments formats documents = .ok set ∧
      known version ≠ known gateway.state.version

/-- The poll failed, or was held open, or brought a list of another generation. -/
def RevocationCalm (sync : RevocationSync) (turn : Turn RevocationAnswer) : Prop :=
  turn.answer = .failed ∨ minPollInterval ≤ turn.took ∨
    ∃ generation revoked, turn.answer = .updated generation revoked ∧ some generation ≠ sync.generation

def policyPolls : Gateway → Nat → List (Turn Response) → List (Nat × Option Nat) :=
  polls (policyStep formats) policySent policyGap

def revocationPolls : RevocationSync → Nat → List (Turn RevocationAnswer) → List (Nat × Option Nat) :=
  polls revocationStep RevocationSync.generation revocationGap

def tenantPolls : TenantSync → Nat → List (Turn TenantAnswer) → List (Nat × Option Nat) :=
  polls (tenantStep runtime) tenantSent tenantGap

end

variable {formats : Formats}

theorem backoff_policyStep {gateway : Gateway} (turn : Turn Response) (positive : 1 ≤ gateway.backoff) :
    1 ≤ (policyStep formats gateway turn).backoff := by
  obtain ⟨answer, took, now⟩ := turn
  cases answer with
  | notModified => exact Nat.le_refl 1
  | noContent => exact Nat.le_refl 1
  | failed =>
    have doubled : (policyStep formats gateway ⟨.failed, took, now⟩).backoff = min (gateway.backoff * 2) 60 := rfl
    omega
  | body version documents =>
    unfold policyStep syncStep fetchPolicy
    simp only
    cases PolicySet.fromDocuments formats documents with
    | ok set => exact Nat.le_refl 1
    | error source => exact Nat.le_refl 1

theorem policy_apart_iff {gateway : Gateway} (turn : Turn Response) (positive : 1 ≤ gateway.backoff) :
    (minPollInterval ≤ policyGap gateway turn ∨ policySent (policyStep formats gateway turn) ≠ policySent gateway) ↔
      PolicyCalm formats gateway turn := by
  obtain ⟨answer, took, now⟩ := turn
  unfold PolicyCalm
  cases answer with
  | notModified =>
    have same : policySent (policyStep formats gateway ⟨.notModified, took, now⟩) = policySent gateway := rfl
    simp [same, policyGap]
  | noContent =>
    have same : policySent (policyStep formats gateway ⟨.noContent, took, now⟩) = policySent gateway := rfl
    simp [same, policyGap]
  | failed =>
    simp only [policyGap, true_or, iff_true]
    left
    unfold minPollInterval
    omega
  | body version documents =>
    -- Only a revision that loads changes the version of the next poll; one that does not is written and forgotten.
    cases loads : PolicySet.fromDocuments formats documents with
    | ok set =>
      have sent : policySent (policyStep formats gateway ⟨.body version documents, took, now⟩) = known version := by
        simp [policySent, policyStep, syncStep, fetchPolicy, loads]
      rw [sent]
      simp [policyGap, loads, policySent]
    | error source =>
      have same : policySent (policyStep formats gateway ⟨.body version documents, took, now⟩) = policySent gateway := by
        simp [policySent, policyStep, syncStep, fetchPolicy, loads]
      simp [same, policyGap, loads]

theorem backoff_revocationStep {sync : RevocationSync} (turn : Turn RevocationAnswer) (positive : 1 ≤ sync.backoff) :
    1 ≤ (revocationStep sync turn).backoff := by
  obtain ⟨answer, took, now⟩ := turn
  cases answer with
  | updated generation revoked => exact Nat.le_refl 1
  | unchanged => exact Nat.le_refl 1
  | failed =>
    have doubled : (revocationStep sync ⟨.failed, took, now⟩).backoff = min (sync.backoff * 2) 60 := rfl
    omega

theorem revocation_apart_iff {sync : RevocationSync} (turn : Turn RevocationAnswer) (positive : 1 ≤ sync.backoff) :
    (minPollInterval ≤ revocationGap sync turn ∨ (revocationStep sync turn).generation ≠ sync.generation) ↔
      RevocationCalm sync turn := by
  obtain ⟨answer, took, now⟩ := turn
  unfold RevocationCalm
  cases answer with
  | updated generation revoked => simp [revocationGap, revocationStep]
  | unchanged => simp [revocationGap, revocationStep]
  | failed =>
    simp only [revocationGap, true_or, iff_true]
    left
    unfold minPollInterval
    omega

/-- The policy and revocation loops leave time between two polls that say the same exactly where no answer is given at once
that does not change what they say; the tenant loop always does. -/
theorem polling_is_paced_iff (formats : Formats) (runtime : Platform.Runtime) :
    (∀ gateway : Gateway, gateway.backoff = 1 → ∀ start turns,
      Paced minPollInterval (policyPolls formats gateway start turns) ↔
        Along (policyStep formats) (PolicyCalm formats) gateway turns) ∧
    (∀ sync : RevocationSync, sync.backoff = 1 → ∀ start turns,
      Paced minPollInterval (revocationPolls sync start turns) ↔ Along revocationStep RevocationCalm sync turns) ∧
    ∀ sync : TenantSync, ∀ start turns, Paced minPollInterval (tenantPolls runtime sync start turns) := by
  refine ⟨?_, ?_, ?_⟩
  -- A back-off of a second at least is what makes a failed poll wait long enough, in every state of the run.
  · intro gateway first start turns
    apply @paced_iff _ _ _ _ _ _ _ fun gateway : Gateway => 1 ≤ gateway.backoff
    · exact fun gateway turn positive => backoff_policyStep turn positive
    · exact fun gateway turn positive => policy_apart_iff turn positive
    · exact first.ge
  · intro sync first start turns
    apply @paced_iff _ _ _ _ _ _ _ fun sync : RevocationSync => 1 ≤ sync.backoff
    · exact fun sync turn positive => backoff_revocationStep turn positive
    · exact fun sync turn positive => revocation_apart_iff turn positive
    · exact first.ge
  · intro sync start turns
    have always := @paced_iff _ _ _ (tenantStep runtime) tenantSent tenantGap minPollInterval (fun _ => True) (fun _ _ => True)
      (fun _ _ _ => trivial) (fun sync turn _ => by simp [tenantGap]) sync trivial start turns
    exact always.mpr (along_of_forall (fun _ _ => trivial) sync turns)

/-- A revision that does not load, given at once, is fetched and written again in the same millisecond, as the same version. -/
theorem rejected_revision_spins :
    policyPolls sampleFormats closedGateway 0
        [⟨.body 2 [⟨"bad.toml", "name ="⟩], 0, 10⟩, ⟨.body 2 [⟨"bad.toml", "name ="⟩], 0, 10⟩] =
          [(0, some 1), (0, some 1), (0, some 1)] ∧
      ¬Paced minPollInterval (policyPolls sampleFormats closedGateway 0
        [⟨.body 2 [⟨"bad.toml", "name ="⟩], 0, 10⟩, ⟨.body 2 [⟨"bad.toml", "name ="⟩], 0, 10⟩]) ∧
      ¬Paced minPollInterval (revocationPolls ⟨none, [], 1⟩ 0 [⟨.unchanged, 0, 10⟩]) := by
  have rejected : policyPolls sampleFormats closedGateway 0
      [⟨.body 2 [⟨"bad.toml", "name ="⟩], 0, 10⟩, ⟨.body 2 [⟨"bad.toml", "name ="⟩], 0, 10⟩] =
        [(0, some 1), (0, some 1), (0, some 1)] := by decide
  refine ⟨rejected, ?_, ?_⟩
  · rw [rejected]
    simp [Paced, Apart, minPollInterval]
  · simp [Paced, Apart, minPollInterval, revocationPolls, polls, revocationGap, revocationStep]

end Skimasque.Control
