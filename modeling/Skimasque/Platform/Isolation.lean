import Mathlib.Logic.Function.Basic
import Skimasque.Library.Transition
import Skimasque.Platform.Credential

/-! Credential verification while tenant lists are being applied. `apply` publishes the key map and the table
one after the other, under a lock that only other applies take; `verify_now` reads the table and then the key
map, and takes no lock. Each publication and each read is a step of its own. -/

set_option autoImplicit false

namespace Skimasque.Platform
open Library Engine

section
variable (jwt : Jwt)

def credentialDidNotVerify : String := "credential did not verify"

/-- What is left of `verify_now` once the tenant is resolved, with the key map as it is read then. -/
def verifyTenant (now : Nat) (keys : Map CredentialVerifier) (token : String) (tenant : Tenant) :
    Except String (String × WorkloadIdentity) :=
  match keys.lookup tenant.id with
  | none => .error credentialDidNotVerify
  | some verifier =>
    match verifier.verifyForOrg jwt now token tenant.id with
    | .ok identity => .ok (tenant.id, identity)
    | .error _ => .error credentialDidNotVerify

/-- `verify_now`, over the table and the key map that its two reads return. -/
def verifyNow (now : Nat) (table : TenantSnapshot) (keys : Map CredentialVerifier) (token : String) :
    Except String (String × WorkloadIdentity) :=
  match peekOrgId jwt token with
  | none => .error credentialNotScoped
  | some org =>
    match table.resolveOrg org with
    | none => .error "unknown organisation"
    | some tenant => verifyTenant jwt now keys token tenant

end

/-- Where a caller of `apply` stands. -/
inductive ApplyPhase where
  | idle
  | waiting : Protocol.TenantList → ApplyPhase
  | locked : Protocol.TenantList → ApplyPhase
  | keysPublished : Protocol.TenantList → ApplyPhase
  | tablePublished : Protocol.TenantList → ApplyPhase

/-- Where a call of `verify_now` stands. -/
inductive VerifyPhase where
  | idle
  | peeked (token org : String)
  | resolved (token : String) (tenant : Tenant)
  | done (token : String) (result : Except String (String × WorkloadIdentity))

structure State where
  keys : Map CredentialVerifier
  table : TenantSnapshot
  applyLock : Option Nat
  applies : Nat → ApplyPhase
  calls : Nat → VerifyPhase
  -- The rest is history, which no step reads: the lists the key map and the table were made of, and every list
  -- whose keys were published, in that order.
  keysFrom : Protocol.TenantList
  tableFrom : Protocol.TenantList
  published : List Protocol.TenantList

inductive Event where
  | beginApply (caller : Nat) (list : Protocol.TenantList)
  | takeLock (caller : Nat)
  | publishKeys (caller : Nat)
  | publishTable (caller : Nat)
  | release (caller : Nat)
  | beginVerify (call : Nat) (token : String)
  | readTable (call : Nat)
  | readKeys (call now : Nat)

def noTenants : Protocol.TenantList := ⟨0, []⟩

section
variable (runtime : Runtime) (jwt : Jwt)

/-- `PlatformTenants::new`, before anyone has called anything. -/
def State.initial : State where
  keys := ∅
  table := ⟨0, ∅, ∅⟩
  applyLock := none
  applies := fun _ => .idle
  calls := fun _ => .idle
  keysFrom := noTenants
  tableFrom := noTenants
  published := []

def State.setApply (s : State) (caller : Nat) (phase : ApplyPhase) : State :=
  { s with applies := Function.update s.applies caller phase }

def State.setCall (s : State) (call : Nat) (phase : VerifyPhase) : State :=
  { s with calls := Function.update s.calls call phase }

def step (s : State) : Event → Option State
  | .beginApply caller list =>
    match s.applies caller with
    | .idle => some (s.setApply caller (.waiting list))
    | _ => none
  | .takeLock caller =>
    match s.applies caller, s.applyLock with
    | .waiting list, none => some { s.setApply caller (.locked list) with applyLock := some caller }
    | _, _ => none
  | .publishKeys caller =>
    match s.applies caller with
    | .locked list =>
      some { s.setApply caller (.keysPublished list) with
        keys := keyMapOf jwt list, keysFrom := list, published := s.published ++ [list] }
    | _ => none
  | .publishTable caller =>
    match s.applies caller with
    | .keysPublished list =>
      some { s.setApply caller (.tablePublished list) with table := tableOf runtime list, tableFrom := list }
    | _ => none
  | .release caller =>
    match s.applies caller with
    | .tablePublished _ => some { s.setApply caller .idle with applyLock := none }
    | _ => none
  | .beginVerify call token =>
    match s.calls call with
    | .idle =>
      match peekOrgId jwt token with
      | none => some (s.setCall call (.done token (.error credentialNotScoped)))
      | some org => some (s.setCall call (.peeked token org))
    | _ => none
  | .readTable call =>
    match s.calls call with
    | .peeked token org =>
      match s.table.resolveOrg org with
      | none => some (s.setCall call (.done token (.error "unknown organisation")))
      | some tenant => some (s.setCall call (.resolved token tenant))
    | _ => none
  | .readKeys call now =>
    match s.calls call with
    | .resolved token tenant => some (s.setCall call (.done token (verifyTenant jwt now s.keys token tenant)))
    | _ => none

end

/-! ## What a step can do -/

variable {runtime : Runtime} {jwt : Jwt} {s s' : State} {event : Event} {events : List Event}

/-- How one call moves on in a state. -/
inductive VerifyPhase.Advances (jwt : Jwt) (s : State) : VerifyPhase → VerifyPhase → Prop where
  | refused {token : String} : peekOrgId jwt token = none →
      Advances jwt s .idle (.done token (.error credentialNotScoped))
  | peeks {token org : String} : peekOrgId jwt token = some org → Advances jwt s .idle (.peeked token org)
  | unknown {token org : String} : s.table.resolveOrg org = none →
      Advances jwt s (.peeked token org) (.done token (.error "unknown organisation"))
  | resolves {token org : String} {tenant : Tenant} : s.table.resolveOrg org = some tenant →
      Advances jwt s (.peeked token org) (.resolved token tenant)
  | checks {token : String} {tenant : Tenant} (now : Nat) :
      Advances jwt s (.resolved token tenant) (.done token (verifyTenant jwt now s.keys token tenant))

inductive Steps (runtime : Runtime) (jwt : Jwt) (s : State) : State → Prop where
  | begins {caller : Nat} {list : Protocol.TenantList} : s.applies caller = .idle →
      Steps runtime jwt s (s.setApply caller (.waiting list))
  | locks {caller : Nat} {list : Protocol.TenantList} : s.applies caller = .waiting list →
    s.applyLock = none →
      Steps runtime jwt s { s.setApply caller (.locked list) with applyLock := some caller }
  | publishesKeys {caller : Nat} {list : Protocol.TenantList} : s.applies caller = .locked list →
      Steps runtime jwt s { s.setApply caller (.keysPublished list) with
        keys := keyMapOf jwt list, keysFrom := list, published := s.published ++ [list] }
  | publishesTable {caller : Nat} {list : Protocol.TenantList} : s.applies caller = .keysPublished list →
      Steps runtime jwt s { s.setApply caller (.tablePublished list) with
        table := tableOf runtime list, tableFrom := list }
  | releases {caller : Nat} {list : Protocol.TenantList} : s.applies caller = .tablePublished list →
      Steps runtime jwt s { s.setApply caller .idle with applyLock := none }
  | verifies {call : Nat} {phase : VerifyPhase} : (s.calls call).Advances jwt s phase →
      Steps runtime jwt s (s.setCall call phase)

theorem steps_of_step (stepped : step runtime jwt s event = some s') : Steps runtime jwt s s' := by
  cases event with
  | beginApply caller list =>
    simp only [step] at stepped
    split at stepped <;> cases stepped
    exact .begins ‹_›
  | takeLock caller =>
    simp only [step] at stepped
    split at stepped <;> cases stepped
    exact .locks ‹_› ‹_›
  | publishKeys caller =>
    simp only [step] at stepped
    split at stepped <;> cases stepped
    exact .publishesKeys ‹_›
  | publishTable caller =>
    simp only [step] at stepped
    split at stepped <;> cases stepped
    exact .publishesTable ‹_›
  | release caller =>
    simp only [step] at stepped
    split at stepped <;> cases stepped
    exact .releases ‹_›
  | beginVerify call token =>
    simp only [step] at stepped
    split at stepped
    · rename_i idle
      split at stepped <;> cases stepped <;> apply Steps.verifies <;> rw [idle]
      · exact .refused ‹_›
      · exact .peeks ‹_›
    · cases stepped
  | readTable call =>
    simp only [step] at stepped
    split at stepped
    · rename_i peeked
      split at stepped <;> cases stepped <;> apply Steps.verifies <;> rw [peeked]
      · exact .unknown ‹_›
      · exact .resolves ‹_›
    · cases stepped
  | readKeys call now =>
    simp only [step] at stepped
    split at stepped <;> cases stepped
    apply Steps.verifies
    rename_i resolved
    rw [resolved]
    exact .checks now

/-! ## The lock keeps the two publications together -/

/-- What is true of the state while a caller is in a phase. -/
def ApplyPhase.Agrees (s : State) (caller : Nat) : ApplyPhase → Prop
  | .idle | .waiting _ => s.applyLock ≠ some caller
  | .locked _ => s.applyLock = some caller ∧ s.keysFrom = s.tableFrom
  | .keysPublished list => s.applyLock = some caller ∧ s.keysFrom = list
  | .tablePublished list => s.applyLock = some caller ∧ s.keysFrom = list ∧ s.tableFrom = list

structure Consistent (runtime : Runtime) (jwt : Jwt) (s : State) : Prop where
  keys : s.keys = keyMapOf jwt s.keysFrom
  table : s.table = tableOf runtime s.tableFrom
  free : s.applyLock = none → s.keysFrom = s.tableFrom
  phases : ∀ caller, (s.applies caller).Agrees s caller

/-- A caller without the lock is outside the section it guards, whatever happens to the state inside. -/
theorem ApplyPhase.Agrees.outside {caller : Nat} {phase : ApplyPhase} (agrees : phase.Agrees s caller)
    (before : s.applyLock ≠ some caller) (after : s'.applyLock ≠ some caller) :
    phase.Agrees s' caller := by
  cases phase with
  | idle => exact after
  | waiting list => exact after
  | locked list => exact absurd agrees.1 before
  | keysPublished list => exact absurd agrees.1 before
  | tablePublished list => exact absurd agrees.1 before

/-- One caller moves, and what was true of the others stays true. -/
theorem agrees_update {caller : Nat} {phase : ApplyPhase}
    (phases : ∀ other, (s.applies other).Agrees s other)
    (applies : s'.applies = Function.update s.applies caller phase) (moved : phase.Agrees s' caller)
    (others : ∀ other, other ≠ caller → ∀ phase : ApplyPhase, phase.Agrees s other → phase.Agrees s' other)
    (other : Nat) : (s'.applies other).Agrees s' other := by
  rw [applies]
  by_cases same : other = caller
  · subst same
    rw [Function.update_self]
    exact moved
  · rw [Function.update_of_ne same]
    exact others other same _ (phases other)

theorem consistent_initial : Consistent runtime jwt State.initial where
  keys := rfl
  table := rfl
  free := fun _ => rfl
  phases := fun caller => (Option.some_ne_none caller).symm

theorem Consistent.steps (consistent : Consistent runtime jwt s) (stepped : Steps runtime jwt s s') :
    Consistent runtime jwt s' := by
  have notMine {lock : Option Nat} {caller : Nat} (held : lock = some caller) (other : Nat)
      (different : other ≠ caller) : lock ≠ some other := by
    rw [held]
    exact fun same => different (Option.some.inj same).symm
  have unlocked {lock : Option Nat} (free : lock = none) (other : Nat) : lock ≠ some other := by
    rw [free]
    exact (Option.some_ne_none other).symm
  cases stepped with
  | verifies advances => exact { consistent with }
  | @begins caller list idle =>
    have mine := consistent.phases caller
    rw [idle] at mine
    refine ⟨consistent.keys, consistent.table, consistent.free, ?_⟩
    -- Anyone may hold the lock here; nothing the others rely on changes.
    exact agrees_update consistent.phases rfl mine fun _ _ _ agrees => agrees
  | @locks caller list waiting free =>
    refine ⟨consistent.keys, consistent.table, fun freed => absurd freed (Option.some_ne_none _), ?_⟩
    exact agrees_update consistent.phases rfl ⟨rfl, consistent.free free⟩
      fun other different _ agrees => agrees.outside (unlocked free other) (notMine rfl other different)
  | @publishesKeys caller list locked =>
    have mine := consistent.phases caller
    rw [locked] at mine
    refine ⟨rfl, consistent.table, fun free => absurd (mine.1.symm.trans free) (Option.some_ne_none _), ?_⟩
    exact agrees_update consistent.phases rfl ⟨mine.1, rfl⟩
      fun other different _ agrees =>
        agrees.outside (notMine mine.1 other different) (notMine mine.1 other different)
  | @publishesTable caller list half =>
    have mine := consistent.phases caller
    rw [half] at mine
    refine ⟨consistent.keys, rfl, fun _ => mine.2, ?_⟩
    exact agrees_update consistent.phases rfl ⟨mine.1, mine.2, rfl⟩
      fun other different _ agrees =>
        agrees.outside (notMine mine.1 other different) (notMine mine.1 other different)
  | @releases caller list complete =>
    have mine := consistent.phases caller
    rw [complete] at mine
    refine ⟨consistent.keys, consistent.table, fun _ => mine.2.1.trans mine.2.2.symm, ?_⟩
    exact agrees_update consistent.phases rfl (unlocked rfl caller)
      fun other different _ agrees => agrees.outside (notMine mine.1 other different) (unlocked rfl other)

theorem consistent_run (consistent : Consistent runtime jwt s)
    (ran : Transition.run (step runtime jwt) s events = some s') : Consistent runtime jwt s' :=
  Transition.run_invariant (Consistent runtime jwt)
    (fun _ _ _ before stepped => before.steps (steps_of_step stepped)) consistent ran

/-! ## What a call reads -/

/-- All a call has read came from tables and key maps of allowed lists, not always of one and the same. -/
def VerifyPhase.From (runtime : Runtime) (jwt : Jwt) (allowed : Protocol.TenantList → Prop) :
    VerifyPhase → Prop
  | .idle => True
  | .peeked token org => peekOrgId jwt token = some org
  | .resolved token tenant =>
    ∃ list, allowed list ∧ ∃ org, peekOrgId jwt token = some org ∧
      (tableOf runtime list).resolveOrg org = some tenant
  | .done token result =>
    ∃ tableList keysList now, allowed tableList ∧ allowed keysList ∧
      result = verifyNow jwt now (tableOf runtime tableList) (keyMapOf jwt keysList) token

structure Fed (runtime : Runtime) (jwt : Jwt) (allowed : Protocol.TenantList → Prop) (call : Nat)
    (s : State) : Prop where
  keys : allowed s.keysFrom
  table : allowed s.tableFrom
  phase : (s.calls call).From runtime jwt allowed

theorem VerifyPhase.From.advance {allowed : Protocol.TenantList → Prop} {phase phase' : VerifyPhase}
    (consistent : Consistent runtime jwt s) (keys : allowed s.keysFrom) (table : allowed s.tableFrom)
    (came : phase.From runtime jwt allowed)
    (advances : phase.Advances jwt s phase') : phase'.From runtime jwt allowed := by
  cases advances with
  | refused unscoped =>
    refine ⟨s.tableFrom, s.keysFrom, 0, table, keys, ?_⟩
    simp only [verifyNow, unscoped]
  | peeks claimed => exact claimed
  | @unknown token org missing =>
    have claimed : peekOrgId jwt token = some org := came
    refine ⟨s.tableFrom, s.keysFrom, 0, table, keys, ?_⟩
    rw [consistent.table] at missing
    simp only [verifyNow, claimed, missing]
  | resolves found =>
    rw [consistent.table] at found
    exact ⟨s.tableFrom, table, _, came, found⟩
  | checks now =>
    obtain ⟨list, listed, org, claimed, found⟩ := came
    refine ⟨list, s.keysFrom, now, listed, keys, ?_⟩
    simp only [verifyNow, claimed, found, consistent.keys]

/-- A step publishes the keys of one list at most, and feeds a call from nothing else that is new. -/
theorem Fed.steps (allowed : Protocol.TenantList → Prop) (call : Nat)
    (consistent : Consistent runtime jwt s) (stepped : Steps runtime jwt s s') :
    ∃ new, s'.published = s.published ++ new ∧
      (Fed runtime jwt allowed call s → (∀ list ∈ new, allowed list) → Fed runtime jwt allowed call s') := by
  cases stepped with
  | begins idle => exact ⟨[], (List.append_nil _).symm, fun fed _ => { fed with }⟩
  | locks waiting free => exact ⟨[], (List.append_nil _).symm, fun fed _ => { fed with }⟩
  | @publishesKeys caller list locked =>
    exact ⟨[list], rfl, fun fed new => ⟨new list (List.mem_singleton_self list), fed.table, fed.phase⟩⟩
  | @publishesTable caller list half =>
    have mine := consistent.phases caller
    rw [half] at mine
    exact ⟨[], (List.append_nil _).symm, fun fed _ => ⟨fed.keys, mine.2 ▸ fed.keys, fed.phase⟩⟩
  | releases complete => exact ⟨[], (List.append_nil _).symm, fun fed _ => { fed with }⟩
  | @verifies mover phase advances =>
    refine ⟨[], (List.append_nil _).symm, fun fed _ => ⟨fed.keys, fed.table, ?_⟩⟩
    by_cases same : call = mover
    · subst same
      simp only [State.setCall, Function.update_self]
      exact fed.phase.advance consistent fed.keys fed.table advances
    · simp only [State.setCall, Function.update_of_ne same]
      exact fed.phase

theorem fed_run (allowed : Protocol.TenantList → Prop) (call : Nat)
    (consistent : Consistent runtime jwt s)
    (ran : Transition.run (step runtime jwt) s events = some s') :
    ∃ new, s'.published = s.published ++ new ∧
      (Fed runtime jwt allowed call s → (∀ list ∈ new, allowed list) → Fed runtime jwt allowed call s') := by
  induction events generalizing s with
  | nil =>
    cases ran
    exact ⟨[], (List.append_nil _).symm, fun fed _ => fed⟩
  | cons event rest ih =>
    obtain ⟨middle, stepped, later⟩ := Transition.run_cons_some.mp ran
    obtain ⟨first, grown, fed⟩ := Fed.steps allowed call consistent (steps_of_step stepped)
    obtain ⟨second, grown', fed'⟩ := ih (consistent.steps (steps_of_step stepped)) later
    refine ⟨first ++ second, by rw [grown', grown, List.append_assoc], fun before new => ?_⟩
    rw [List.forall_mem_append] at new
    exact fed' (fed before new.1) new.2

/-! ## Isolation -/

/-- Whatever the table and the key map are, a key of the map decodes a credential that is accepted. -/
theorem verifyNow_decodes {now : Nat} {table : TenantSnapshot} {keys : Map CredentialVerifier} {token org : String}
    {identity : WorkloadIdentity} (ok : verifyNow jwt now table keys token = .ok (org, identity)) :
    ∃ key, jwt.decode now key token = .ok ⟨some org, identity⟩ := by
  unfold verifyNow at ok
  split at ok
  · cases ok
  split at ok
  · cases ok
  unfold verifyTenant at ok
  split at ok
  · cases ok
  split at ok
  · rename_i verified
    cases ok
    obtain ⟨key, -, decoded⟩ := verifyForOrg_eq_ok verified
    exact ⟨key, decoded⟩
  · cases ok

/-- Whatever two lists the reads saw, an accepted credential claims the organisation it is accepted for, which the
first list keeps, and a key of its entry in the second list decodes it. -/
theorem verifyNow_eq_ok {now : Nat} {tableList keysList : Protocol.TenantList} {token org : String}
    {identity : WorkloadIdentity}
    (ok : verifyNow jwt now (tableOf runtime tableList) (keyMapOf jwt keysList) token = .ok (org, identity)) :
    peekOrgId jwt token = some org ∧ tableList.Keeps org ∧
      ∃ entry ∈ dedup keysList.tenants, entry.orgId = org ∧
        ∃ key, Carries jwt entry key ∧ jwt.decode now key token = .ok ⟨some org, identity⟩ := by
  unfold verifyNow at ok
  split at ok
  · cases ok
  rename_i claimed peeked
  split at ok
  · cases ok
  rename_i tenant resolved
  obtain ⟨entry, kept, rfl, rfl⟩ := resolveOrg_tableOf.mp resolved
  unfold verifyTenant at ok
  split at ok
  · cases ok
  rename_i verifier found
  split at ok
  · rename_i verified
    cases ok
    obtain ⟨source, sourceKept, same, rfl⟩ := lookup_keyMapOf.mp found
    obtain ⟨key, member, decoded⟩ := verifyForOrg_eq_ok verified
    exact ⟨peeked, ⟨entry, kept, rfl⟩, source, sourceKept, same, key, mem_verifierFor member, decoded⟩
  · cases ok

theorem not_keeps_noTenants (org : String) : ¬ noTenants.Keeps org := by
  intro ⟨entry, kept, _⟩
  cases kept

theorem accepted_of_run {call : Nat} {token org : String} {identity : WorkloadIdentity}
    (ran : Transition.run (step runtime jwt) State.initial events = some s)
    (accepted : s.calls call = .done token (.ok (org, identity))) :
    peekOrgId jwt token = some org ∧ (∃ list ∈ s.published, list.Keeps org) ∧
      ∃ list ∈ s.published, ∃ entry ∈ dedup list.tenants, entry.orgId = org ∧
        ∃ key now, Carries jwt entry key ∧ jwt.decode now key token = .ok ⟨some org, identity⟩ := by
  -- The lists a call may have read are those published so far, and the empty one of the start.
  obtain ⟨new, grown, fed⟩ :=
    fed_run (fun list => list = noTenants ∨ list ∈ s.published) call consistent_initial ran
  have came := (fed ⟨.inl rfl, .inl rfl, trivial⟩ fun list member => .inr (grown ▸ member)).phase
  rw [accepted] at came
  obtain ⟨tableList, keysList, now, tableListed, keysListed, ok⟩ := came
  obtain ⟨peeked, keeps, entry, kept, same, key, carries, decoded⟩ := verifyNow_eq_ok ok.symm
  have published {list : Protocol.TenantList} (listed : list = noTenants ∨ list ∈ s.published)
      (keeps : list.Keeps org) : list ∈ s.published := by
    cases listed with
    | inl empty => exact absurd (empty ▸ keeps) (not_keeps_noTenants org)
    | inr member => exact member
  exact ⟨peeked, ⟨tableList, published tableListed keeps, keeps⟩,
    keysList, published keysListed ⟨entry, kept, same⟩, entry, kept, same, key, now, carries, decoded⟩

/-- After an apply that drops an organisation, and none since that keeps it, no new call accepts it. -/
theorem refused_after_drop {caller call : Nat} {list : Protocol.TenantList}
    {later : List Protocol.TenantList}
    {token org : String} {identity : WorkloadIdentity} {dropping dropped : State}
    (consistent : Consistent runtime jwt dropping)
    (complete : dropping.applies caller = .tablePublished list)
    (released : step runtime jwt dropping (.release caller) = some dropped) (drops : ¬ list.Keeps org)
    (starts : dropped.calls call = .idle)
    (ran : Transition.run (step runtime jwt) dropped events = some s)
    (since : s.published = dropped.published ++ later) (gone : ∀ list ∈ later, ¬ list.Keeps org) :
    s.calls call ≠ .done token (.ok (org, identity)) := by
  intro accepted
  have consistent' := consistent.steps (steps_of_step released)
  obtain ⟨new, grown, fed⟩ := fed_run (fun list => ¬ list.Keeps org) call consistent' ran
  have same : new = later := List.append_cancel_left (grown.symm.trans since)
  have mine := consistent.phases caller
  rw [complete] at mine
  have unchanged : dropped.keysFrom = dropping.keysFrom ∧ dropped.tableFrom = dropping.tableFrom := by
    simp only [step, complete, Option.some.injEq] at released
    exact released ▸ ⟨rfl, rfl⟩
  have start : Fed runtime jwt (fun list => ¬ list.Keeps org) call dropped := by
    refine ⟨?_, ?_, ?_⟩
    · rwa [unchanged.1, mine.2.1]
    · rwa [unchanged.2, mine.2.2]
    · rw [starts]
      trivial
  have came := (fed start (same ▸ gone)).phase
  rw [accepted] at came
  obtain ⟨tableList, _, _, absent, _, ok⟩ := came
  exact absent (verifyNow_eq_ok ok.symm).2.1

theorem keys_iff_table (consistent : Consistent runtime jwt s)
    (idle : ∀ caller, s.applies caller = .idle)
    (org : String) : org ∈ s.keys ↔ (s.table.resolveOrg org).isSome = true := by
  have free : s.applyLock = none := by
    cases held : s.applyLock with
    | none => rfl
    | some caller =>
      have mine := consistent.phases caller
      rw [idle] at mine
      exact absurd held mine
  rw [consistent.keys, consistent.table, consistent.free free, mem_keyMapOf_iff, resolveOrg_isSome_iff]

/-- `signs` is what it means that a token's signature verifies under a key, and `decodeSound` that `jsonwebtoken`
accepts no token without it. -/
theorem tenant_credentials_isolated (signs : PublicKey → String → Prop)
    (decodeSound : ∀ now key token claims, jwt.decode now key token = .ok claims → signs key token)
    (ran : Transition.run (step runtime jwt) State.initial events = some s) :
    (∀ call token org identity, s.calls call = .done token (.ok (org, identity)) →
      peekOrgId jwt token = some org ∧ (∃ list ∈ s.published, list.Keeps org) ∧
        ∃ list ∈ s.published, ∃ entry ∈ dedup list.tenants, entry.orgId = org ∧
          ∃ key, Carries jwt entry key ∧ signs key token ∧
            ∃ now, jwt.decode now key token = .ok ⟨some org, identity⟩) ∧
    (∀ earlier caller rest dropping dropped list later call token org identity,
      events = earlier ++ .release caller :: rest →
      Transition.run (step runtime jwt) State.initial earlier = some dropping →
      dropping.applies caller = .tablePublished list →
      step runtime jwt dropping (.release caller) = some dropped →
      ¬ list.Keeps org → s.published = dropped.published ++ later → (∀ list ∈ later, ¬ list.Keeps org) →
      dropped.calls call = .idle → s.calls call ≠ .done token (.ok (org, identity))) ∧
    ((∀ caller, s.applies caller = .idle) → ∀ org, org ∈ s.keys ↔ (s.table.resolveOrg org).isSome = true) := by
  refine ⟨?_, ?_, ?_⟩
  · intro call token org identity accepted
    obtain ⟨peeked, keeps, list, published, entry, kept, same, key, now, carries, decoded⟩ :=
      accepted_of_run ran accepted
    exact ⟨peeked, keeps, list, published, entry, kept, same, key, carries,
      decodeSound _ _ _ _ decoded, now, decoded⟩
  · intro earlier caller rest dropping dropped list later call token org identity split first complete
      released drops since gone starts
    rw [split, Transition.run_append_some] at ran
    obtain ⟨middle, first', second⟩ := ran
    obtain rfl : dropping = middle := Option.some.inj (first.symm.trans first')
    obtain ⟨next, released', later'⟩ := Transition.run_cons_some.mp second
    obtain rfl : dropped = next := Option.some.inj (released.symm.trans released')
    exact refused_after_drop (consistent_run consistent_initial first) complete released drops starts
      later' since gone
  · exact keys_iff_table (consistent_run consistent_initial ran)

/-! One organisation with one Ed25519 key, a credential it signed, and the two calls interleaved. -/

def orgKey : PublicKey :=
  [215, 90, 152, 1, 130, 177, 10, 183, 213, 75, 254, 211, 201, 100, 7, 58,
    14, 225, 114, 243, 218, 166, 35, 37, 175, 2, 26, 104, 247, 7, 81, 26]

def orgKeyB64 : String := "11qYAYKxCrfVS/7TyWQHOg7hcvPapiMlrwIaaPcHURo="

def orgPayload : String :=
  "eyJpc3MiOiJ1cm46c2tpbWFzcXVlOmdhdGV3YXkiLCJpYXQiOjAsImV4cCI6NDEwMjQ0NDgwMCwib3JnX2lkIjoib3JnX2EifQ"

def orgCredential : String :=
  "eyJhbGciOiJFZERTQSJ9." ++ orgPayload ++
    ".bDUkbATucdQMcwyN4cZOG7RtTsIHtpMB9oXIPox89G5PnPbLvMV940L1P9c2XGcjINqp-CizmFU1ZRoDIphwBg"

/-- The bytes of the payload, which claims `org_a` and expires in 2100. -/
def orgClaims : List UInt8 :=
  ("\x7b\"iss\":\"urn:skimasque:gateway\",\"iat\":0,\"exp\":4102444800,\"org_id\":\"org_a\"\x7d".toList.map
    fun char => UInt8.ofNat char.toNat)

def oneCredential : Jwt where
  decode now key token :=
    if key = orgKey ∧ token = orgCredential ∧ now < 4102444830 then .ok ⟨some "org_a", {}⟩
    else .error "InvalidSignature"
  base64Standard text := if text = orgKeyB64 then some orgKey else none
  base64UrlSafeNoPad text := if text = orgPayload then some orgClaims else none
  orgOnly bytes := if bytes = orgClaims then some (some "org_a") else none

def oneTenant : Protocol.TenantList :=
  ⟨1, [⟨"org_a", "acme", ["acme"], ∅, none, ⟨"Ed25519", orgKeyB64, none⟩⟩]⟩

/-- The table is read before the next apply begins, the keys while it waits for the lock. -/
def overlappingCalls : List Event :=
  [.beginApply 0 oneTenant, .takeLock 0, .publishKeys 0, .publishTable 0, .beginVerify 0 orgCredential,
    .readTable 0, .beginApply 1 noTenants, .release 0, .readKeys 0 1, .takeLock 1]

def VerifyPhase.accepted : VerifyPhase → Option (String × String × WorkloadIdentity)
  | .done token (.ok (org, identity)) => some (token, org, identity)
  | _ => none

theorem VerifyPhase.eq_done_of_accepted {phase : VerifyPhase} {token org : String}
    {identity : WorkloadIdentity} (accepted : phase.accepted = some (token, org, identity)) :
    phase = .done token (.ok (org, identity)) := by
  unfold VerifyPhase.accepted at accepted
  split at accepted <;> cases accepted
  rfl

/-- The token in its three parts, so that its payload is found without comparing all of it. -/
def orgHeader : String := "eyJhbGciOiJFZERTQSJ9"

def orgSignature : String := "bDUkbATucdQMcwyN4cZOG7RtTsIHtpMB9oXIPox89G5PnPbLvMV940L1P9c2XGcjINqp-CizmFU1ZRoDIphwBg"

theorem toList_orgCredential :
    orgCredential.toList = orgHeader.toList ++ '.' :: (orgPayload.toList ++ '.' :: orgSignature.toList) := by
  have front : "eyJhbGciOiJFZERTQSJ9.".toList = orgHeader.toList ++ ['.'] := by decide +kernel
  have back : ".bDUkbATucdQMcwyN4cZOG7RtTsIHtpMB9oXIPox89G5PnPbLvMV940L1P9c2XGcjINqp-CizmFU1ZRoDIphwBg".toList =
      '.' :: orgSignature.toList := by decide +kernel
  have append (front middle back : String) : (front ++ middle ++ back).toList = front.toList ++ middle.toList ++ back.toList := by
    rw [String.toList_append, String.toList_append]
  unfold orgCredential
  rw [append, front, back, List.append_assoc, List.append_assoc, List.singleton_append]

theorem peekOrgId_orgCredential : peekOrgId oneCredential orgCredential = some "org_a" := by
  have headerClear : '.' ∉ orgHeader.toList := by decide +kernel
  have payloadClear : '.' ∉ orgPayload.toList := by decide +kernel
  have payload : (Text.split '.' orgCredential)[1]? = some orgPayload := by
    have second := @Text.split_second '.' orgHeader.toList orgPayload.toList orgSignature.toList headerClear payloadClear
    rwa [← toList_orgCredential, String.ofList_toList, String.ofList_toList] at second
  have bytes : oneCredential.base64UrlSafeNoPad orgPayload = some orgClaims := by
    show (if orgPayload = orgPayload then some orgClaims else none) = some orgClaims
    exact if_pos rfl
  have org : oneCredential.orgOnly orgClaims = some (some "org_a") := by
    show (if orgClaims = orgClaims then some (some "org_a") else none) = some (some "org_a")
    exact if_pos rfl
  rw [peekOrgId, payload, Option.bind_eq_bind, Option.bind_some, bytes, Option.bind_eq_bind, Option.bind_some, org]
  rfl

theorem run_overlappingCalls : ∃ s, Transition.run (step sampleRuntime oneCredential) State.initial overlappingCalls = some s ∧
    ∃ tenant : Tenant, tenant.id = "org_a" ∧
      s.calls 0 = .done orgCredential (verifyTenant oneCredential 1 (keyMapOf oneCredential oneTenant) orgCredential tenant) := by
  have named : ((tableOf sampleRuntime oneTenant).resolveOrg "org_a").map (·.id) = some "org_a" := by decide +kernel
  obtain ⟨tenant, found, same⟩ := Option.map_eq_some_iff.mp named
  simp only [overlappingCalls, Transition.run_cons, Transition.run_nil, step, State.initial, State.setApply, State.setCall,
    Function.update_self, Function.update_of_ne, Option.bind_some, peekOrgId_orgCredential, found, ne_eq, one_ne_zero,
    not_false_eq_true]
  exact ⟨_, rfl, tenant, same, rfl⟩

theorem overlapping_call_accepted :
    ∃ s, Transition.run (step sampleRuntime oneCredential) State.initial overlappingCalls = some s ∧
      s.calls 0 = .done orgCredential (.ok ("org_a", {})) ∧
      ∃ list ∈ s.published, ∃ entry ∈ dedup list.tenants, entry.orgId = "org_a" ∧
        Carries oneCredential entry orgKey := by
  obtain ⟨s, ran, tenant, same, called⟩ := run_overlappingCalls
  have verified : verifyTenant oneCredential 1 (keyMapOf oneCredential oneTenant) orgCredential tenant =
      .ok ("org_a", {}) := by
    rw [verifyTenant, same]
    decide +kernel
  have accepted : (s.calls 0).accepted = some (orgCredential, "org_a", {}) := by
    rw [called, verified]
    rfl
  have done := VerifyPhase.eq_done_of_accepted accepted
  have sound : ∀ now key token claims, oneCredential.decode now key token = .ok claims →
      key = orgKey ∧ token = orgCredential := by
    intro now key token claims decoded
    simp only [oneCredential] at decoded
    split at decoded
    · rename_i genuine
      exact ⟨genuine.1, genuine.2.1⟩
    · cases decoded
  have isolated := tenant_credentials_isolated (fun key token => key = orgKey ∧ token = orgCredential) sound ran
  obtain ⟨-, -, list, published, entry, kept, same, key, carries, ⟨rfl, -⟩, -⟩ := isolated.1 0 _ _ _ done
  exact ⟨s, ran, done, list, published, entry, kept, same, carries⟩

end Skimasque.Platform
