import Skimasque.Control.CacheReload

/-! Following the control plane: each answer to the policy poll, and what a restart would find after it. -/

set_option autoImplicit false

namespace Skimasque.Control
open Engine

/-- What comes back from the policy endpoint; `failed` is any transport, status or body error. -/
inductive Response where
  | notModified
  | noContent
  | body (version : Nat) (documents : List PolicyDocument)
  | failed
  deriving DecidableEq, Repr

inductive PolicyFetch where
  | unchanged
  | updated (version : Nat) (documents : List PolicyDocument)
  | none
  deriving DecidableEq, Repr

/-- One poll. A revision is in the cache before the caller has looked at it. -/
def fetchPolicy (disk : Disk) (now : Nat) : Response → Except Unit PolicyFetch × Disk
  | .notModified => (.ok .unchanged, disk)
  | .noContent => (.ok .none, disk)
  | .body version documents => (.ok (.updated version documents), cachePolicy disk version now documents)
  | .failed => (.error (), disk)

structure SyncState where
  /-- The enforced policy version, or `0` for none yet. -/
  version : Nat
  healthy : Bool
  deriving DecidableEq, Repr

structure Gateway where
  disk : Disk
  inForce : PolicySet
  state : SyncState
  /-- The pause before the next poll after a failed one, in seconds. -/
  backoff : Nat

variable (formats : Formats)

/-- One turn of `run_control_plane_sync`. -/
def syncStep (gateway : Gateway) (poll : Response × Nat) : Gateway :=
  match fetchPolicy gateway.disk poll.2 poll.1 with
  | (.ok (.updated version documents), disk) =>
    match PolicySet.fromDocuments formats documents with
    | .ok set => { disk, inForce := set, state := ⟨version, true⟩, backoff := 1 }
    -- The set in force stays, but the disk already holds the revision that was refused.
    | .error _ => { gateway with disk, state := { gateway.state with healthy := true }, backoff := 1 }
  | (.ok _, disk) => { gateway with disk, state := { gateway.state with healthy := true }, backoff := 1 }
  | (.error _, disk) =>
    { gateway with disk, state := { gateway.state with healthy := false }, backoff := min (gateway.backoff * 2) 60 }

def syncRun (gateway : Gateway) (polls : List (Response × Nat)) : Gateway :=
  polls.foldl (syncStep formats) gateway

inductive RestartError where
  | pullingInitialPolicy
  | loading (source : LoadError)
  deriving DecidableEq, Repr

/-- A start while the control plane is unreachable: the cached policy, when there is one. -/
def restartOffline (disk : Disk) : Except RestartError PolicySet :=
  if hasCachedPolicy disk then
    match loadDir formats disk.policies with
    | .ok loaded => .ok loaded.set
    | .error source => .error (.loading source)
  else .error .pullingInitialPolicy

/-- A restart now would start, and would decide every request as the set in force does. -/
def RestartEnforces (gateway : Gateway) : Prop :=
  ∃ set, restartOffline formats gateway.disk = .ok set ∧
    ∀ ctx, set.evaluate ctx = gateway.inForce.evaluate ctx

/-- A revision in the answer, if there is one, loads and comes through the cache unchanged. -/
def Sound : Response → Prop
  | .body _ documents => ∃ set, PolicySet.fromDocuments formats documents = .ok set ∧ documents ≠ [] ∧
      (∀ doc ∈ surviving documents, KeepsFormat doc) ∧
      (∀ identity, (reordered formats documents).select identity = set.select identity) ∧
      SameBaselines set (reordered formats documents)
  | _ => True

variable {formats}

theorem restartOffline_of_loadDir {disk : Disk} {loaded : Loaded}
    (load : loadDir formats disk.policies = .ok loaded) :
    restartOffline formats disk = .ok loaded.set := by
  have cached : hasCachedPolicy disk = true := by
    unfold hasCachedPolicy
    cases found : disk.policies with
    | none =>
      rw [found] at load
      cases load
    | some dir =>
      rw [found] at load
      cases empty : dir.keys with
      | nil => simp [loadDir, empty] at load
      | cons name rest => simp [empty]
  rw [restartOffline, if_pos cached, load]

theorem syncStep_restartEnforces {gateway : Gateway} {poll : Response × Nat}
    (before : RestartEnforces formats gateway)
    (sound : Sound formats poll.1) : RestartEnforces formats (syncStep formats gateway poll) := by
  obtain ⟨response, now⟩ := poll
  cases response with
  | notModified => exact before
  | noContent => exact before
  | failed => exact before
  | body version documents =>
    -- What is loaded back is the revision in file name order.
    obtain ⟨set, accepted, nonempty, kept, selects, baselines⟩ := sound
    have load := loadDir_reordered accepted nonempty kept
    rw [← cachePolicy_policies gateway.disk version now documents] at load
    refine ⟨reordered formats documents, ?_, ?_⟩
    · simp only [syncStep, fetchPolicy, accepted]
      exact restartOffline_of_loadDir load
    · simp only [syncStep, fetchPolicy, accepted]
      exact PolicySet.evaluate_congr selects baselines

theorem syncRun_restartEnforces {gateway : Gateway} {polls : List (Response × Nat)}
    (before : RestartEnforces formats gateway) (sound : ∀ poll ∈ polls, Sound formats poll.1) :
    RestartEnforces formats (syncRun formats gateway polls) := by
  induction polls generalizing gateway with
  | nil => exact before
  | cons poll rest ih =>
    rw [List.forall_mem_cons] at sound
    exact ih (syncStep_restartEnforces before sound.1) sound.2

/-- From a cache that holds the set in force, as long as every revision sent loads and comes through
the cache, after each answer a restart without the control plane enforces the set in force. -/
theorem sync_keeps_restart_enforcing (gateway : Gateway) (polls : List (Response × Nat))
    (before : RestartEnforces formats gateway) (sound : ∀ poll ∈ polls, Sound formats poll.1)
    (count : Nat) :
    RestartEnforces formats (syncRun formats gateway (polls.take count)) := by
  apply syncRun_restartEnforces before
  intro poll member
  exact sound poll (List.mem_of_mem_take member)

-- A gateway that enforces the closed policy, with the revision it came from in the cache.
def closedGateway : Gateway where
  disk := cachePolicy emptyDisk 1 0 [⟨"closed.toml", closedToml⟩]
  inForce := ⟨[closedPolicy]⟩
  state := ⟨1, true⟩
  backoff := 1

theorem closedGateway_restartEnforces : RestartEnforces sampleFormats closedGateway :=
  ⟨⟨[closedPolicy]⟩, by decide, fun _ => rfl⟩

theorem sync_keeps_closed_gateway :
    RestartEnforces sampleFormats (syncRun sampleFormats closedGateway
      ([(.failed, 10), (.body 2 [⟨"open.toml", openToml⟩], 20), (.notModified, 30)].take 3)) := by
  apply sync_keeps_restart_enforcing _ _ closedGateway_restartEnforces
  intro poll member
  simp only [List.mem_cons, List.not_mem_nil, or_false] at member
  rcases member with rfl | rfl | rfl
  · trivial
  · refine ⟨⟨[openPolicy]⟩, by decide, by simp, by unfold KeepsFormat; decide, ?_, ?_⟩
    · intro identity
      rfl
    · intro _ _ _ _ _
      rfl
  · trivial

/-- One revision that does not load is refused by the loop, but it is what the next start finds. -/
theorem bad_revision_displaces_cache :
    RestartEnforces sampleFormats closedGateway ∧
      (syncRun sampleFormats closedGateway [(.body 2 [⟨"bad.toml", "name ="⟩], 10)]).inForce = closedGateway.inForce ∧
      ¬ RestartEnforces sampleFormats (syncRun sampleFormats closedGateway [(.body 2 [⟨"bad.toml", "name ="⟩], 10)]) := by
  refine ⟨closedGateway_restartEnforces, by decide, ?_⟩
  intro ⟨set, starts, _⟩
  have fails : restartOffline sampleFormats
      (syncRun sampleFormats closedGateway [(.body 2 [⟨"bad.toml", "name ="⟩], 10)]).disk =
        .error (.loading (.loadingSet (.parse "bad.toml" (.toml "expected a key")))) := by decide
  rw [fails] at starts
  cases starts

end Skimasque.Control
