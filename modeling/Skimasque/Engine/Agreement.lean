import Skimasque.Engine.Evaluation

/-! When two sets of policies decide every request alike.

A request pinned to a name no policy has shows which policy is selected, and one the selected
policy allows shows which baseline denies first; nothing else of a set can be seen.
-/

set_option autoImplicit false

namespace Skimasque.Engine

/-- The denial of the first baseline that has one for the request. -/
def PolicySet.baselineDenial (set : PolicySet) (ctx : RequestContext) : Option Denied :=
  (set.policies.filter (Policy.guards ctx.workload)).findSome? (Policy.baselineDenial ctx)

/-- Wherever the selected policy of `old` allows, both sets answer with the same baseline or none. -/
def SameBaselines (old new : PolicySet) : Prop :=
  ∀ ctx policy allowed, old.select ctx.workload = some policy → policy.evaluate ctx = .allow allowed →
    new.baselineDenial ctx = old.baselineDenial ctx

variable {old new : PolicySet}

theorem PolicySet.evaluate_congr (selects : ∀ identity, new.select identity = old.select identity)
    (baselines : SameBaselines old new) (ctx : RequestContext) :
    new.evaluate ctx = old.evaluate ctx := by
  have guarded (policy : Policy) (selected : old.select ctx.workload = some policy) :
      new.withBaseline (policy.evaluate ctx) ctx = old.withBaseline (policy.evaluate ctx) ctx := by
    cases evaluated : policy.evaluate ctx with
    | deny denied => rfl
    | allow allowed =>
      have same := baselines ctx policy allowed selected evaluated
      unfold PolicySet.baselineDenial at same
      simp only [PolicySet.withBaseline, same]
  unfold PolicySet.evaluate
  rw [selects]
  cases selected : old.select ctx.workload with
  | none => rfl
  | some policy => simp only [guarded policy selected]

theorem exists_other_name (first second : Option String) :
    ∃ name, first ≠ some name ∧ second ≠ some name := by
  by_cases empty : first ≠ some "" ∧ second ≠ some ""
  · exact ⟨"", empty⟩
  by_cases letter : first ≠ some "a" ∧ second ≠ some "a"
  · exact ⟨"a", letter⟩
  · refine ⟨"b", ?_, ?_⟩ <;> intro taken <;> simp_all

theorem PolicySet.evaluate_unselected {set : PolicySet} {ctx : RequestContext} {name : String}
    (pinned : ctx.requestedPolicy = some name)
    (other : (set.select ctx.workload).map Policy.name ≠ some name) :
    set.evaluate ctx = .deny ⟨(set.select ctx.workload).map Policy.name,
      .policyMismatch name ((set.select ctx.workload).map Policy.name), suggestedRule ctx, []⟩ := by
  simp only [PolicySet.evaluate, pinned]
  rw [if_pos other]

/-- Sets that decide alike select policies of one name. -/
theorem PolicySet.select_name_of_evaluate_eq (same : ∀ ctx, new.evaluate ctx = old.evaluate ctx)
    (identity : WorkloadIdentity) :
    (new.select identity).map Policy.name = (old.select identity).map Policy.name := by
  -- Pin a name that neither set selects: the denial then says which name each of them does select.
  obtain ⟨name, notNew, notOld⟩ := exists_other_name ((new.select identity).map Policy.name)
    ((old.select identity).map Policy.name)
  obtain ⟨ctx, asked, pinned⟩ : ∃ ctx : RequestContext, ctx.workload = identity ∧
    ctx.requestedPolicy = some name :=
    ⟨⟨identity, "", .tcp, ⟨.name "", 0⟩, some name⟩, rfl, rfl⟩
  subst asked
  have answers := same ctx
  rw [PolicySet.evaluate_unselected pinned notNew, PolicySet.evaluate_unselected pinned notOld] at answers
  simp only [Decision.deny.injEq, Denied.mk.injEq] at answers
  exact answers.1

/-- What a policy allows stands unless a baseline denies it. -/
theorem PolicySet.withBaseline_allow (set : PolicySet) (allowed : Allowed) (ctx : RequestContext) :
    set.withBaseline (.allow allowed) ctx = (set.baselineDenial ctx).elim (.allow allowed) .deny := by
  unfold PolicySet.withBaseline PolicySet.baselineDenial
  cases (set.policies.filter (Policy.guards ctx.workload)).findSome? (Policy.baselineDenial ctx) <;> rfl

/-- Two sets that share their policies by name decide every request alike exactly when they select
the same policy for every identity and put the same baseline in front of what it allows. -/
theorem PolicySet.evaluate_eq_iff
    (byName : ∀ p ∈ new.policies, ∀ q ∈ old.policies, p.name = q.name → p = q) :
    (∀ ctx, new.evaluate ctx = old.evaluate ctx) ↔
      (∀ identity, new.select identity = old.select identity) ∧ SameBaselines old new := by
  constructor
  · intro same
    have selects (identity : WorkloadIdentity) : new.select identity = old.select identity := by
      have names := PolicySet.select_name_of_evaluate_eq same identity
      cases inNew : new.select identity with
      | none =>
        cases inOld : old.select identity with
        | none => rfl
        | some q => simp [inNew, inOld] at names
      | some p =>
        cases inOld : old.select identity with
        | none => simp [inNew, inOld] at names
        | some q =>
          simp only [inNew, inOld, Option.map_some, Option.some.injEq] at names
          rw [byName p (PolicySet.select_mem inNew).1 q (PolicySet.select_mem inOld).1 names]
    refine ⟨selects, ?_⟩
    intro ctx policy allowed selected evaluated
    -- Without a pin the answer is the selected policy's, behind the baselines.
    have answers := same { ctx with requestedPolicy := none }
    have unpinned : policy.evaluate { ctx with requestedPolicy := none } = .allow allowed := evaluated
    simp only [PolicySet.evaluate, selects, selected, unpinned, PolicySet.withBaseline_allow] at answers
    change (new.baselineDenial ctx).elim (Decision.allow allowed) .deny =
      (old.baselineDenial ctx).elim (Decision.allow allowed) .deny at answers
    cases inNew : new.baselineDenial ctx <;> cases inOld : old.baselineDenial ctx <;> simp_all
  · rintro ⟨selects, baselines⟩ ctx
    exact PolicySet.evaluate_congr selects baselines ctx

end Skimasque.Engine
