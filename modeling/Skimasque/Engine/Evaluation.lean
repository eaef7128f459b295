import Mathlib.Data.List.Destutter
import Mathlib.Data.List.Sort
import Skimasque.Engine.Model

/-! Evaluating a request against a policy and against a set of policies.

Deny is the default and the fallthrough. A baseline's deny rules apply on top of
whichever policy is selected; the two results at the end say exactly which requests
are allowed and what a baseline does to a set it is inserted in.
-/

set_option autoImplicit false

namespace Skimasque.Engine
open Library Library.Selection

structure RequestContext where
  workload : WorkloadIdentity
  application : String
  transport : Transport
  destination : Destination
  requestedPolicy : Option String
  deriving DecidableEq, Repr

structure Allowed where
  policy : String
  rule : String
  egress : Option EgressSpec
  limits : Limits
  session : SessionSpec
  deriving DecidableEq, Repr

inductive DenyReason where
  | noPolicyMatch
  | noMatchingAllowRule
  | explicitDeny (rule : String)
  | policyMismatch (requested : String) (selected : Option String)
  | baseline (policy rule : String)
  deriving DecidableEq, Repr

structure Denied where
  policy : Option String
  reason : DenyReason
  suggestedRule : String
  closest : List String
  deriving DecidableEq, Repr

inductive Decision where
  | allow (allowed : Allowed)
  | deny (denied : Denied)
  deriving DecidableEq, Repr

def Decision.isAllow : Decision → Bool
  | .allow _ => true
  | .deny _ => false

def DenyReason.summary : DenyReason → String
  | .noPolicyMatch => "No policy matches this workload identity."
  | .noMatchingAllowRule => "No matching allow rule."
  | .explicitDeny rule => "Denied by rule " ++ rule ++ "."
  | .policyMismatch requested (some selected) =>
    "Policy \"" ++ requested ++ "\" does not apply to this identity; \"" ++ selected ++ "\" does."
  | .policyMismatch requested none =>
    "Policy \"" ++ requested ++ "\" does not apply to this identity; no policy does."
  | .baseline policy rule =>
    "Denied by baseline policy \"" ++ policy ++ "\", rule " ++ rule ++ "; no policy can allow this."

def ruleLabel (rule : Rule) (index : Nat) : String := rule.id.getD ("rule #" ++ toString index)

def suggestedRule (ctx : RequestContext) : String :=
  let app := if Text.isEmpty ctx.application then "<app>" else ctx.application
  match ctx.transport with
  | .tcp => "allow " ++ app ++ " " ++ ctx.destination.text
  | .udp => "allow " ++ app ++ " udp " ++ ctx.destination.text

def proximity (spec : String) (destination : Destination) : Nat :=
  let want := destination.text
  let (specHost, specPort) := (Text.rsplitOnce ':' spec).getD (spec, "")
  let (wantHost, wantPort) := (Text.rsplitOnce ':' want).getD (want, "")
  let port := if !Text.isEmpty specPort && specPort == wantPort then 3 else 0
  let shared := (((Text.split '.' specHost).reverse.zip (Text.split '.' wantHost).reverse).takeWhile
    fun labels => Text.eqIgnoreAsciiCase labels.1 labels.2).length
  port + shared * 2

/-- Nearest first, equal distances in text order. -/
def nearerThan (left right : Nat × String) : Prop :=
  right.1 < left.1 ∨ (left.1 = right.1 ∧ left.2 ≤ right.2)

instance : DecidableRel nearerThan := fun _ _ => inferInstanceAs (Decidable (_ ∨ _))

def closestDestinations (rules : List Rule) (ctx : RequestContext) : List String :=
  let specs := (rules.filter fun rule => rule.action == .allow && rule.covers ctx.application ctx.transport).flatMap
    Rule.destinations
  let scored := specs.map fun spec => (proximity spec.raw ctx.destination, spec.raw)
  let sorted := scored.insertionSort nearerThan
  ((sorted.destutter fun left right => left.2 ≠ right.2).take 3).map Prod.snd

/-- The rule speaks to the application and transport, and to the destination. -/
def Rule.applies (rule : Rule) (ctx : RequestContext) : Bool :=
  rule.covers ctx.application ctx.transport && rule.destinations.any (·.matches ctx.destination)

/-- `Policy::deny`, named for what it builds. -/
def Policy.denied (policy : Policy) (ctx : RequestContext) (reason : DenyReason) : Denied :=
  ⟨some policy.name, reason, suggestedRule ctx, closestDestinations policy.rules ctx⟩

def Policy.evaluate (policy : Policy) (ctx : RequestContext) : Decision :=
  match policy.rules.zipIdx.find? (fun entry => entry.1.applies ctx) with
  | none => .deny (policy.denied ctx .noMatchingAllowRule)
  | some (rule, index) =>
    match rule.action with
    | .allow => .allow ⟨policy.name, ruleLabel rule index, policy.egress, policy.limits, policy.session⟩
    | .deny => .deny (policy.denied ctx (.explicitDeny (ruleLabel rule index)))

/-- The first deny rule of a baseline that matches the request. -/
def Policy.baselineDenial (ctx : RequestContext) (baseline : Policy) : Option Denied :=
  (baseline.rules.zipIdx.find? (fun entry => entry.1.action == .deny && entry.1.applies ctx)).map fun entry =>
    ⟨some baseline.name, .baseline baseline.name (ruleLabel entry.1 entry.2), "", []⟩

def Policy.guards (identity : WorkloadIdentity) (policy : Policy) : Bool :=
  policy.baseline && policy.matchSpec.matches identity

def PolicySet.withBaseline (set : PolicySet) (decision : Decision) (ctx : RequestContext) : Decision :=
  match decision with
  | .deny denied => .deny denied
  | .allow allowed =>
    match (set.policies.filter (Policy.guards ctx.workload)).findSome? (Policy.baselineDenial ctx) with
    | some denied => .deny denied
    | none => .allow allowed

def PolicySet.evaluate (set : PolicySet) (ctx : RequestContext) : Decision :=
  let selected := set.select ctx.workload
  let evaluated := match selected with
    | some policy => set.withBaseline (policy.evaluate ctx) ctx
    | none => .deny ⟨none, .noPolicyMatch, suggestedRule ctx, []⟩
  match ctx.requestedPolicy with
  | none => evaluated
  | some requested =>
    let selectedName := selected.map Policy.name
    if selectedName ≠ some requested then
      .deny ⟨selectedName, .policyMismatch requested selectedName, suggestedRule ctx, []⟩
    else evaluated

def PolicySet.evaluateNamed (set : PolicySet) (name : String) (ctx : RequestContext) :
    Option Decision :=
  (set.get name).map fun policy => set.withBaseline (policy.evaluate ctx) ctx

/-! ## What an allow says -/

/-- The first rule in order that applies, with its position. -/
structure FirstApplying (rules : List Rule) (ctx : RequestContext) (index : Nat) (rule : Rule) :
    Prop where
  present : rules[index]? = some rule
  applies : rule.applies ctx = true
  earlier : ∀ j < index, ∀ r, rules[j]? = some r → r.applies ctx = false

/-- Some baseline that matches the workload has a deny rule for the request. -/
def BaselineDenies (set : PolicySet) (ctx : RequestContext) : Prop :=
  ∃ b ∈ set.policies, b.baseline = true ∧ b.matchSpec.matches ctx.workload = true ∧
    ∃ r ∈ b.rules, r.action = .deny ∧ r.applies ctx = true

/-- The terms of a rule of the policy, as an allow returns them. -/
def Policy.terms (policy : Policy) (rule : Rule) (index : Nat) : Allowed :=
  ⟨policy.name, ruleLabel rule index, policy.egress, policy.limits, policy.session⟩

variable {set : PolicySet} {ctx : RequestContext} {policy : Policy} {allowed : Allowed}

theorem find_zipIdx_iff {rules : List Rule} {rule : Rule} {index : Nat} :
    rules.zipIdx.find? (fun entry => entry.1.applies ctx) = some (rule, index) ↔
      FirstApplying rules ctx index rule := by
  rw [List.find?_eq_some_iff_getElem]
  constructor
  · rintro ⟨applies, position, bound, selected, before⟩
    simp only [List.getElem_zipIdx, Nat.zero_add, Prod.mk.injEq] at selected
    obtain ⟨rfl, rfl⟩ := selected
    simp only [List.length_zipIdx] at bound
    refine ⟨List.getElem?_eq_getElem bound, applies, ?_⟩
    intro j early r present
    obtain ⟨_, rfl⟩ := List.getElem?_eq_some_iff.mp present
    simpa using before j early
  · rintro ⟨present, applies, earlier⟩
    obtain ⟨bound, rfl⟩ := List.getElem?_eq_some_iff.mp present
    refine ⟨applies, index, by simpa using bound, by simp, ?_⟩
    intro j early
    simpa using earlier j early _ (List.getElem?_eq_getElem (by omega))

theorem FirstApplying.unique {rules : List Rule} {rule other : Rule} {index position : Nat}
    (first : FirstApplying rules ctx index rule) (second : FirstApplying rules ctx position other) :
    rule = other ∧ index = position := by
  have same := (find_zipIdx_iff.mpr first).symm.trans (find_zipIdx_iff.mpr second)
  simpa using same

theorem Policy.evaluate_of_first {index : Nat} {rule : Rule} (first : FirstApplying policy.rules ctx index rule) :
    policy.evaluate ctx = match rule.action with
      | .allow => .allow (policy.terms rule index)
      | .deny => .deny (policy.denied ctx (.explicitDeny (ruleLabel rule index))) := by
  simp only [Policy.evaluate, find_zipIdx_iff.mpr first]
  rfl

theorem Policy.evaluate_allow_iff :
    policy.evaluate ctx = .allow allowed ↔
      ∃ index rule, FirstApplying policy.rules ctx index rule ∧ rule.action = .allow ∧
        allowed = policy.terms rule index := by
  unfold Policy.evaluate
  cases found : policy.rules.zipIdx.find? (fun entry => entry.1.applies ctx) with
  | none =>
    simp only [reduceCtorEq, false_iff]
    rintro ⟨index, rule, first, -⟩
    rw [find_zipIdx_iff.mpr first] at found
    cases found
  | some entry =>
    obtain ⟨rule, index⟩ := entry
    have first := find_zipIdx_iff.mp found
    cases action : rule.action with
    | allow =>
      simp only [action, Decision.allow.injEq]
      constructor
      · rintro rfl
        exact ⟨index, rule, first, action, rfl⟩
      · rintro ⟨_, _, other, -, rfl⟩
        obtain ⟨rfl, rfl⟩ := first.unique other
        rfl
    | deny =>
      simp only [action, reduceCtorEq, false_iff]
      rintro ⟨_, _, other, allows, -⟩
      obtain ⟨rfl, rfl⟩ := first.unique other
      rw [action] at allows
      cases allows

theorem Policy.baselineDenial_eq_none_iff :
    policy.baselineDenial ctx = none ↔ ∀ r ∈ policy.rules, r.action = .deny → r.applies ctx = false := by
  simp only [Policy.baselineDenial, Option.map_eq_none_iff, List.find?_eq_none]
  constructor
  · intro none r member denies
    obtain ⟨index, bound, rfl⟩ := List.mem_iff_getElem.mp member
    have := none (policy.rules[index], index) (by simp [List.mem_zipIdx_iff_getElem?])
    simpa [denies] using this
  · rintro none ⟨r, index⟩ member
    have present := List.mem_of_getElem? (List.mem_zipIdx_iff_getElem?.mp member)
    simp only [Bool.and_eq_true, beq_iff_eq, not_and, Bool.not_eq_true]
    exact none r present

theorem PolicySet.withBaseline_allow_iff {decision : Decision} :
    set.withBaseline decision ctx = .allow allowed ↔ decision = .allow allowed ∧
      ¬ BaselineDenies set ctx := by
  cases decision with
  | deny denied => simp [PolicySet.withBaseline]
  | allow granted =>
    have free : (set.policies.filter (Policy.guards ctx.workload)).findSome? (Policy.baselineDenial ctx) = none ↔
        ¬ BaselineDenies set ctx := by
      simp only [List.findSome?_eq_none_iff, List.mem_filter, Policy.guards, Bool.and_eq_true,
        Policy.baselineDenial_eq_none_iff, BaselineDenies]
      push Not
      simp only [ne_eq, Bool.not_eq_true, and_imp]
    simp only [PolicySet.withBaseline, Decision.allow.injEq, ← free]
    cases (set.policies.filter (Policy.guards ctx.workload)).findSome? (Policy.baselineDenial ctx) with
    | none => simp
    | some denied => simp

theorem PolicySet.evaluate_allow_iff_select :
    set.evaluate ctx = .allow allowed ↔
      ∃ policy, set.select ctx.workload = some policy ∧
        (ctx.requestedPolicy = none ∨ ctx.requestedPolicy = some policy.name) ∧
        policy.evaluate ctx = .allow allowed ∧ ¬ BaselineDenies set ctx := by
  unfold PolicySet.evaluate
  cases selected : set.select ctx.workload with
  | none =>
    cases ctx.requestedPolicy with
    | none => simp
    | some requested => simp
  | some policy =>
    cases pinned : ctx.requestedPolicy with
    | none => simp [PolicySet.withBaseline_allow_iff]
    | some requested =>
      by_cases same : policy.name = requested
      · simp [same, PolicySet.withBaseline_allow_iff]
      · simp [same, Ne.symm same]

/-- Two requests that every rule of the set treats alike are allowed alike, on the same terms. -/
theorem PolicySet.evaluate_allow_congr {other : RequestContext} (workload : other.workload = ctx.workload)
    (pin : other.requestedPolicy = ctx.requestedPolicy)
    (alike : ∀ policy ∈ set.policies, ∀ rule ∈ policy.rules, rule.applies other = rule.applies ctx)
    (granted : set.evaluate ctx = .allow allowed) : set.evaluate other = .allow allowed := by
  obtain ⟨policy, selected, pinned, evaluated, free⟩ := PolicySet.evaluate_allow_iff_select.mp granted
  obtain ⟨index, rule, first, allows, terms⟩ := Policy.evaluate_allow_iff.mp evaluated
  have own := alike policy (PolicySet.select_mem selected).1
  have firstOther : FirstApplying policy.rules other index rule := by
    refine ⟨first.present, ?_, ?_⟩
    · rw [own rule (List.mem_of_getElem? first.present)]
      exact first.applies
    · intro j early r present
      rw [own r (List.mem_of_getElem? present)]
      exact first.earlier j early r present
  rw [← workload] at selected
  rw [← pin] at pinned
  refine PolicySet.evaluate_allow_iff_select.mpr
    ⟨policy, selected, pinned, Policy.evaluate_allow_iff.mpr ⟨index, rule, firstOther, allows, terms⟩, ?_⟩
  rintro ⟨guard, member, baseline, accepts, r, listed, denies, applies⟩
  rw [workload] at accepts
  rw [alike guard member r listed] at applies
  exact free ⟨guard, member, baseline, accepts, r, listed, denies, applies⟩

theorem PolicySet.isAllow_congr {other : RequestContext} (workload : other.workload = ctx.workload)
    (pin : other.requestedPolicy = ctx.requestedPolicy)
    (alike : ∀ policy ∈ set.policies, ∀ rule ∈ policy.rules, rule.applies other = rule.applies ctx) :
    (set.evaluate other).isAllow = (set.evaluate ctx).isAllow := by
  cases decided : set.evaluate ctx with
  | allow allowed => rw [PolicySet.evaluate_allow_congr workload pin alike decided]
  | deny denied =>
    cases decidedOther : set.evaluate other with
    | deny deniedOther => rfl
    | allow allowed =>
      have back := PolicySet.evaluate_allow_congr workload.symm pin.symm
        (fun policy member rule listed => (alike policy member rule listed).symm) decidedOther
      rw [decided] at back
      cases back

/-- A request is allowed exactly when a policy governs its workload, the pin (if any) names that
policy, the first of its rules that applies allows, and no baseline denies; the terms are then
those of that policy and that rule. -/
theorem set_evaluate_allow_iff (set : PolicySet) (ctx : RequestContext) (allowed : Allowed) :
    set.evaluate ctx = .allow allowed ↔
      ∃ position policy, Governs set ctx.workload position policy ∧
        (ctx.requestedPolicy = none ∨ ctx.requestedPolicy = some policy.name) ∧
        (∃ index rule, FirstApplying policy.rules ctx index rule ∧ rule.action = .allow ∧
          allowed = policy.terms rule index) ∧
        ¬ BaselineDenies set ctx := by
  rw [PolicySet.evaluate_allow_iff_select]
  constructor
  · rintro ⟨policy, selected, pinned, evaluated, free⟩
    obtain ⟨position, governs⟩ := PolicySet.select_iff_governs.mp selected
    exact ⟨position, policy, governs, pinned, Policy.evaluate_allow_iff.mp evaluated, free⟩
  · rintro ⟨position, policy, governs, pinned, first, free⟩
    exact ⟨policy, PolicySet.select_iff_governs.mpr ⟨position, governs⟩, pinned,
      Policy.evaluate_allow_iff.mpr first, free⟩

/-! ## What a baseline does to a set -/

theorem PolicySet.select_insert_baseline (before after : List Policy) (guard : Policy)
    (baseline : guard.baseline = true) (identity : WorkloadIdentity) :
    PolicySet.select ⟨before ++ guard :: after⟩ identity = PolicySet.select ⟨before ++ after⟩ identity := by
  simp [PolicySet.select, Policy.isCandidate, baseline]

theorem BaselineDenies.insert {before after : List Policy} {guard : Policy}
    (denies : BaselineDenies ⟨before ++ after⟩ ctx) :
    BaselineDenies ⟨before ++ guard :: after⟩ ctx := by
  obtain ⟨b, member, rest⟩ := denies
  refine ⟨b, ?_, rest⟩
  rcases List.mem_append.mp member with early | late
  · exact List.mem_append_left _ early
  · exact List.mem_append_right _ (List.mem_cons_of_mem _ late)

/-- Baselines only take access away, and nothing gives it back: inserting one anywhere keeps every
remaining allow as it was, and where its own deny rule applies no entry point allows. -/
theorem insert_baseline_only_denies (before after : List Policy) (guard : Policy) (ctx : RequestContext)
    (baseline : guard.baseline = true) :
    (∀ allowed, PolicySet.evaluate ⟨before ++ guard :: after⟩ ctx = .allow allowed →
      PolicySet.evaluate ⟨before ++ after⟩ ctx = .allow allowed) ∧
    (guard.matchSpec.matches ctx.workload = true →
      (∃ r ∈ guard.rules, r.action = .deny ∧ r.covers ctx.application ctx.transport = true ∧
        ∃ spec ∈ r.destinations, spec.matches ctx.destination = true) →
      (∀ allowed, PolicySet.evaluate ⟨before ++ guard :: after⟩ ctx ≠ .allow allowed) ∧
      ∀ name allowed, PolicySet.evaluateNamed ⟨before ++ guard :: after⟩ name ctx ≠ some (.allow allowed)) := by
  constructor
  · intro allowed granted
    obtain ⟨policy, selected, pinned, evaluated, free⟩ := PolicySet.evaluate_allow_iff_select.mp granted
    rw [PolicySet.select_insert_baseline before after guard baseline] at selected
    exact PolicySet.evaluate_allow_iff_select.mpr
      ⟨policy, selected, pinned, evaluated, fun denies => free denies.insert⟩
  · rintro accepts ⟨r, member, denies, covers, spec, listed, hit⟩
    have denied : BaselineDenies ⟨before ++ guard :: after⟩ ctx := by
      refine ⟨guard, by simp, baseline, accepts, r, member, denies, ?_⟩
      simp only [Rule.applies, covers, Bool.true_and, List.any_eq_true]
      exact ⟨spec, listed, hit⟩
    constructor
    · intro allowed granted
      obtain ⟨_, _, _, _, free⟩ := PolicySet.evaluate_allow_iff_select.mp granted
      exact free denied
    · intro name allowed granted
      obtain ⟨policy, _, evaluated⟩ := Option.map_eq_some_iff.mp granted
      exact (PolicySet.withBaseline_allow_iff.mp evaluated).2 denied

-- A developer's policy that reaches staging and production, and the guardrail that keeps agents
-- out of production.
def devPolicy : Policy where
  name := "dev"
  matchSpec := { actor := some "octocat" }
  rules := [⟨none, .any, .any, .allow,
    [⟨.exact "db.staging", .exact 5432, "db.staging:5432"⟩, ⟨.exact "db.prod", .exact 5432, "db.prod:5432"⟩]⟩]

def agentsNeverProd : Policy where
  name := "agents-never-prod"
  baseline := true
  matchSpec := { kind := some .agent }
  rules := [⟨some "no-prod", .any, .any, .deny, [⟨.exact "db.prod", .exact 5432, "db.prod:5432"⟩]⟩]

def agentToProd : RequestContext where
  workload := { actor := some "octocat", kind := some .agent }
  application := "psql"
  transport := .tcp
  destination := ⟨.name "db.prod", 5432⟩
  requestedPolicy := none

theorem insert_baseline_denies_agents :
    agentsNeverProd.baseline = true ∧ (PolicySet.evaluate ⟨[devPolicy]⟩ agentToProd).isAllow = true ∧
      ∀ allowed, PolicySet.evaluate ⟨[devPolicy] ++ agentsNeverProd :: []⟩ agentToProd ≠ .allow allowed := by
  refine ⟨rfl, by decide, ?_⟩
  have denied := insert_baseline_only_denies [devPolicy] [] agentsNeverProd agentToProd rfl
  exact (denied.2 (by decide) ⟨_, List.mem_singleton_self _, rfl, by decide, _, List.mem_singleton_self _,
    by decide⟩).1

end Skimasque.Engine
