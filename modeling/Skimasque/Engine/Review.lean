import Skimasque.Engine.Evaluation

/-! Looking a policy over before it is used: the lints that find a match too broad, and the tests a policy brings along. -/

set_option autoImplicit false

namespace Skimasque.Engine
open Library

/-! ## Lints -/

inductive LintCode where
  | matchGovernsEveryWorkload
  | matchLacksRepository
  | matchLacksRef
  deriving DecidableEq, Repr

def LintCode.asStr : LintCode → String
  | .matchGovernsEveryWorkload => "match-governs-every-workload"
  | .matchLacksRepository => "match-lacks-repository"
  | .matchLacksRef => "match-lacks-ref"

structure Lint where
  policy : String
  code : LintCode
  message : String
  deriving DecidableEq, Repr

def constrainedFieldNames (policy : Policy) : String :=
  let m := policy.matchSpec
  let named (is_some : Bool) (name : String) := if is_some then [name] else []
  String.intercalate ", " (named m.organization.isSome "organization" ++ named m.workflow.isSome "workflow" ++
    named m.gitRef.isSome "git_ref" ++ named m.branch.isSome "branch" ++ named m.environment.isSome "environment" ++
    named m.actor.isSome "actor" ++ named m.kind.isSome "kind")

/-- It has a rule that allows something. -/
def Policy.grants (policy : Policy) : Bool := policy.rules.any (·.action == .allow)

def Policy.lints (policy : Policy) : List Lint :=
  let m := policy.matchSpec
  let make code message : Lint := ⟨policy.name, code, message⟩
  if !policy.grants then []
  else if m.specificity = 0 then
    [make .matchGovernsEveryWorkload
      ("the [match] block is empty, so every workload with a valid credential is granted this policy's allow rules; " ++
        "add repository (and a branch) unless this is a deliberate single-tenant catch-all")]
  else if m.repository.isNone then
    let named := constrainedFieldNames policy
    [make .matchLacksRepository
      ("[match] constrains " ++ named ++ " but not repository, so a workload from any repository that satisfies " ++ named ++
        " is granted this policy's allow rules; pin repository as well")]
  else if m.branch.isNone && m.gitRef.isNone then
    [make .matchLacksRef
      ("[match] pins a repository but no branch or git_ref, so any ref matches -- including a pull-request branch from an " ++
        "outside contributor; add branch or git_ref to keep untrusted refs out")]
  else []

def PolicySet.lints (set : PolicySet) : List Lint := set.policies.flatMap Policy.lints

/-- What `policy validate` returns for its files, each read and parsed; its report is left out. -/
def validate {ε : Type} (strict : Bool) (files : List (Except ε Policy)) : Bool :=
  let linted := files.any fun file => match file with
    | .ok policy => policy.lints ≠ []
    | .error _ => false
  files.all (fun file => file.isOk) && !(linted && strict)

/-! ## What a match leaves open -/

namespace MatchSpec

/-- It accepts somebody. -/
def Satisfiable (spec : MatchSpec) : Prop := ∃ identity, spec.matches identity = true

def AcceptsEverybody (spec : MatchSpec) : Prop := ∀ identity, spec.matches identity = true

/-- Whoever is accepted would be from any other repository. -/
def IgnoresRepository (spec : MatchSpec) : Prop :=
  ∀ (identity : WorkloadIdentity) repository, spec.matches identity = true →
    spec.matches { identity with repository } = true

/-- Whoever is accepted would be on any other ref. -/
def IgnoresRef (spec : MatchSpec) : Prop :=
  ∀ (identity : WorkloadIdentity) gitRef, spec.matches identity = true → spec.matches { identity with gitRef } = true

end MatchSpec

section
variable {spec : MatchSpec} {identity : WorkloadIdentity}

@[simp] theorem constrains_none {α : Type} (test : α → Bool) : constrains none test = true := rfl

/-- A constraint that nothing meets is there or not. -/
theorem constrains_never {α : Type} {want : Option α} {test : α → Bool} (never : ∀ value, test value = false) :
    constrains want test = true ↔ want = none := by
  cases want <;> simp [constrains, never]

theorem specificity_eq_zero : spec.specificity = 0 ↔
    spec.organization = none ∧ spec.repository = none ∧ spec.workflow = none ∧ spec.gitRef = none ∧
      spec.branch = none ∧ spec.environment = none ∧ spec.actor = none ∧ spec.kind = none := by
  simp [MatchSpec.specificity, List.filter_eq_nil_iff]

/-- An identity that says nothing meets no constraint. -/
theorem matches_nobody : spec.matches {} = true ↔ spec.specificity = 0 := by
  rw [specificity_eq_zero]
  simp only [MatchSpec.matches, Bool.and_eq_true, and_assoc]
  refine and_congr (constrains_never fun _ => rfl) (and_congr (constrains_never fun _ => rfl) ?_)
  refine and_congr (constrains_never fun _ => rfl) (and_congr (constrains_never fun _ => rfl) ?_)
  refine and_congr (constrains_never fun _ => rfl) (and_congr (constrains_never fun _ => rfl) ?_)
  exact and_congr (constrains_never fun _ => rfl) (constrains_never fun _ => rfl)

theorem acceptsEverybody_iff : spec.AcceptsEverybody ↔ spec.specificity = 0 := by
  constructor
  · intro everybody
    exact matches_nobody.mp (everybody {})
  · intro free identity
    obtain ⟨organization, repository, workflow, gitRef, branch, environment, actor, kind⟩ := specificity_eq_zero.mp free
    simp [MatchSpec.matches, organization, repository, workflow, gitRef, branch, environment, actor, kind]

theorem repository_pinned {pin : String} (pinned : spec.repository = some pin) (accepted : spec.matches identity = true) :
    ∃ repository, identity.repository = some repository ∧
      (Text.eqIgnoreAsciiCase repository pin = true ∨
        identity.repositoryName.any (Text.eqIgnoreAsciiCase · pin) = true) := by
  simp only [MatchSpec.matches, Bool.and_eq_true, pinned, constrains, Bool.or_eq_true] at accepted
  have meets := accepted.1.1.1.1.1.1.2
  cases repository : identity.repository with
  | none => simp [WorkloadIdentity.repositoryName, repository] at meets
  | some name =>
    rw [repository] at meets
    exact ⟨name, rfl, meets⟩

/-- The one ref that is accepted, where the match has a ref or a branch. -/
def MatchSpec.pinnedRef (spec : MatchSpec) : Option String :=
  spec.gitRef.or (spec.branch.map ("refs/heads/" ++ ·))

theorem ref_pinned {gitRef : String} (pinned : spec.pinnedRef = some gitRef) (accepted : spec.matches identity = true) :
    identity.gitRef = some gitRef := by
  simp only [MatchSpec.matches, Bool.and_eq_true] at accepted
  have meetsRef := accepted.1.1.1.1.2
  have meetsBranch := accepted.1.1.1.2
  cases wanted : spec.gitRef with
  | some ref =>
    have same : ref = gitRef := by simpa [MatchSpec.pinnedRef, wanted] using pinned
    simpa [wanted, constrains, same] using meetsRef
  | none =>
    simp only [MatchSpec.pinnedRef, wanted, Option.none_or, Option.map_eq_some_iff] at pinned
    obtain ⟨branch, wantedBranch, rfl⟩ := pinned
    simp only [wantedBranch, constrains, WorkloadIdentity.branch, beq_iff_eq, Option.bind_eq_some_iff] at meetsBranch
    obtain ⟨ref, there, stripped⟩ := meetsBranch
    rw [there, Text.stripPrefix_eq_some_iff.mp stripped]

theorem ignoresRepository_iff (somebody : spec.Satisfiable) : spec.IgnoresRepository ↔ spec.repository = none := by
  constructor
  · intro ignores
    obtain ⟨identity, accepted⟩ := somebody
    have anonymous := ignores identity none accepted
    cases pinned : spec.repository with
    | none => rfl
    | some pin =>
      obtain ⟨_, never, -⟩ := repository_pinned pinned anonymous
      cases never
  · intro free identity repository accepted
    simpa [MatchSpec.matches, free, WorkloadIdentity.branch] using accepted

theorem ignoresRef_iff (somebody : spec.Satisfiable) : spec.IgnoresRef ↔ spec.gitRef = none ∧ spec.branch = none := by
  constructor
  · intro ignores
    obtain ⟨identity, accepted⟩ := somebody
    have nowhere := ignores identity none accepted
    have unpinned : spec.pinnedRef = none := by
      cases pinned : spec.pinnedRef with
      | none => rfl
      | some gitRef => exact nomatch ref_pinned pinned nowhere
    simpa [MatchSpec.pinnedRef, Option.or_eq_none_iff] using unpinned
  · intro free identity gitRef accepted
    simpa [MatchSpec.matches, free.1, free.2, WorkloadIdentity.repositoryName] using accepted

/-! ## What a lint says -/

def Policy.lintCodes (policy : Policy) : List LintCode := policy.lints.map Lint.code

theorem lintCodes_eq (policy : Policy) : policy.lintCodes =
    if !policy.grants then []
    else if policy.matchSpec.specificity = 0 then [.matchGovernsEveryWorkload]
    else if policy.matchSpec.repository.isNone then [.matchLacksRepository]
    else if policy.matchSpec.branch.isNone && policy.matchSpec.gitRef.isNone then [.matchLacksRef]
    else [] := by
  simp only [Policy.lintCodes, Policy.lints]
  split_ifs <;> rfl

/-- Each lint is there exactly if the match leaves open what the lint is named for, and nothing worse. -/
theorem lints_exact {policy : Policy} (somebody : policy.matchSpec.Satisfiable) :
    (.matchGovernsEveryWorkload ∈ policy.lintCodes ↔ policy.grants = true ∧ policy.matchSpec.AcceptsEverybody) ∧
    (.matchLacksRepository ∈ policy.lintCodes ↔ policy.grants = true ∧ ¬policy.matchSpec.AcceptsEverybody ∧
      policy.matchSpec.IgnoresRepository) ∧
    (.matchLacksRef ∈ policy.lintCodes ↔ policy.grants = true ∧ ¬policy.matchSpec.IgnoresRepository ∧
      policy.matchSpec.IgnoresRef) := by
  rw [acceptsEverybody_iff, ignoresRepository_iff somebody, ignoresRef_iff somebody, lintCodes_eq]
  have pinned : policy.matchSpec.specificity = 0 → policy.matchSpec.repository = none :=
    fun free => (specificity_eq_zero.mp free).2.1
  split_ifs with denies free anyRepository anyRef <;> simp_all [imp_not_comm]

theorem validate_strict {ε : Type} {set : PolicySet}
    (passed : validate true (set.policies.map (Except.ok : Policy → Except ε Policy)) = true) : set.lints = [] := by
  rw [PolicySet.lints, List.flatMap_eq_nil_iff]
  simp only [validate, Bool.and_true, Bool.and_eq_true, Bool.not_eq_true', List.any_eq_false, List.mem_map,
    forall_exists_index, and_imp, forall_apply_eq_imp_iff₂, decide_eq_true_eq] at passed
  intro policy member
  exact not_not.mp (passed.2 policy member)

/-- Whoever a set of files that passed `validate --strict` allows something, the policy it is by holds on to a repository and
to one ref, and is nobody's from elsewhere. -/
theorem strict_allow_is_pinned {ε : Type} {set : PolicySet} {ctx : RequestContext} {allowed : Allowed}
    (passed : validate true (set.policies.map (Except.ok : Policy → Except ε Policy)) = true)
    (granted : set.evaluate ctx = .allow allowed) :
    ∃ policy pin gitRef, set.select ctx.workload = some policy ∧ policy.matchSpec.repository = some pin ∧
      policy.matchSpec.pinnedRef = some gitRef ∧
      ∀ identity, set.select identity = some policy → identity.gitRef = some gitRef ∧
        ∃ repository, identity.repository = some repository ∧
          (Text.eqIgnoreAsciiCase repository pin = true ∨
            identity.repositoryName.any (Text.eqIgnoreAsciiCase · pin) = true) := by
  obtain ⟨policy, selected, -, evaluated, -⟩ := PolicySet.evaluate_allow_iff_select.mp granted
  obtain ⟨index, rule, first, allows, -⟩ := Policy.evaluate_allow_iff.mp evaluated
  have grants : policy.grants = true :=
    List.any_eq_true.mpr ⟨rule, List.mem_of_getElem? first.present, by simp [allows]⟩
  have clean : policy.lintCodes = [] := by
    rw [Policy.lintCodes, List.flatMap_eq_nil_iff.mp (validate_strict passed) policy (PolicySet.select_mem selected).1, List.map_nil]
  rw [lintCodes_eq] at clean
  split_ifs at clean with denies free anyRepository anyRef
  · simp [grants] at denies
  obtain ⟨pin, pinned⟩ : ∃ pin, policy.matchSpec.repository = some pin := by
    apply Option.ne_none_iff_exists'.mp
    intro absent
    simp [absent] at anyRepository
  obtain ⟨gitRef, pinnedRef⟩ : ∃ gitRef, policy.matchSpec.pinnedRef = some gitRef := by
    apply Option.ne_none_iff_exists'.mp
    intro absent
    simp only [MatchSpec.pinnedRef, Option.or_eq_none_iff, Option.map_eq_none_iff] at absent
    simp [absent] at anyRef
  refine ⟨policy, pin, gitRef, selected, pinned, pinnedRef, fun identity chosen => ?_⟩
  have candidate := (PolicySet.select_mem chosen).2
  simp only [Policy.isCandidate, Bool.and_eq_true] at candidate
  exact ⟨ref_pinned pinnedRef candidate.2, repository_pinned pinned candidate.2⟩

/-- A policy of a branch, one of a whole organisation, and one of a repository. -/
def mainPolicy : Policy where
  name := "main"
  matchSpec := { repository := some "acme/widget", branch := some "main" }
  rules := [⟨none, .any, .any, .allow, [⟨.any, .any, "*:*"⟩]⟩]

def orgPolicy : Policy := { mainPolicy with name := "org", matchSpec := { organization := some "acme" } }

theorem lints_exact_org : .matchLacksRepository ∈ orgPolicy.lintCodes ∧ orgPolicy.matchSpec.IgnoresRepository := by
  have somebody : orgPolicy.matchSpec.Satisfiable := ⟨{ organization := some "acme" }, by decide⟩
  have listed : .matchLacksRepository ∈ orgPolicy.lintCodes := by decide
  exact ⟨listed, ((lints_exact somebody).2.1.mp listed).2.2⟩

def mainRequest : RequestContext where
  workload := { repository := some "acme/widget", gitRef := some "refs/heads/main" }
  application := "psql"
  transport := .tcp
  destination := ⟨.name "db", 5432⟩
  requestedPolicy := none

theorem strict_allow_is_pinned_main :
    ∃ policy, (PolicySet.mk [mainPolicy]).select mainRequest.workload = some policy ∧
      policy.matchSpec.pinnedRef = some "refs/heads/main" := by
  have passed : validate true ([mainPolicy].map (Except.ok : Policy → Except String Policy)) = true := by decide
  have granted : (PolicySet.mk [mainPolicy]).evaluate mainRequest = .allow (mainPolicy.terms mainPolicy.rules[0] 0) := by
    decide
  obtain ⟨policy, pin, gitRef, selected, -, pinned, everywhere⟩ := strict_allow_is_pinned passed granted
  have same := (everywhere _ selected).1
  exact ⟨policy, selected, pinned.trans same.symm⟩

/-! ## The tests of a policy -/

def Decision.action : Decision → Action
  | .allow _ => .allow
  | .deny _ => .deny

def Action.text : Action → String
  | .allow => "allow"
  | .deny => "deny"

def PolicyTest.usedTransport (test : PolicyTest) : Transport := test.transport.getD .tcp

structure TestOutcome where
  test : PolicyTest
  /-- `None` where the destination did not parse. -/
  actual : Option Action
  passed : Bool
  detail : Option String
  deriving DecidableEq, Repr

def Policy.representativeIdentity (policy : Policy) : WorkloadIdentity :=
  let m := policy.matchSpec
  { organization := m.organization
    repository := m.repository
    workflow := m.workflow
    gitRef := m.gitRef.or (m.branch.map ("refs/heads/" ++ ·))
    environment := m.environment
    actor := m.actor
    kind := m.kind }

/-- `errorText` is how an error of `Destination::parse` displays. -/
def Policy.runOneTest (errorText : ParseDestinationError → String) (policy : Policy) (test : PolicyTest)
    (workload : WorkloadIdentity) : TestOutcome :=
  match Destination.parse test.destination with
  | .error error => ⟨test, none, false, some ("the test destination is invalid: " ++ errorText error)⟩
  | .ok destination =>
    let actual := (policy.evaluate ⟨workload, test.application, test.usedTransport, destination, none⟩).action
    let passed := actual == test.expect
    ⟨test, some actual, passed,
      if passed then none else some ("expected " ++ test.expect.text ++ ", got " ++ actual.text)⟩

def Policy.runTests (errorText : ParseDestinationError → String) (policy : Policy) : List TestOutcome :=
  policy.tests.map fun test => policy.runOneTest errorText test policy.representativeIdentity

section
variable {policy : Policy}

theorem eqIgnoreAsciiCase_refl (text : String) : Text.eqIgnoreAsciiCase text text = true := beq_self_eq_true _

/-- The match accepts the identity made for its tests, unless it accepts nobody: its ref and its branch are apart. -/
theorem representative_accepted : policy.matchSpec.matches policy.representativeIdentity = true ↔
    policy.matchSpec.Satisfiable := by
  constructor
  · exact fun accepted => ⟨_, accepted⟩
  · rintro ⟨identity, accepted⟩
    have self {want : Option String} : constrains want (want == some ·) = true := by
      cases want <;> simp [constrains]
    have folded {want : Option String} : constrains want (fun text => want.any (Text.eqIgnoreAsciiCase · text)) = true := by
      cases want <;> simp [constrains, eqIgnoreAsciiCase_refl]
    have kind : constrains policy.matchSpec.kind (fun kind => policy.matchSpec.kind == some kind) = true := by
      cases policy.matchSpec.kind <;> simp [constrains]
    have repository : constrains policy.matchSpec.repository (fun repo =>
        policy.matchSpec.repository.any (Text.eqIgnoreAsciiCase · repo) ||
          policy.representativeIdentity.repositoryName.any (Text.eqIgnoreAsciiCase · repo)) = true := by
      cases policy.matchSpec.repository <;> simp [constrains, eqIgnoreAsciiCase_refl]
    have meetsBranch : constrains policy.matchSpec.branch (identity.branch == some ·) = true := by
      simp only [MatchSpec.matches, Bool.and_eq_true] at accepted
      exact accepted.1.1.1.2
    have gitRef : constrains policy.matchSpec.gitRef (policy.representativeIdentity.gitRef == some ·) = true := by
      cases wanted : policy.matchSpec.gitRef <;> simp [constrains, Policy.representativeIdentity, wanted]
    have branch : constrains policy.matchSpec.branch (policy.representativeIdentity.branch == some ·) = true := by
      cases wanted : policy.matchSpec.branch with
      | none => rfl
      | some name =>
        obtain ⟨ref, pinned⟩ : ∃ ref, policy.matchSpec.pinnedRef = some ref := by
          cases gitRef : policy.matchSpec.gitRef <;> simp [MatchSpec.pinnedRef, wanted, gitRef]
        have represented : policy.representativeIdentity.gitRef = some ref := pinned
        have same := ref_pinned pinned accepted
        rw [wanted] at meetsBranch
        simpa [constrains, WorkloadIdentity.branch, represented, same] using meetsBranch
    simp only [MatchSpec.matches, Bool.and_eq_true]
    exact ⟨⟨⟨⟨⟨⟨⟨folded, repository⟩, self⟩, gitRef⟩, branch⟩, self⟩, self⟩, kind⟩

/-- The rules look at what is asked for, not at who asks. -/
theorem evaluate_action_congr {ctx other : RequestContext} (application : other.application = ctx.application)
    (transport : other.transport = ctx.transport) (destination : other.destination = ctx.destination) :
    (policy.evaluate other).action = (policy.evaluate ctx).action := by
  have same (rule : Rule) : rule.applies other = rule.applies ctx := by
    simp [Rule.applies, application, transport, destination]
  simp only [Policy.evaluate, same]
  cases policy.rules.zipIdx.find? (fun entry => entry.1.applies ctx) with
  | none => rfl
  | some entry => cases action : entry.1.action <;> simp [action, Decision.action]

theorem action_allow {decision : Decision} : decision.action = .allow ↔ ∃ allowed, decision = .allow allowed := by
  cases decision <;> simp [Decision.action]

end

/-- A test of a policy says what a set decides for every workload the policy is selected for, but for what a baseline denies:
it passes exactly if that decision is the expected one. -/
theorem tests_speak_for_all {errorText : ParseDestinationError → String} {set : PolicySet} {policy : Policy}
    {test : PolicyTest} {ctx : RequestContext} (listed : test ∈ policy.tests)
    (destination : Destination.parse test.destination = .ok ctx.destination)
    (application : ctx.application = test.application) (transport : ctx.transport = test.usedTransport)
    (unpinned : ctx.requestedPolicy = none) (selected : set.select ctx.workload = some policy) :
    policy.matchSpec.matches policy.representativeIdentity = true ∧
    ∃ outcome ∈ policy.runTests errorText, outcome.test = test ∧
      (outcome.passed = true ↔ outcome.actual = some test.expect) ∧
      ((set.evaluate ctx).isAllow = true ↔ outcome.actual = some .allow ∧ ¬BaselineDenies set ctx) := by
  have candidate := (PolicySet.select_mem selected).2
  simp only [Policy.isCandidate, Bool.and_eq_true] at candidate
  refine ⟨representative_accepted.mpr ⟨_, candidate.2⟩, _, List.mem_map_of_mem listed, ?_⟩
  have ran : (policy.evaluate ⟨policy.representativeIdentity, test.application, test.usedTransport, ctx.destination,
      none⟩).action = (policy.evaluate ctx).action :=
    evaluate_action_congr application.symm transport.symm rfl
  simp only [Policy.runOneTest, destination, ran, Option.some.injEq, beq_iff_eq, true_and]
  rw [action_allow]
  constructor
  · intro granted
    cases decided : set.evaluate ctx with
    | deny denied => simp [decided, Decision.isAllow] at granted
    | allow allowed =>
      obtain ⟨other, selectedToo, -, evaluated, free⟩ := PolicySet.evaluate_allow_iff_select.mp decided
      rw [selected] at selectedToo
      cases selectedToo
      exact ⟨⟨allowed, evaluated⟩, free⟩
  · rintro ⟨⟨allowed, evaluated⟩, free⟩
    rw [PolicySet.evaluate_allow_iff_select.mpr ⟨policy, selected, Or.inl unpinned, evaluated, free⟩]
    rfl

/-- A test of the policy of the main branch, for whoever runs there. -/
def mainTest : PolicyTest := ⟨"psql", "db:5432", none, .allow, none⟩

def testedPolicy : Policy := { mainPolicy with tests := [mainTest] }

theorem tests_speak_for_all_main :
    ∃ outcome ∈ testedPolicy.runTests fun _ => "", outcome.actual = some .allow := by
  have selected : (PolicySet.mk [testedPolicy]).select mainRequest.workload = some testedPolicy := by decide
  have parsed : Destination.parse "db:5432" = .ok mainRequest.destination := by decide
  have granted : ((PolicySet.mk [testedPolicy]).evaluate mainRequest).isAllow = true := by decide
  obtain ⟨-, outcome, member, -, -, decides⟩ :=
    @tests_speak_for_all (fun _ => "") ⟨[testedPolicy]⟩ testedPolicy mainTest mainRequest (List.mem_singleton_self _) parsed
      rfl rfl rfl selected
  exact ⟨outcome, member, (decides.mp granted).1⟩

end

end Skimasque.Engine
