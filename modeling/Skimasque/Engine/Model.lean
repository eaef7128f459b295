import Skimasque.Library.Selection
import Skimasque.Engine.Destination
import Skimasque.Engine.Identity

/-! The policy data model: what a policy document becomes once it is validated, and
which policy of a set governs a workload. -/

set_option autoImplicit false

namespace Skimasque.Engine
open Library Library.Selection

structure MatchSpec where
  organization : Option String := none
  repository : Option String := none
  workflow : Option String := none
  gitRef : Option String := none
  branch : Option String := none
  environment : Option String := none
  actor : Option String := none
  kind : Option WorkloadKind := none
  deriving DecidableEq, Repr

/-- `Option::is_none_or` over a constraint: an absent one is not checked. -/
def constrains {α : Type} (want : Option α) (test : α → Bool) : Bool :=
  match want with
  | none => true
  | some value => test value

def MatchSpec.matches (spec : MatchSpec) (identity : WorkloadIdentity) : Bool :=
  let ciEq := fun (want : String) (got : Option String) => got.any (Text.eqIgnoreAsciiCase · want)
  let eq := fun (want : String) (got : Option String) => got == some want
  constrains spec.organization (ciEq · identity.organization) &&
  constrains spec.repository (fun repo => ciEq repo identity.repository || ciEq repo identity.repositoryName) &&
  constrains spec.workflow (eq · identity.workflow) &&
  constrains spec.gitRef (eq · identity.gitRef) &&
  constrains spec.branch (eq · identity.branch) &&
  constrains spec.environment (eq · identity.environment) &&
  constrains spec.actor (eq · identity.actor) &&
  constrains spec.kind (fun kind => identity.kind == some kind)

def MatchSpec.specificity (spec : MatchSpec) : Nat :=
  ([spec.organization.isSome, spec.repository.isSome, spec.workflow.isSome, spec.gitRef.isSome,
    spec.branch.isSome, spec.environment.isSome, spec.actor.isSome, spec.kind.isSome].filter id).length

/-- A span of time, in nanoseconds. -/
abbrev Duration := Nat

structure SessionSpec where
  maxDuration : Option Duration := none
  deriving DecidableEq, Repr

structure EgressSpec where
  region : Option String
  ipPool : Option String
  deriving DecidableEq, Repr

structure Rate where
  count : UInt64
  per : Duration
  deriving DecidableEq, Repr

structure Limits where
  bandwidthBitsPerSec : Option UInt64 := none
  totalBytes : Option UInt64 := none
  concurrentConnections : Option UInt32 := none
  concurrentDestinations : Option UInt32 := none
  connectionRate : Option Rate := none
  packetsPerSec : Option UInt64 := none
  deriving DecidableEq, Repr

inductive Transport where
  | tcp
  | udp
  deriving DecidableEq, Repr

inductive TransportPattern where
  | any
  | tcp
  | udp
  deriving DecidableEq, Repr

def TransportPattern.matches : TransportPattern → Transport → Bool
  | .any, _ | .tcp, .tcp | .udp, .udp => true
  | _, _ => false

inductive AppPattern where
  | any
  | name (text : String)
  deriving DecidableEq, Repr

def AppPattern.matches : AppPattern → String → Bool
  | .any, _ => true
  | .name text, application => Text.eqIgnoreAsciiCase text application

inductive Action where
  | allow
  | deny
  deriving DecidableEq, Repr

structure Rule where
  id : Option String
  application : AppPattern
  transport : TransportPattern
  action : Action
  destinations : List DestinationSpec
  deriving DecidableEq, Repr

def Rule.covers (rule : Rule) (application : String) (transport : Transport) : Bool :=
  rule.application.matches application && rule.transport.matches transport

structure PolicyTest where
  application : String
  destination : String
  transport : Option Transport
  expect : Action
  description : Option String
  deriving DecidableEq, Repr

structure Policy where
  name : String
  matchSpec : MatchSpec := {}
  session : SessionSpec := {}
  egress : Option EgressSpec := none
  limits : Limits := {}
  rules : List Rule := []
  tests : List PolicyTest := []
  baseline : Bool := false
  deriving DecidableEq, Repr

structure PolicySet where
  policies : List Policy
  deriving DecidableEq, Repr

def PolicySet.get (set : PolicySet) (name : String) : Option Policy :=
  set.policies.find? (fun p => p.name == name)

/-- Baselines guard but never grant, so they are not candidates. -/
def Policy.isCandidate (identity : WorkloadIdentity) (policy : Policy) : Bool :=
  !policy.baseline && policy.matchSpec.matches identity

def Policy.specificity (policy : Policy) : Nat := policy.matchSpec.specificity

def PolicySet.select (set : PolicySet) (identity : WorkloadIdentity) : Option Policy :=
  (maxBy? (keyThenEarlier Policy.specificity) (set.policies.filter (Policy.isCandidate identity)).zipIdx).map
    Prod.fst

variable {set : PolicySet} {identity : WorkloadIdentity} {policy : Policy}

theorem PolicySet.select_eq_some_iff :
    set.select identity = some policy ↔
      FirstMaximum Policy.specificity (set.policies.filter (Policy.isCandidate identity)) policy :=
  maxBy?_eq_some_iff

theorem PolicySet.select_eq_none_iff :
    set.select identity = none ↔ ∀ p ∈ set.policies, p.isCandidate identity = false := by
  rw [PolicySet.select, maxBy?_eq_none_iff, List.filter_eq_nil_iff]
  simp

theorem PolicySet.select_mem (selected : set.select identity = some policy) :
    policy ∈ set.policies ∧ policy.isCandidate identity = true :=
  List.mem_filter.mp (PolicySet.select_eq_some_iff.mp selected).mem

/-- The position in the set, the policy there, and its rank among the policies that match. -/
structure Governs (set : PolicySet) (identity : WorkloadIdentity) (position : Nat)
    (policy : Policy) : Prop where
  present : set.policies[position]? = some policy
  notBaseline : policy.baseline = false
  accepts : policy.matchSpec.matches identity = true
  ranked : ∀ other (q : Policy), set.policies[other]? = some q → q.baseline = false →
    q.matchSpec.matches identity = true →
      q.matchSpec.specificity < policy.matchSpec.specificity ∨
        (q.matchSpec.specificity = policy.matchSpec.specificity ∧ position ≤ other)

theorem PolicySet.select_iff_governs :
    set.select identity = some policy ↔ ∃ position, Governs set identity position policy := by
  rw [PolicySet.select_eq_some_iff, firstMaximum_filter_iff]
  constructor
  · rintro ⟨candidate, before, after, split, less, atMost⟩
    simp only [Policy.isCandidate, Bool.and_eq_true, Bool.not_eq_true'] at candidate less atMost
    refine ⟨before.length, by simp [split], candidate.1, candidate.2, ?_⟩
    intro other q present guard accepts
    rw [split] at present
    by_cases early : other < before.length
    · rw [List.getElem?_append_left early] at present
      exact .inl (less q (List.mem_of_getElem? present) ⟨guard, accepts⟩)
    · rw [List.getElem?_append_right (by omega)] at present
      rcases List.mem_cons.mp (List.mem_of_getElem? present) with rfl | later
      · exact .inr ⟨rfl, by omega⟩
      · have := atMost q later ⟨guard, accepts⟩
        simp only [Policy.specificity] at this
        omega
  · rintro ⟨position, present, guard, accepts, ranked⟩
    obtain ⟨bound, rfl⟩ := List.getElem?_eq_some_iff.mp present
    refine ⟨by simp [Policy.isCandidate, guard, accepts], set.policies.take position,
      set.policies.drop (position + 1), by simp, ?_, ?_⟩
    · intro q member candidate
      simp only [Policy.isCandidate, Bool.and_eq_true, Bool.not_eq_true'] at candidate
      obtain ⟨index, early, rfl⟩ := List.mem_take_iff_getElem.mp member
      have := ranked index _ (List.getElem?_eq_getElem (by omega)) candidate.1 candidate.2
      simp only [Policy.specificity]
      omega
    · intro q member candidate
      simp only [Policy.isCandidate, Bool.and_eq_true, Bool.not_eq_true'] at candidate
      obtain ⟨index, late⟩ := List.mem_iff_getElem?.mp (List.mem_of_mem_drop member)
      have := ranked index q late candidate.1 candidate.2
      simp only [Policy.specificity]
      omega

end Skimasque.Engine
