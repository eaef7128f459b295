import Skimasque.Engine.DestinationText
import Skimasque.Engine.Evaluation
import Skimasque.Library.OrderedMap

/-! Learning mode: observed traffic becomes a policy draft.

The draft is generated from the destinations as they print, and read back as patterns; the result says that this
allows what was observed and nothing else.
-/

set_option autoImplicit false

namespace Skimasque.Engine
open Library Library.OrderedMap

/-- One thing a workload was seen doing. `count` is carried through for the reviewer. -/
structure Observation where
  application : String
  transport : Option Transport := none
  destination : String
  count : UInt64 := 0
  deriving DecidableEq, Repr

structure Suggestion where
  policy : Policy
  /-- What could not be used, and why. -/
  skipped : List (Observation × String)
  deriving DecidableEq, Repr

/-- The message of the error; `debug` is the `{:?}` form of a text. -/
def ParseDestinationError.message (debug : String → String) : ParseDestinationError → String
  | .empty value => debug value ++ " is empty"
  | .missingPort value => debug value ++ " has no port; expected host:port"
  | .malformed value reason => debug value ++ " is not a valid destination: " ++ reason
  | .badPort value => "port " ++ debug value ++ " is not in 1..=65535"
  | .badPrefix len family => "prefix length " ++ toString len.toNat ++ " is too long for an " ++ family ++ " address"

/-- `From<Option<Transport>>`. -/
def TransportPattern.ofOption : Option Transport → TransportPattern
  | none => .any
  | some .tcp => .tcp
  | some .udp => .udp

/-- The word to write in a policy; `any` is left off. -/
def TransportPattern.asWord : TransportPattern → Option String
  | .any => none
  | .tcp => some "tcp"
  | .udp => some "udp"

/-- The application as a rule writes it. -/
def appText : AppPattern → String
  | .any => "*"
  | .name text => text

/-- The derived order, in which the variants are declared. -/
def TransportPattern.rank : TransportPattern → Nat
  | .any => 0
  | .tcp => 1
  | .udp => 2

abbrev RuleKey := String × TransportPattern

/-- Texts are compared first, by their code points. -/
def RuleKey.before (left right : RuleKey) : Bool :=
  left.1 < right.1 || (left.1 == right.1 && left.2.rank < right.2.rank)

def textBefore (left right : String) : Bool := left < right

def Observation.key (observation : Observation) : RuleKey := (observation.application, .ofOption observation.transport)

def matchFromIdentity (identity : WorkloadIdentity) : MatchSpec :=
  let (branch, gitRef) := match identity.branch with
    | some branch => (some branch, none)
    | none => (none, identity.gitRef)
  { organization := identity.organization
    repository := identity.repository
    workflow := identity.workflow
    gitRef
    branch
    environment := identity.environment
    actor := identity.actor
    kind := identity.kind }

/-- One turn of the loop over the observations. -/
def collect (debug : String → String) (found : List (RuleKey × List String) × List (Observation × String))
    (observation : Observation) : List (RuleKey × List String) × List (Observation × String) :=
  match Destination.parse observation.destination with
  | .ok destination => (insertAt RuleKey.before textBefore observation.key destination.text found.1, found.2)
  | .error error => (found.1, found.2 ++ [(observation, error.message debug)])

def collected (debug : String → String) (observations : List Observation) :
    List (RuleKey × List String) × List (Observation × String) :=
  observations.foldl (collect debug) ([], [])

/-- The rule of one key, or nothing where `expect` panics. -/
def observedRule (entry : RuleKey × List String) : Option Rule := do
  let ((application, transport), destinations) := entry
  let appPattern := if Text.isEmpty application || application == "*" then .any else .name application
  let appId := if Text.isEmpty application then "any" else application
  let id := match transport.asWord with
    | some word => appId ++ "-" ++ word ++ "-observed"
    | none => appId ++ "-observed"
  let destinations ← destinations.mapM fun destination => (DestinationSpec.parse destination).toOption
  return { id := some id, application := appPattern, transport, action := .allow, destinations }

def suggestPolicy (debug : String → String) (name : String) (identity : WorkloadIdentity)
    (observations : List Observation) : Option Suggestion := do
  let (byKey, skipped) := collected debug observations
  let rules ← byKey.mapM observedRule
  return ⟨{ name, matchSpec := matchFromIdentity identity, rules }, skipped⟩

/-! ## The match -/

theorem constrains_self {α : Type} (want : Option α) {test : α → Bool} (accepts : ∀ value, want = some value → test value = true) :
    constrains want test = true := by
  cases want with
  | none => rfl
  | some value => exact accepts value rfl

theorem matchFromIdentity_matches (identity : WorkloadIdentity) :
    (matchFromIdentity identity).matches identity = true := by
  have same (text : String) : Text.eqIgnoreAsciiCase text text = true := beq_self_eq_true _
  have branches : (matchFromIdentity identity).branch = identity.branch := by
    unfold matchFromIdentity
    cases identity.branch with
    | none => rfl
    | some branch => rfl
  have refs : ∀ value, (matchFromIdentity identity).gitRef = some value → identity.gitRef = some value := by
    unfold matchFromIdentity
    cases identity.branch with
    | none => exact fun _ => id
    | some branch => nofun
  simp only [MatchSpec.matches, Bool.and_eq_true]
  refine ⟨⟨⟨⟨⟨⟨⟨?_, ?_⟩, ?_⟩, ?_⟩, ?_⟩, ?_⟩, ?_⟩, ?_⟩ <;> apply constrains_self <;> intro value present
  · simp [show identity.organization = some value from present, same]
  · simp [show identity.repository = some value from present, same]
  · simp [show identity.workflow = some value from present]
  · simp [refs value present]
  · simp [branches.symm.trans present]
  · simp [show identity.environment = some value from present]
  · simp [show identity.actor = some value from present]
  · simp [show identity.kind = some value from present]

/-! ## What is collected -/

/-- The observation is of that destination, under that key. -/
def Observation.Names (observation : Observation) (key : RuleKey) (destination : Destination) : Prop :=
  Destination.parse observation.destination = .ok destination ∧ observation.key = key

def Observation.skipped (debug : String → String) (observation : Observation) : Option (Observation × String) :=
  match Destination.parse observation.destination with
  | .ok _ => none
  | .error error => some (observation, error.message debug)

theorem collect_skipped (debug : String → String) (observations : List Observation)
    (found : List (RuleKey × List String) × List (Observation × String)) :
    (observations.foldl (collect debug) found).2 = found.2 ++ observations.filterMap (Observation.skipped debug) := by
  induction observations generalizing found with
  | nil => simp
  | cons observation rest ih =>
    rw [List.foldl_cons, ih, List.filterMap_cons]
    cases parsed : Destination.parse observation.destination with
    | ok destination => simp [collect, Observation.skipped, parsed]
    | error error => simp [collect, Observation.skipped, parsed]

theorem collect_holds (debug : String → String) (observations : List Observation)
    (found : List (RuleKey × List String) × List (Observation × String)) (key : RuleKey) (text : String) :
    Holds (observations.foldl (collect debug) found).1 key text ↔
      Holds found.1 key text ∨
        ∃ observation ∈ observations, ∃ destination, observation.Names key destination ∧ text = destination.text := by
  induction observations generalizing found with
  | nil => simp
  | cons observation rest ih =>
    rw [List.foldl_cons, ih]
    simp only [List.exists_mem_cons_iff]
    cases parsed : Destination.parse observation.destination with
    | ok destination =>
      have names (other : Destination) : observation.Names key other ↔ destination = other ∧ observation.key = key := by
        simp [Observation.Names, parsed]
      simp only [collect, parsed, holds_insertAt, names]
      constructor
      · rintro ((⟨rfl, rfl⟩ | old) | later)
        · exact .inr (.inl ⟨destination, ⟨rfl, rfl⟩, rfl⟩)
        · exact .inl old
        · exact .inr (.inr later)
      · rintro (old | ⟨other, ⟨rfl, rfl⟩, rfl⟩ | later)
        · exact .inl (.inr old)
        · exact .inl (.inl ⟨rfl, rfl⟩)
        · exact .inr later
    | error error => simp [collect, parsed, Observation.Names]

/-! ## The rules -/

def RuleKey.Covers (key : RuleKey) (ctx : RequestContext) : Prop :=
  (key.1 = "" ∨ key.1 = "*" ∨ Text.eqIgnoreAsciiCase key.1 ctx.application = true) ∧ key.2.matches ctx.transport = true

/-- The text is what a destination that was parsed prints as. -/
def Shows (text : String) (destination : Destination) : Prop :=
  ∃ input, Destination.parse input = .ok destination ∧ text = destination.text

theorem Shows.parse {text : String} {destination : Destination} (shows : Shows text destination) :
    DestinationSpec.parse text = .ok ⟨destination.host.pattern, .exact destination.port, text⟩ := by
  obtain ⟨input, parsed, rfl⟩ := shows
  exact DestinationSpec.parse_text parsed

theorem Shows.matches_iff {text : String} {destination other : Destination} (shows : Shows text destination) :
    (∃ spec, DestinationSpec.parse text = .ok spec ∧ spec.matches other = true) ↔ other = destination := by
  rw [shows.parse]
  simp only [Except.ok.injEq, exists_eq_left']
  exact DestinationSpec.matches_pattern_iff

theorem Shows.unique {text : String} {left right : Destination} (first : Shows text left) (second : Shows text right) :
    left = right := by
  obtain ⟨input, leftParsed, rfl⟩ := first
  obtain ⟨other, rightParsed, same⟩ := second
  exact Destination.eq_of_text_eq leftParsed rightParsed same

section
variable {key : RuleKey} {texts : List String} (shown : ∀ text ∈ texts, ∃ destination, Shows text destination)
include shown

theorem destinations_parse :
    texts.mapM (fun text => (DestinationSpec.parse text).toOption) =
      some (texts.filterMap fun text => (DestinationSpec.parse text).toOption) := by
  apply Result.mapM_eq_some_filterMap
  intro text member
  obtain ⟨destination, shows⟩ := shown text member
  rw [shows.parse]
  rfl

theorem observedRule_isSome : (observedRule (key, texts)).isSome = true := by
  simp [observedRule, destinations_parse shown]

/-- The patterns of a rule cover what their texts show. -/
theorem any_matches_iff (other : Destination) :
    (texts.filterMap fun text => (DestinationSpec.parse text).toOption).any (·.matches other) = true ↔
      ∃ text ∈ texts, Shows text other := by
  simp only [List.any_eq_true, List.mem_filterMap, Result.toOption_eq_some_iff]
  constructor
  · rintro ⟨spec, ⟨text, member, parsed⟩, accepts⟩
    obtain ⟨destination, shows⟩ := shown text member
    obtain rfl := shows.matches_iff.mp ⟨spec, parsed, accepts⟩
    exact ⟨text, member, shows⟩
  · rintro ⟨text, member, shows⟩
    obtain ⟨spec, parsed, accepts⟩ := shows.matches_iff.mpr rfl
    exact ⟨spec, ⟨text, member, parsed⟩, accepts⟩

theorem observedRule_applies_iff {rule : Rule} (made : observedRule (key, texts) = some rule) (ctx : RequestContext) :
    rule.applies ctx = true ↔ key.Covers ctx ∧ ∃ text ∈ texts, Shows text ctx.destination := by
  obtain ⟨application, transport⟩ := key
  simp only [observedRule, destinations_parse shown, Option.bind_eq_bind, Option.bind_some, Option.pure_def,
    Option.some.injEq] at made
  subst made
  rw [← any_matches_iff shown, Rule.applies, Rule.covers, Bool.and_eq_true, Bool.and_eq_true, RuleKey.Covers]
  refine and_congr (and_congr ?_ Iff.rfl) Iff.rfl
  simp only [Bool.or_eq_true, Text.isEmpty_iff, beq_iff_eq]
  split
  · rename_i every
    simp only [AppPattern.matches, true_iff]
    tauto
  · rename_i named
    simp only [AppPattern.matches]
    tauto

end

/-! ## The draft -/

/-- Where every rule allows, a request is allowed if any of them applies. -/
theorem Policy.isAllow_iff_of_allow {policy : Policy} {ctx : RequestContext}
    (allows : ∀ rule ∈ policy.rules, rule.action = .allow) :
    (policy.evaluate ctx).isAllow = true ↔ ∃ rule ∈ policy.rules, rule.applies ctx = true := by
  constructor
  · intro granted
    cases decided : policy.evaluate ctx with
    | deny denied =>
      rw [decided] at granted
      cases granted
    | allow allowed =>
      obtain ⟨index, rule, first, -, -⟩ := Policy.evaluate_allow_iff.mp decided
      exact ⟨rule, List.mem_of_getElem? first.present, first.applies⟩
  · rintro ⟨rule, member, applies⟩
    cases found : policy.rules.zipIdx.find? (fun entry => entry.1.applies ctx) with
    | none =>
      obtain ⟨index, bound, rfl⟩ := List.mem_iff_getElem.mp member
      have refused := List.find?_eq_none.mp found (policy.rules[index], index) (by simp [List.mem_zipIdx_iff_getElem?])
      exact absurd applies refused
    | some entry =>
      have first := find_zipIdx_iff.mp found
      rw [Policy.evaluate_of_first first, allows entry.1 (List.mem_of_getElem? first.present)]
      rfl

section
variable {debug : String → String} {observations : List Observation}

theorem collected_skipped : (collected debug observations).2 = observations.filterMap (Observation.skipped debug) :=
  collect_skipped debug observations ([], [])

theorem collected_holds_iff {key : RuleKey} {text : String} :
    Holds (collected debug observations).1 key text ↔
      ∃ observation ∈ observations, ∃ destination, observation.Names key destination ∧ text = destination.text := by
  rw [collected, collect_holds]
  apply or_iff_right
  rintro ⟨texts, member, -⟩
  cases member

theorem collected_shown {key : RuleKey} {texts : List String} (member : (key, texts) ∈ (collected debug observations).1) :
    ∀ text ∈ texts, ∃ destination, Shows text destination := by
  intro text inside
  obtain ⟨observation, -, destination, names, rfl⟩ := collected_holds_iff.mp ⟨texts, member, inside⟩
  exact ⟨destination, observation.destination, names.1, rfl⟩

theorem suggestPolicy_eq (name : String) (identity : WorkloadIdentity) :
    suggestPolicy debug name identity observations =
      some ⟨{ name, matchSpec := matchFromIdentity identity
              rules := (collected debug observations).1.filterMap observedRule },
        observations.filterMap (Observation.skipped debug)⟩ := by
  have rules : (collected debug observations).1.mapM observedRule =
      some ((collected debug observations).1.filterMap observedRule) := by
    apply Result.mapM_eq_some_filterMap
    intro entry member
    exact observedRule_isSome (collected_shown member)
  simp only [suggestPolicy, rules, collected_skipped, Option.bind_eq_bind, Option.bind_some, Option.pure_def]

theorem observedRules_allow : ∀ rule ∈ (collected debug observations).1.filterMap observedRule, rule.action = .allow := by
  intro rule member
  obtain ⟨⟨key, texts⟩, entry, made⟩ := List.mem_filterMap.mp member
  simp only [observedRule, Option.bind_eq_bind, Option.bind_eq_some_iff] at made
  obtain ⟨destinations, -, same⟩ := made
  cases same
  rfl

theorem observedRules_apply_iff (ctx : RequestContext) :
    (∃ rule ∈ (collected debug observations).1.filterMap observedRule, rule.applies ctx = true) ↔
      ∃ observation ∈ observations, observation.key.Covers ctx ∧
        Destination.parse observation.destination = .ok ctx.destination := by
  constructor
  · rintro ⟨rule, member, applies⟩
    obtain ⟨⟨key, texts⟩, entry, made⟩ := List.mem_filterMap.mp member
    obtain ⟨covers, text, inside, shows⟩ := (observedRule_applies_iff (collected_shown entry) made ctx).mp applies
    obtain ⟨observation, seen, destination, ⟨parsed, rfl⟩, rfl⟩ := collected_holds_iff.mp ⟨texts, entry, inside⟩
    obtain rfl := shows.unique ⟨_, parsed, rfl⟩
    exact ⟨observation, seen, covers, parsed⟩
  · rintro ⟨observation, seen, covers, parsed⟩
    have held : Holds (collected debug observations).1 observation.key ctx.destination.text :=
      collected_holds_iff.mpr ⟨observation, seen, ctx.destination, ⟨parsed, rfl⟩, rfl⟩
    obtain ⟨texts, entry, inside⟩ := held
    obtain ⟨rule, made⟩ := Option.isSome_iff_exists.mp (observedRule_isSome (collected_shown entry))
    refine ⟨rule, List.mem_filterMap.mpr ⟨_, entry, made⟩, ?_⟩
    exact (observedRule_applies_iff (collected_shown entry) made ctx).mpr ⟨covers, _, inside, _, parsed, rfl⟩

end

/-- What a key covers, in terms of the observation it comes from. -/
theorem Observation.key_covers_iff (observation : Observation) (ctx : RequestContext) :
    observation.key.Covers ctx ↔
      (Text.eqIgnoreAsciiCase observation.application ctx.application = true ∨ observation.application = "" ∨
        observation.application = "*") ∧
      (observation.transport = none ∨ observation.transport = some ctx.transport) := by
  have transports : (TransportPattern.ofOption observation.transport).matches ctx.transport = true ↔
      observation.transport = none ∨ observation.transport = some ctx.transport := by
    cases observation.transport with
    | none => simp [TransportPattern.ofOption, TransportPattern.matches]
    | some transport =>
      cases transport <;> cases ctx.transport <;> simp [TransportPattern.ofOption, TransportPattern.matches]
  rw [RuleKey.Covers, Observation.key, transports]
  tauto

/-- A draft allows what was observed and nothing else: it is always made, it governs the workload that was observed,
it leaves out the observations that do not parse, in their order, and it allows a request exactly if its destination
was observed for that application and transport. -/
theorem draft_allows_what_was_observed (debug : String → String) (name : String) (identity : WorkloadIdentity)
    (observations : List Observation) :
    (∀ input destination, Destination.parse input = .ok destination →
      ∃ spec, DestinationSpec.parse destination.text = .ok spec) ∧
    ∃ suggestion, suggestPolicy debug name identity observations = some suggestion ∧
      suggestion.policy.matchSpec.matches identity = true ∧
      suggestion.skipped = observations.filterMap (Observation.skipped debug) ∧
      ∀ ctx, (suggestion.policy.evaluate ctx).isAllow = true ↔
        ∃ observation ∈ observations, Destination.parse observation.destination = .ok ctx.destination ∧
          (Text.eqIgnoreAsciiCase observation.application ctx.application = true ∨ observation.application = "" ∨
            observation.application = "*") ∧
          (observation.transport = none ∨ observation.transport = some ctx.transport) := by
  refine ⟨fun input destination parsed => ⟨_, DestinationSpec.parse_text parsed⟩, ?_⟩
  refine ⟨_, suggestPolicy_eq name identity, matchFromIdentity_matches identity, rfl, ?_⟩
  intro ctx
  rw [Policy.isAllow_iff_of_allow observedRules_allow, observedRules_apply_iff]
  simp only [Observation.key_covers_iff]
  constructor
  · rintro ⟨observation, seen, covers, parsed⟩
    exact ⟨observation, seen, parsed, covers⟩
  · rintro ⟨observation, seen, parsed, covers⟩
    exact ⟨observation, seen, covers, parsed⟩

end Skimasque.Engine
