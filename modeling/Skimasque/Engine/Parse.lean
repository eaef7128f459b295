import Skimasque.Engine.Evaluation
import Skimasque.Engine.Units
import Skimasque.Library.Result

/-! Turning policy documents into a validated set of policies.

The two document languages and the quantities read through floating point are parameters
(`Formats`); everything the repository does with what they return is here.
-/

set_option autoImplicit false

namespace Skimasque.Engine
open Library

inductive ParseError where
  | toml (message : String)
  | yaml (message : String)
  | durationSetTwice
  | missingName
  | destination (rule : Nat) (source : ParseDestinationError)
  | emptyRule (rule : Nat)
  | unit (field : String) (source : ParseUnitError)
  | badAction (field value : String)
  | badTransport (field value : String)
  | baselineAllows (rule : Nat)
  | badKind (value : String)
  deriving DecidableEq, Repr

structure RawMatch where
  organization : Option String := none
  repository : Option String := none
  workflow : Option String := none
  gitRef : Option String := none
  branch : Option String := none
  environment : Option String := none
  actor : Option String := none
  kind : Option String := none
  deriving DecidableEq, Repr

structure RawLimits where
  bandwidth : Option String := none
  bytes : Option String := none
  connections : Option UInt32 := none
  concurrentDestinations : Option UInt32 := none
  connectionRate : Option String := none
  packetsPerSecond : Option UInt64 := none
  deriving DecidableEq, Repr

structure RawRule where
  id : Option String := none
  application : String
  transport : Option String := none
  action : String
  destinations : List String := []
  deriving DecidableEq, Repr

structure RawTest where
  application : String
  destination : String
  transport : Option String := none
  expect : String
  description : Option String := none
  deriving DecidableEq, Repr

/-- `session.max_duration` and the nested tables of both layouts are flattened into one record. -/
structure RawPolicy where
  name : Option String
  baseline : Bool := false
  matchSpec : RawMatch := {}
  maxDuration : Option String := none
  egress : Option EgressSpec := none
  limits : RawLimits := {}
  rules : List RawRule := []
  tests : List RawTest := []
  deriving DecidableEq, Repr

structure YamlDoc where
  name : Option String
  baseline : Bool := false
  identity : RawMatch := {}
  application : Option String := none
  maxDuration : Option String := none
  egress : Option EgressSpec := none
  transport : Option String := none
  allow : List String := []
  deny : List String := []
  duration : Option String := none
  limits : RawLimits := {}
  tests : List RawTest := []
  deriving DecidableEq, Repr

/-- What is read by other crates, or through floating point. -/
structure Formats where
  toml : String → Except String RawPolicy
  yaml : String → Except String YamlDoc
  parseBytes : String → Except ParseUnitError UInt64
  parseBitrate : String → Except ParseUnitError UInt64

/-- A deny list comes first, so that it wins over the allow list. -/
def YamlDoc.intoRaw (doc : YamlDoc) : Except ParseError RawPolicy :=
  let application := doc.application.getD "*"
  let listed := fun (action : String) (destinations : List String) =>
    if destinations.isEmpty then ([] : List RawRule)
    else [⟨some (application ++ "-" ++ action), application, doc.transport, action, destinations⟩]
  -- `session.max_duration` and `limits.duration` are two names for one field.
  match doc.maxDuration, doc.duration with
  | some _, some _ => .error .durationSetTwice
  | fromSession, fromLimits => .ok
    { name := doc.name, baseline := doc.baseline, matchSpec := doc.identity,
      maxDuration := fromSession.or fromLimits, egress := doc.egress, limits := doc.limits,
      rules := listed "deny" doc.deny ++ listed "allow" doc.allow, tests := doc.tests }

def parseAction (field value : String) : Except ParseError Action :=
  match value with
  | "allow" => .ok .allow
  | "deny" => .ok .deny
  | other => .error (.badAction field other)

def parseTransportPattern (field : String) (value : Option String) :
    Except ParseError TransportPattern :=
  match value with
  | none => .ok .any
  | some "any" => .ok .any
  | some "tcp" => .ok .tcp
  | some "udp" => .ok .udp
  | some other => .error (.badTransport field other)

def parseField {α : Type} (field : String) (value : Option String)
    (parser : String → Except ParseUnitError α) :
    Except ParseError (Option α) :=
  match value with
  | none => .ok none
  | some text =>
    match parser text with
    | .ok parsed => .ok (some parsed)
    | .error source => .error (.unit field source)

def RawRule.intoRule (raw : RawRule) (index : Nat) : Except ParseError Rule := do
  if raw.destinations.isEmpty then
    throw (.emptyRule index)
  let action ← parseAction ("rule " ++ toString index ++ " action") raw.action
  let transport ← parseTransportPattern ("rule " ++ toString index ++ " transport") raw.transport
  let application := if raw.application = "*" then .any else .name raw.application
  let destinations ← match raw.destinations.mapM DestinationSpec.parse with
    | .ok parsed => .ok parsed
    | .error source => .error (.destination index source)
  return ⟨raw.id, application, transport, action, destinations⟩

/-- A test names one transport or none; `any` is refused. -/
def parseTestTransport (value : Option String) : Except ParseError (Option Transport) :=
  match value with
  | none => .ok none
  | some word =>
    match parseTransportPattern "test transport" (some word) with
    | .error error => .error error
    | .ok .any => .error (.badTransport "test transport" word)
    | .ok .tcp => .ok (some .tcp)
    | .ok .udp => .ok (some .udp)

def RawTest.intoTest (raw : RawTest) : Except ParseError PolicyTest := do
  let expect ← parseAction "test expect" raw.expect
  let transport ← parseTestTransport raw.transport
  return ⟨raw.application, raw.destination, transport, expect, raw.description⟩

def parseKind (value : Option String) : Except ParseError (Option WorkloadKind) :=
  match value with
  | none => .ok none
  | some text =>
    match WorkloadKind.parse text with
    | some kind => .ok (some kind)
    | none => .error (.badKind text)

variable (formats : Formats)

def RawPolicy.intoPolicy (raw : RawPolicy) : Except ParseError Policy := do
  let name ← match raw.name.filter (fun name => !Text.isEmpty name) with
    | some name => .ok name
    | none => .error .missingName
  let kind ← parseKind raw.matchSpec.kind
  let maxDuration ← parseField "session.max_duration" raw.maxDuration parseDuration
  let bandwidth ← parseField "limits.bandwidth" raw.limits.bandwidth formats.parseBitrate
  let totalBytes ← parseField "limits.bytes" raw.limits.bytes formats.parseBytes
  let connectionRate ← parseField "limits.connection_rate" raw.limits.connectionRate parseRate
  let rules ← raw.rules.zipIdx.mapM fun entry => entry.1.intoRule entry.2
  let tests ← raw.tests.mapM RawTest.intoTest
  -- The rules are parsed first, so an allow rule in a baseline is reported by its position.
  if raw.baseline then
    if let some index := rules.findIdx? (fun rule => rule.action == .allow) then
      throw (.baselineAllows index)
  return {
    name
    matchSpec := ⟨raw.matchSpec.organization, raw.matchSpec.repository, raw.matchSpec.workflow, raw.matchSpec.gitRef,
      raw.matchSpec.branch, raw.matchSpec.environment, raw.matchSpec.actor, kind⟩
    session := ⟨maxDuration⟩
    egress := raw.egress
    limits := ⟨bandwidth, totalBytes, raw.limits.connections, raw.limits.concurrentDestinations, connectionRate,
      raw.limits.packetsPerSecond⟩
    rules
    tests
    baseline := raw.baseline }

def Policy.fromToml (input : String) : Except ParseError Policy :=
  match formats.toml input with
  | .ok raw => raw.intoPolicy formats
  | .error message => .error (.toml message)

def Policy.fromYaml (input : String) : Except ParseError Policy :=
  match formats.yaml input with
  | .ok doc => do (← doc.intoRaw).intoPolicy formats
  | .error message => .error (.yaml message)

/-- The format is inferred from the name, and anything but YAML is TOML. -/
def isYamlName (sourceName : String) : Bool :=
  let lower := Text.toAsciiLowercase sourceName
  Text.endsWith lower ".yaml" || Text.endsWith lower ".yml"

def Policy.fromNamedDocument (sourceName input : String) : Except ParseError Policy :=
  if isYamlName sourceName then Policy.fromYaml formats input else Policy.fromToml formats input

structure PolicyDocument where
  name : String
  text : String
  deriving DecidableEq, Repr

inductive SetError where
  | parse (sourceName : String) (source : ParseError)
  | duplicateName (name first second : String)
  deriving DecidableEq, Repr

/-- Parse a document and add it to those before it. -/
def addDocument (policies : List (String × Policy)) (document : PolicyDocument) :
    Except SetError (List (String × Policy)) :=
  match Policy.fromNamedDocument formats document.name document.text with
  | .error source => .error (.parse document.name source)
  | .ok policy =>
    match policies.find? (fun entry => entry.2.name == policy.name) with
    | some existing => .error (.duplicateName policy.name existing.1 document.name)
    | none => .ok (policies ++ [(document.name, policy)])

def PolicySet.fromDocuments (documents : List PolicyDocument) : Except SetError PolicySet :=
  (documents.foldlM (addDocument formats) []).map fun policies => ⟨policies.map Prod.snd⟩

/-! ## What an accepted document is -/

/-- The rule that a raw one is read as. -/
structure RawRule.Reads (raw : RawRule) (index : Nat) (rule : Rule) : Prop where
  destinations : raw.destinations ≠ []
  action : parseAction ("rule " ++ toString index ++ " action") raw.action = .ok rule.action
  transport : parseTransportPattern ("rule " ++ toString index ++ " transport") raw.transport = .ok rule.transport
  application : rule.application = if raw.application = "*" then .any else .name raw.application
  specs : List.Forall₂ (fun text spec => DestinationSpec.parse text = .ok spec) raw.destinations rule.destinations
  id : rule.id = raw.id

theorem RawRule.intoRule_eq_ok_iff {raw : RawRule} {index : Nat} {rule : Rule} :
    raw.intoRule index = .ok rule ↔ raw.Reads index rule := by
  unfold RawRule.intoRule
  by_cases empty : raw.destinations = []
  · simp only [empty, List.isEmpty_nil, if_true]
    constructor
    · intro ok
      cases ok
    · intro reads
      exact absurd empty reads.destinations
  · have listed : raw.destinations.isEmpty = false := by simpa using empty
    simp only [listed, Bool.false_eq_true, if_false, Result.bind_eq_ok_iff]
    constructor
    · rintro ⟨action, readAction, transport, readTransport, rest⟩
      cases read : raw.destinations.mapM DestinationSpec.parse with
      | error source =>
        rw [read] at rest
        cases rest
      | ok specs =>
        rw [read] at rest
        cases rest
        exact ⟨empty, readAction, readTransport, rfl, Result.mapM_eq_ok_iff.mp read, rfl⟩
    · intro reads
      refine ⟨rule.action, reads.action, rule.transport, reads.transport, ?_⟩
      rw [Result.mapM_eq_ok_iff.mpr reads.specs, ← reads.application, ← reads.id]
      rfl

/-- The policy that a raw one is read as. -/
structure RawPolicy.Reads (formats : Formats) (raw : RawPolicy) (policy : Policy) : Prop where
  named : raw.name.filter (fun name => !Text.isEmpty name) = some policy.name
  matchSpec : ∃ kind, parseKind raw.matchSpec.kind = .ok kind ∧
    policy.matchSpec = ⟨raw.matchSpec.organization, raw.matchSpec.repository, raw.matchSpec.workflow,
      raw.matchSpec.gitRef, raw.matchSpec.branch, raw.matchSpec.environment, raw.matchSpec.actor, kind⟩
  session : parseField "session.max_duration" raw.maxDuration parseDuration = .ok policy.session.maxDuration
  egress : policy.egress = raw.egress
  bandwidth : parseField "limits.bandwidth" raw.limits.bandwidth formats.parseBitrate =
    .ok policy.limits.bandwidthBitsPerSec
  totalBytes : parseField "limits.bytes" raw.limits.bytes formats.parseBytes = .ok policy.limits.totalBytes
  connections : policy.limits.concurrentConnections = raw.limits.connections
  concurrentDestinations : policy.limits.concurrentDestinations = raw.limits.concurrentDestinations
  connectionRate : parseField "limits.connection_rate" raw.limits.connectionRate parseRate =
    .ok policy.limits.connectionRate
  packets : policy.limits.packetsPerSec = raw.limits.packetsPerSecond
  rules : List.Forall₂ (fun entry rule => entry.1.Reads entry.2 rule) raw.rules.zipIdx policy.rules
  tests : List.Forall₂ (fun test read => test.intoTest = .ok read) raw.tests policy.tests
  baseline : policy.baseline = raw.baseline
  denies : raw.baseline = true → ∀ rule ∈ policy.rules, rule.action = .deny

theorem findIdx_allow_eq_none_iff {rules : List Rule} :
    rules.findIdx? (fun rule => rule.action == .allow) = none ↔ ∀ rule ∈ rules, rule.action = .deny := by
  rw [List.findIdx?_eq_none_iff]
  refine forall₂_congr fun rule _ => ?_
  cases rule.action with
  | allow => decide
  | deny => decide

theorem RawPolicy.intoPolicy_eq_ok_iff {formats : Formats} {raw : RawPolicy} {policy : Policy} :
    raw.intoPolicy formats = .ok policy ↔ raw.Reads formats policy := by
  unfold RawPolicy.intoPolicy
  cases named : raw.name.filter (fun name => !Text.isEmpty name) with
  | none =>
    constructor
    · intro ok
      cases ok
    · intro reads
      cases named.symm.trans reads.named
  | some name =>
    simp only [Result.bind_eq_ok_iff, Except.ok.injEq, exists_eq_left', Result.mapM_eq_ok_iff,
      RawRule.intoRule_eq_ok_iff]
    constructor
    · rintro ⟨kind, readKind, duration, readDuration, bandwidth, readBandwidth, bytes, readBytes, rate, readRate,
        rules, readRules, tests, readTests, rest⟩
      by_cases guard : raw.baseline = true
      · cases allows : rules.findIdx? (fun rule => rule.action == .allow) with
        | some index =>
          rw [if_pos guard, allows] at rest
          cases rest
        | none =>
          rw [if_pos guard, allows] at rest
          cases rest
          exact ⟨named, ⟨kind, readKind, rfl⟩, readDuration, rfl, readBandwidth, readBytes, rfl, rfl, readRate, rfl,
            readRules, readTests, rfl, fun _ => findIdx_allow_eq_none_iff.mp allows⟩
      · rw [if_neg guard] at rest
        cases rest
        exact ⟨named, ⟨kind, readKind, rfl⟩, readDuration, rfl, readBandwidth, readBytes, rfl, rfl, readRate, rfl,
          readRules, readTests, rfl, fun isGuard => absurd isGuard guard⟩
    · intro reads
      obtain ⟨kind, readKind, spec⟩ := reads.matchSpec
      refine ⟨kind, readKind, _, reads.session, _, reads.bandwidth, _, reads.totalBytes, _, reads.connectionRate,
        policy.rules, reads.rules, policy.tests, reads.tests, ?_⟩
      have same : name = policy.name := Option.some.inj (named.symm.trans reads.named)
      have whole : policy = ⟨name,
          ⟨raw.matchSpec.organization, raw.matchSpec.repository, raw.matchSpec.workflow, raw.matchSpec.gitRef,
            raw.matchSpec.branch, raw.matchSpec.environment, raw.matchSpec.actor, kind⟩,
          ⟨policy.session.maxDuration⟩, raw.egress,
          ⟨policy.limits.bandwidthBitsPerSec, policy.limits.totalBytes, raw.limits.connections,
            raw.limits.concurrentDestinations, policy.limits.connectionRate, raw.limits.packetsPerSecond⟩,
          policy.rules, policy.tests, raw.baseline⟩ := by
        rw [same, ← spec, ← reads.egress, ← reads.connections, ← reads.concurrentDestinations, ← reads.packets,
          ← reads.baseline]
      by_cases guard : raw.baseline = true
      · rw [if_pos guard, findIdx_allow_eq_none_iff.mpr (reads.denies guard)]
        exact congrArg Except.ok whole.symm
      · rw [if_neg guard]
        exact congrArg Except.ok whole.symm

theorem Policy.fromToml_eq_ok_iff {formats : Formats} {input : String} {policy : Policy} :
    Policy.fromToml formats input = .ok policy ↔ ∃ raw, formats.toml input = .ok raw ∧ raw.Reads formats policy := by
  unfold Policy.fromToml
  cases formats.toml input with
  | error message => simp
  | ok raw => simp [RawPolicy.intoPolicy_eq_ok_iff]

theorem Policy.fromYaml_eq_ok_iff {formats : Formats} {input : String} {policy : Policy} :
    Policy.fromYaml formats input = .ok policy ↔
      ∃ doc raw, formats.yaml input = .ok doc ∧ doc.intoRaw = .ok raw ∧ raw.Reads formats policy := by
  unfold Policy.fromYaml
  cases formats.yaml input with
  | error message => simp
  | ok doc => simp [Result.bind_eq_ok_iff, RawPolicy.intoPolicy_eq_ok_iff]

/-- Each document is read, by its own name, as the policy at its place. -/
def ReadAs (documents : List PolicyDocument) (policies : List Policy) : Prop :=
  List.Forall₂ (fun document policy => Policy.fromNamedDocument formats document.name document.text = .ok policy)
    documents policies

/-- The policy a document holds by its own name; of no use where it holds none. -/
def policyOf (document : PolicyDocument) : Policy :=
  match Policy.fromNamedDocument formats document.name document.text with
  | .ok policy => policy
  | .error _ => { name := "" }

def Reads (document : PolicyDocument) : Prop :=
  Policy.fromNamedDocument formats document.name document.text = .ok (policyOf formats document)

variable {formats}

theorem reads_of_ok {document : PolicyDocument} {policy : Policy}
    (read : Policy.fromNamedDocument formats document.name document.text = .ok policy) :
    Reads formats document ∧ policyOf formats document = policy := by
  have same : policyOf formats document = policy := by simp only [policyOf, read]
  exact ⟨by rw [Reads, read, same], same⟩

theorem readAs_iff {documents : List PolicyDocument} {policies : List Policy} :
    ReadAs formats documents policies ↔
      (∀ document ∈ documents, Reads formats document) ∧ policies = documents.map (policyOf formats) := by
  constructor
  · intro reads
    induction reads with
    | nil => exact ⟨by simp, rfl⟩
    | cons read _ ih =>
      obtain ⟨first, same⟩ := reads_of_ok read
      exact ⟨List.forall_mem_cons.mpr ⟨first, ih.1⟩, by rw [List.map_cons, same, ← ih.2]⟩
  · intro ⟨reads, same⟩
    subst same
    induction documents with
    | nil => exact .nil
    | cons document rest ih =>
      rw [List.forall_mem_cons] at reads
      exact .cons reads.1 (ih reads.2)

theorem addDocument_eq_ok_iff {policies after : List (String × Policy)} {document : PolicyDocument} :
    addDocument formats policies document = .ok after ↔
      ∃ policy, Policy.fromNamedDocument formats document.name document.text = .ok policy ∧
        policy.name ∉ policies.map (·.2.name) ∧ after = policies ++ [(document.name, policy)] := by
  unfold addDocument
  cases read : Policy.fromNamedDocument formats document.name document.text with
  | error source => simp
  | ok policy =>
    cases found : policies.find? (fun entry => entry.2.name == policy.name) with
    | some existing =>
      have taken := List.find?_some found
      have member := List.mem_of_find?_eq_some found
      simp only [found, reduceCtorEq, Except.ok.injEq, exists_eq_left', false_iff, not_and]
      intro fresh
      exact absurd (List.mem_map.mpr ⟨existing, member, by simpa using taken⟩) fresh
    | none =>
      have fresh : policy.name ∉ policies.map (·.2.name) := by
        intro taken
        obtain ⟨entry, member, same⟩ := List.mem_map.mp taken
        have := List.find?_eq_none.mp found entry member
        simp [same] at this
      simp only [found, Except.ok.injEq, exists_eq_left', fresh, not_false_eq_true, true_and]
      exact eq_comm

theorem foldlM_addDocument_eq_ok_iff {documents : List PolicyDocument}
    {before after : List (String × Policy)} :
    documents.foldlM (addDocument formats) before = .ok after ↔
      ∃ policies, ReadAs formats documents policies ∧
        (∀ p ∈ policies, p.name ∉ before.map (·.2.name)) ∧ (policies.map Policy.name).Nodup ∧
        after = before ++ (documents.map PolicyDocument.name).zip policies := by
  -- The names seen so far grow with every document, so the accumulator is generalized.
  induction documents generalizing before with
  | nil => simp [ReadAs, pure, Except.pure, eq_comm]
  | cons document rest ih =>
    simp only [List.foldlM_cons, Result.bind_eq_ok_iff, addDocument_eq_ok_iff, ih]
    constructor
    · intro ⟨_, ⟨policy, read, fresh, rfl⟩, policies, reads, others, distinct, result⟩
      simp only [List.map_append, List.map_cons, List.map_nil, List.mem_append, List.mem_singleton, not_or] at others
      refine ⟨policy :: policies, .cons read reads, ?_, ?_, by simp [result]⟩
      · intro p member
        rcases List.mem_cons.mp member with rfl | later
        · exact fresh
        · exact (others p later).1
      · simp only [List.map_cons, List.nodup_cons, List.mem_map, not_exists, not_and]
        exact ⟨fun p member same => (others p member).2 same, distinct⟩
    · intro ⟨all, reads, others, distinct, result⟩
      cases reads with
      | cons read reads =>
        rename_i policy policies
        simp only [List.map_cons, List.nodup_cons, List.mem_map, not_exists, not_and] at distinct
        refine ⟨_, ⟨policy, read, others policy (List.mem_cons_self ..), rfl⟩, policies, reads, ?_, distinct.2,
          by simp [result]⟩
        intro p member
        simp only [List.map_append, List.map_cons, List.map_nil, List.mem_append, List.mem_singleton, not_or]
        exact ⟨others p (List.mem_cons_of_mem _ member), fun same => distinct.1 p member same⟩

/-- A list of documents is accepted exactly when every one reads and no two policies share a name;
the set holds their policies in the order of the documents. -/
theorem PolicySet.fromDocuments_eq_ok_iff {documents : List PolicyDocument} {set : PolicySet} :
    PolicySet.fromDocuments formats documents = .ok set ↔
      (∀ document ∈ documents, Reads formats document) ∧ set.policies = documents.map (policyOf formats) ∧
        (set.policies.map Policy.name).Nodup := by
  unfold PolicySet.fromDocuments
  simp only [Result.map_eq_ok_iff, foldlM_addDocument_eq_ok_iff, List.map_nil, List.not_mem_nil, not_false_eq_true,
    implies_true, List.nil_append, true_and, readAs_iff, and_assoc]
  constructor
  · intro ⟨entries, ⟨policies, reads, map, distinct, zipped⟩, same⟩
    subst map zipped
    have second : ((documents.map PolicyDocument.name).zip (documents.map (policyOf formats))).map Prod.snd =
        documents.map (policyOf formats) := List.map_snd_zip (by simp)
    rw [← same, second]
    exact ⟨reads, rfl, distinct⟩
  · intro ⟨reads, same, distinct⟩
    refine ⟨_, ⟨set.policies, reads, same, distinct, rfl⟩, ?_⟩
    rw [List.map_snd_zip (by simp [same])]

end Skimasque.Engine
