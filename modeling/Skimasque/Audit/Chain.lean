import Skimasque.Gateway.Request
import Skimasque.Library.BigEndian
import Skimasque.Library.Encoding
import Skimasque.Library.HashChain

/-! The audit chain: what is hashed, how a batch of events is chained, and what the tail of a chain
says about it. -/

set_option autoImplicit false

namespace Skimasque.Audit
open Library Library.Encoding Gateway

structure Digest where
  bytes : List UInt8
  length : bytes.length = 32
  deriving DecidableEq

/-- What a gateway uses of other crates here: SHA-256, and `serde_json::to_string` of an event (empty
where that fails). -/
structure Runtime where
  sha256 : List UInt8 → Digest
  eventJson : AuditEvent → String

/-- The hash that the first event of a gateway names. -/
def auditGenesis : String := "0000000000000000000000000000000000000000000000000000000000000000"

structure AuditHead where
  seq : Nat
  hash : String
  deriving DecidableEq, Repr

def AuditHead.genesis : AuditHead := ⟨0, auditGenesis⟩

structure ChainedAuditEvent where
  seq : Nat
  prevHash : String
  eventJson : String
  deriving DecidableEq, Repr

structure PlatformAuditEvent where
  orgId : String
  seq : Nat
  prevHash : String
  eventJson : String
  deriving DecidableEq, Repr

/-- What a link is hashed from. The number is a `u64`. -/
def auditInput (seq : Nat) (prevHash eventJson : String) : List UInt8 :=
  BigEndian.put 8 seq ++ utf8 prevHash ++ utf8 eventJson

section
variable (runtime : Runtime)

def auditHash (seq : Nat) (prevHash eventJson : String) : String :=
  hex (runtime.sha256 (auditInput seq prevHash eventJson)).bytes

/-- `make` builds the event that is sent, or skips it, which takes no number. -/
def chainWith {T : Type} (make : AuditEvent → Nat → String → String → Option T) (firstSeq : Nat) (prevHash : String) :
    List AuditEvent → List T × String
  | [] => ([], prevHash)
  | event :: rest =>
    let eventJson := runtime.eventJson event
    let this := auditHash runtime firstSeq prevHash eventJson
    match make event firstSeq prevHash eventJson with
    | some item =>
      let (batch, tail) := chainWith make (firstSeq + 1) this rest
      (item :: batch, tail)
    | none => chainWith make firstSeq prevHash rest

/-- The `make` of `chain_batch`. -/
def makeChained (_ : AuditEvent) (seq : Nat) (prevHash eventJson : String) : Option ChainedAuditEvent :=
  some ⟨seq, prevHash, eventJson⟩

/-- The `make` of `chain_platform_batch`: an event is sent under the organisation it names. -/
def makePlatform (event : AuditEvent) (seq : Nat) (prevHash eventJson : String) : Option PlatformAuditEvent :=
  event.orgId.map fun orgId => ⟨orgId, seq, prevHash, eventJson⟩

def chainBatch (events : List AuditEvent) (firstSeq : Nat) (prevHash : String) : List ChainedAuditEvent × String :=
  chainWith runtime makeChained firstSeq prevHash events

def chainPlatformBatch (events : List AuditEvent) (firstSeq : Nat) (prevHash : String) :
    List PlatformAuditEvent × String :=
  chainWith runtime makePlatform firstSeq prevHash events

end

/-! ## Batches are pieces of one chain -/

/-- What is sent for an event, for either kind of gateway: the link as the control plane reads it, and
which events have one. -/
structure Wire (T : Type) where
  make : AuditEvent → Nat → String → String → Option T
  view : T → ChainedAuditEvent
  admits : AuditEvent → Bool
  made : ∀ event seq prevHash eventJson,
    (make event seq prevHash eventJson).map view = if admits event then some ⟨seq, prevHash, eventJson⟩ else none

def chainedWire : Wire ChainedAuditEvent where
  make := makeChained
  view item := item
  admits _ := true
  made _ _ _ _ := rfl

def platformWire : Wire PlatformAuditEvent where
  make := makePlatform
  view item := ⟨item.seq, item.prevHash, item.eventJson⟩
  admits event := event.orgId.isSome
  made event _ _ _ := by cases named : event.orgId <;> simp [makePlatform, named]

def ChainedAuditEvent.link (item : ChainedAuditEvent) : HashChain.Link String String :=
  ⟨item.seq, item.prevHash, item.eventJson⟩

def linkHash (runtime : Runtime) (link : HashChain.Link String String) : String :=
  auditHash runtime link.seq link.prev link.body

theorem linkHash_link (runtime : Runtime) (item : ChainedAuditEvent) :
    linkHash runtime item.link = auditHash runtime item.seq item.prevHash item.eventJson := rfl

section
variable {runtime : Runtime} {T : Type} {wire : Wire T}

theorem Wire.make_cases (wire : Wire T) (event : AuditEvent) (seq : Nat) (prevHash eventJson : String) :
    (wire.admits event = true ∧ ∃ item, wire.make event seq prevHash eventJson = some item ∧
      wire.view item = ⟨seq, prevHash, eventJson⟩) ∨
    (wire.admits event = false ∧ wire.make event seq prevHash eventJson = none) := by
  have made := wire.made event seq prevHash eventJson
  cases admitted : wire.admits event with
  | true =>
    rw [if_pos admitted, Option.map_eq_some_iff] at made
    exact .inl ⟨rfl, made⟩
  | false =>
    rw [admitted, if_neg Bool.false_ne_true, Option.map_eq_none_iff] at made
    exact .inr ⟨rfl, made⟩

/-- The texts of the events that are sent. -/
def Wire.texts (wire : Wire T) (runtime : Runtime) (events : List AuditEvent) : List String :=
  (events.filter wire.admits).map runtime.eventJson

section
variable {make : AuditEvent → Nat → String → String → Option T} {event : AuditEvent} {seq : Nat} {prevHash : String}

theorem chainWith_cons_of_some {item : T} (made : make event seq prevHash (runtime.eventJson event) = some item)
    (rest : List AuditEvent) :
    chainWith runtime make seq prevHash (event :: rest) =
      (item :: (chainWith runtime make (seq + 1) (auditHash runtime seq prevHash (runtime.eventJson event)) rest).1,
        (chainWith runtime make (seq + 1) (auditHash runtime seq prevHash (runtime.eventJson event)) rest).2) := by
  rw [chainWith]
  simp only [made]

theorem chainWith_cons_of_none (skipped : make event seq prevHash (runtime.eventJson event) = none)
    (rest : List AuditEvent) :
    chainWith runtime make seq prevHash (event :: rest) = chainWith runtime make seq prevHash rest := by
  rw [chainWith]
  simp only [skipped]

end

/-- A batch is the hash chain of the texts of its events. -/
theorem chainWith_eq (wire : Wire T) (runtime : Runtime) (events : List AuditEvent) (seq : Nat) (prevHash : String) :
    (chainWith runtime wire.make seq prevHash events).1.map (fun item => (wire.view item).link) =
        HashChain.links (linkHash runtime) seq prevHash (wire.texts runtime events) ∧
      (chainWith runtime wire.make seq prevHash events).2 =
        HashChain.tail (linkHash runtime) seq prevHash (wire.texts runtime events) := by
  induction events generalizing seq prevHash with
  | nil => exact ⟨rfl, rfl⟩
  | cons event rest ih =>
    unfold Wire.texts
    obtain ⟨admitted, item, made, viewed⟩ | ⟨skipped, made⟩ :=
      wire.make_cases event seq prevHash (runtime.eventJson event)
    · have later := ih (seq + 1) (auditHash runtime seq prevHash (runtime.eventJson event))
      rw [chainWith_cons_of_some made, List.filter_cons_of_pos admitted, List.map_cons, List.map_cons, viewed, later.1]
      exact ⟨rfl, later.2⟩
    · rw [chainWith_cons_of_none made, List.filter_cons_of_neg (by rw [skipped]; exact Bool.false_ne_true)]
      exact ih seq prevHash

theorem length_chainWith (wire : Wire T) (runtime : Runtime) (events : List AuditEvent) (seq : Nat)
    (prevHash : String) :
    (chainWith runtime wire.make seq prevHash events).1.length = (wire.texts runtime events).length := by
  have lengths := congrArg List.length (chainWith_eq wire runtime events seq prevHash).1
  rwa [List.length_map, HashChain.length_links] at lengths

/-- Two batches one after the other are the batch of all their events. -/
theorem chainWith_append (make : AuditEvent → Nat → String → String → Option T) (first second : List AuditEvent)
    (seq : Nat) (prevHash : String) :
    chainWith runtime make seq prevHash (first ++ second) =
      ((chainWith runtime make seq prevHash first).1 ++
        (chainWith runtime make (seq + (chainWith runtime make seq prevHash first).1.length)
          (chainWith runtime make seq prevHash first).2 second).1,
      (chainWith runtime make (seq + (chainWith runtime make seq prevHash first).1.length)
        (chainWith runtime make seq prevHash first).2 second).2) := by
  induction first generalizing seq prevHash with
  | nil => rfl
  | cons event rest ih =>
    rw [List.cons_append]
    cases made : make event seq prevHash (runtime.eventJson event) with
    | none =>
      rw [chainWith_cons_of_none made, chainWith_cons_of_none made]
      exact ih seq prevHash
    | some item =>
      rw [chainWith_cons_of_some made, chainWith_cons_of_some made, ih]
      simp only [List.length_cons, Nat.add_assoc, Nat.add_comm 1, List.cons_append]

end

/-- Items numbered without a gap, each naming the hash of the one before it. -/
structure Linked (runtime : Runtime) (seq : Nat) (prevHash : String) (items : List ChainedAuditEvent)
    (tail : String) : Prop where
  numbered : ∀ place item, items[place]? = some item → item.seq = seq + place
  first : ∀ item, items[0]? = some item → item.prevHash = prevHash
  linked : ∀ place item next, items[place]? = some item → items[place + 1]? = some next →
    next.prevHash = auditHash runtime item.seq item.prevHash item.eventJson
  last : ∀ item, items.getLast? = some item → tail = auditHash runtime item.seq item.prevHash item.eventJson
  empty : items = [] → tail = prevHash

theorem linked_of_links {runtime : Runtime} {seq : Nat} {prevHash tail : String} {items : List ChainedAuditEvent}
    {texts : List String} (links : items.map (·.link) = HashChain.links (linkHash runtime) seq prevHash texts)
    (ends : tail = HashChain.tail (linkHash runtime) seq prevHash texts) : Linked runtime seq prevHash items tail := by
  have placed {place : Nat} {item : ChainedAuditEvent} (found : items[place]? = some item) :
      (HashChain.links (linkHash runtime) seq prevHash texts)[place]? = some item.link := by
    rw [← links, List.getElem?_map, found, Option.map_some]
  refine ⟨fun place item found => ?_, fun item found => ?_, fun place item next found after => ?_,
    fun item found => ?_, fun empty => ?_⟩
  · have there := placed found
    rw [HashChain.getElem?_links] at there
    obtain ⟨body, -, same⟩ := Option.map_eq_some_iff.mp there
    exact (congrArg HashChain.Link.seq same).symm
  · have there := placed found
    rw [HashChain.getElem?_links] at there
    obtain ⟨body, -, same⟩ := Option.map_eq_some_iff.mp there
    exact (congrArg HashChain.Link.prev same).symm
  · rw [← linkHash_link]
    exact HashChain.prev_of_succ (placed found) (placed after)
  · rw [ends, ← linkHash_link]
    have there : (HashChain.links (linkHash runtime) seq prevHash texts).getLast? = some item.link := by
      rw [← links, List.getLast?_map, found, Option.map_some]
    exact HashChain.tail_of_getLast? there
  · have none := congrArg List.length links
    rw [empty, List.map_nil, List.length_nil, HashChain.length_links] at none
    rw [ends, List.eq_nil_of_length_eq_zero none.symm]
    rfl

theorem linked_chainWith {T : Type} (wire : Wire T) (runtime : Runtime) (events : List AuditEvent) (seq : Nat)
    (prevHash : String) :
    Linked runtime seq prevHash ((chainWith runtime wire.make seq prevHash events).1.map wire.view)
      (chainWith runtime wire.make seq prevHash events).2 := by
  have chained := chainWith_eq wire runtime events seq prevHash
  exact linked_of_links (by rw [List.map_map]; exact chained.1) chained.2

/-- An event that is skipped might as well not have been there. -/
theorem chainWith_filter {T : Type} (wire : Wire T) (runtime : Runtime) (events : List AuditEvent) (seq : Nat)
    (prevHash : String) :
    chainWith runtime wire.make seq prevHash (events.filter wire.admits) =
      chainWith runtime wire.make seq prevHash events := by
  induction events generalizing seq prevHash with
  | nil => rfl
  | cons event rest ih =>
    obtain ⟨admitted, item, made, -⟩ | ⟨skipped, made⟩ :=
      wire.make_cases event seq prevHash (runtime.eventJson event)
    · rw [List.filter_cons_of_pos admitted, chainWith_cons_of_some made, chainWith_cons_of_some made, ih]
    · rw [List.filter_cons_of_neg (by rw [skipped]; exact Bool.false_ne_true), chainWith_cons_of_none made, ih]

/-! ## Tampering -/

/-- The text of a digest. Every hash of a chain that starts from the genesis hash is one. -/
def IsHash (hash : String) : Prop := ∃ bytes : List UInt8, bytes.length = 32 ∧ hash = hex bytes

theorem auditGenesis_eq : auditGenesis = hex (List.replicate 32 0) := by decide +kernel

theorem isHash_genesis : IsHash auditGenesis := ⟨_, rfl, auditGenesis_eq⟩

theorem isHash_linkHash (runtime : Runtime) (link : HashChain.Link String String) : IsHash (linkHash runtime link) :=
  ⟨_, (runtime.sha256 _).length, rfl⟩

section
variable {runtime : Runtime} {seq : Nat} {prevHash : String} {texts : List String}

theorem isHash_tail (started : IsHash prevHash) : IsHash (HashChain.tail (linkHash runtime) seq prevHash texts) := by
  cases texts using List.reverseRecOn with
  | nil => exact started
  | append_singleton texts last =>
    rw [HashChain.tail_concat]
    exact isHash_linkHash ..

theorem isHash_prev (started : IsHash prevHash) {link : HashChain.Link String String}
    (member : link ∈ HashChain.links (linkHash runtime) seq prevHash texts) : IsHash link.prev := by
  obtain ⟨place, found⟩ := List.mem_iff_getElem?.mp member
  rw [HashChain.getElem?_links] at found
  obtain ⟨body, -, rfl⟩ := Option.map_eq_some_iff.mp found
  exact isHash_tail started

theorem utf8_length_of_isHash {hash : String} (made : IsHash hash) : (utf8 hash).length = 64 := by
  obtain ⟨bytes, length, rfl⟩ := made
  rw [utf8_hex_length, length]

/-- The parts of an input have no delimiters, and need none: the first two are of fixed length. -/
theorem auditInput_inj {other : Nat} {prev otherPrev text otherText : String} (made : IsHash prev)
    (otherMade : IsHash otherPrev) (same : auditInput seq prev text = auditInput other otherPrev otherText) :
    BigEndian.put 8 seq = BigEndian.put 8 other ∧ prev = otherPrev ∧ text = otherText := by
  unfold auditInput at same
  rw [List.append_assoc, List.append_assoc] at same
  obtain ⟨numbers, rest⟩ := List.append_inj same (by rw [BigEndian.put_length, BigEndian.put_length])
  obtain ⟨prevs, bodies⟩ := List.append_inj rest (by rw [utf8_length_of_isHash made, utf8_length_of_isHash otherMade])
  exact ⟨numbers, utf8_injective prevs, utf8_injective bodies⟩

theorem put_inj {value other : Nat} (small : value < 2 ^ 64) (otherSmall : other < 2 ^ 64)
    (same : BigEndian.put 8 value = BigEndian.put 8 other) : value = other := by
  have values := congrArg (BigEndian.shiftIn 0) same
  rw [BigEndian.shiftIn_put, BigEndian.shiftIn_put] at values
  omega

end

section
variable (runtime : Runtime)

/-- The links of the events with these texts, chained from the genesis hash. -/
def auditLinks (texts : List String) : List (HashChain.Link String String) :=
  HashChain.links (linkHash runtime) 1 auditGenesis texts

def auditTail (texts : List String) : String := HashChain.tail (linkHash runtime) 1 auditGenesis texts

def linkInput (link : HashChain.Link String String) : List UInt8 := auditInput link.seq link.prev link.body

/-- No two of the inputs have one digest. -/
def CollisionFree (inputs : List (List UInt8)) : Prop :=
  ∀ input ∈ inputs, ∀ other ∈ inputs, runtime.sha256 input = runtime.sha256 other → input = other

variable {runtime} {first second : List String}

theorem input_eq_of_linkHash_eq {inputs : List (HashChain.Link String String)}
    (free : CollisionFree runtime (inputs.map linkInput)) {link other : HashChain.Link String String}
    (member : link ∈ inputs) (otherMember : other ∈ inputs) (same : linkHash runtime link = linkHash runtime other) :
    linkInput link = linkInput other := by
  refine free _ (List.mem_map_of_mem member) _ (List.mem_map_of_mem otherMember) ?_
  have bytes : (runtime.sha256 (linkInput link)).bytes = (runtime.sha256 (linkInput other)).bytes := hex_injective same
  cases digest : runtime.sha256 (linkInput link)
  cases otherDigest : runtime.sha256 (linkInput other)
  simpa [digest, otherDigest] using bytes

theorem isHash_prev_of_mem {link : HashChain.Link String String}
    (member : link ∈ auditLinks runtime first ++ auditLinks runtime second) : IsHash link.prev := by
  cases List.mem_append.mp member with
  | inl here => exact isHash_prev isHash_genesis here
  | inr there => exact isHash_prev isHash_genesis there

theorem determines_of_collisionFree
    (free : CollisionFree runtime ((auditLinks runtime first ++ auditLinks runtime second).map linkInput)) :
    HashChain.Determines (linkHash runtime) (auditLinks runtime first ++ auditLinks runtime second) := by
  intro link member other otherMember same
  have inputs := input_eq_of_linkHash_eq free member otherMember same
  exact (auditInput_inj (isHash_prev_of_mem member) (isHash_prev_of_mem otherMember) inputs).2

/-- The last links of chains of different lengths have different numbers in them. -/
theorem length_eq_of_auditTail_eq
    (free : CollisionFree runtime ((auditLinks runtime first ++ auditLinks runtime second).map linkInput))
    (some : first ≠ []) (otherSome : second ≠ []) (fits : first.length < 2 ^ 64) (otherFits : second.length < 2 ^ 64)
    (same : auditTail runtime first = auditTail runtime second) : first.length = second.length := by
  cases first using List.reverseRecOn with
  | nil => exact absurd rfl some
  | append_singleton first last =>
    cases second using List.reverseRecOn with
    | nil => exact absurd rfl otherSome
    | append_singleton second other =>
      unfold auditTail at same
      unfold auditLinks at free
      rw [HashChain.tail_concat, HashChain.tail_concat] at same
      have inputs := input_eq_of_linkHash_eq free (by simp [HashChain.links_concat])
        (by simp [HashChain.links_concat]) same
      have numbers := (auditInput_inj (isHash_tail isHash_genesis) (isHash_tail isHash_genesis) inputs).1
      rw [List.length_append, List.length_singleton] at fits otherFits ⊢
      rw [List.length_append, List.length_singleton]
      dsimp only at numbers
      have lengths := put_inj (by omega) (by omega) numbers
      omega

/-- With no two inputs of the two chains under one digest, the tail tells one chain of events from
another: of the same length, of different lengths where there are events, and, as long as the genesis
hash is no digest of an input, of any lengths. And where in an input the hash ends is never in doubt. -/
theorem audit_tail_commits
    (free : CollisionFree runtime ((auditLinks runtime first ++ auditLinks runtime second).map linkInput)) :
    (first.length = second.length → auditTail runtime first = auditTail runtime second → first = second) ∧
    (first.length ≠ second.length → first ≠ [] → second ≠ [] → first.length < 2 ^ 64 → second.length < 2 ^ 64 →
      auditTail runtime first ≠ auditTail runtime second) ∧
    ((∀ input ∈ (auditLinks runtime first ++ auditLinks runtime second).map linkInput,
        hex (runtime.sha256 input).bytes ≠ auditGenesis) →
      first.length ≠ second.length → auditTail runtime first ≠ auditTail runtime second) ∧
    (∀ link ∈ auditLinks runtime first, ∀ other ∈ auditLinks runtime second,
      linkInput link = linkInput other → link.prev = other.prev ∧ link.body = other.body) ∧
    ∀ (T : Type) (wire : Wire T) (events : List AuditEvent),
      (chainWith runtime wire.make 1 auditGenesis events).2 = auditTail runtime (wire.texts runtime events) := by
  have determines := determines_of_collisionFree free
  refine ⟨fun lengths same => HashChain.eq_of_tail_eq determines lengths same, ?_, ?_, ?_, ?_⟩
  · intro lengths some otherSome fits otherFits same
    exact lengths (length_eq_of_auditTail_eq free some otherSome fits otherFits same)
  · intro fresh lengths same
    refine lengths (HashChain.length_eq_of_tail_eq determines ?_ same)
    intro link member
    exact fresh _ (List.mem_map_of_mem member)
  · intro link member other otherMember same
    exact (auditInput_inj (isHash_prev isHash_genesis member) (isHash_prev isHash_genesis otherMember) same).2
  · intro T wire events
    exact (chainWith_eq wire runtime events 1 auditGenesis).2

end

/-! Two events as the gateway writes them, and their hashes at the start of a chain. -/

def sampleEvent (decision : String) (orgId : Option String) : AuditEvent :=
  { decision, protocol := "connect-tcp", application := "terraform", destination := "db:5432",
    client := "10.0.0.1:5000", identity := {}, orgId }

def jsonFront : String := "\x7b\"timestamp\":\"2026-03-01T00:00:00.000Z\",\"decision\":\""

def jsonBack : String := "\",\"protocol\":\"connect-tcp\",\"application\":\"terraform\"," ++
  "\"destination\":\"db:5432\",\"client\":\"10.0.0.1:5000\",\"identity\":\x7b\x7d"

/-- The events below differ in the decision and the organisation only. -/
def sampleJson (event : AuditEvent) : String :=
  jsonFront ++ event.decision ++ jsonBack ++
    (event.orgId.elim "" fun orgId => ",\"org_id\":\"" ++ orgId ++ "\"") ++ "\x7d"

def digest (value : Nat) : Digest := ⟨BigEndian.put 32 value, BigEndian.put_length 32 value⟩

def allowJson : String := sampleJson (sampleEvent "allow" none)

def denyJson : String := sampleJson (sampleEvent "deny" none)

def allowDigest : Digest := digest 0x9d8a50568ac61c63f33b3daee4e468597a869d47881afda417850747286d6c9e

def denyDigest : Digest := digest 0xa7efe03534fb5791f5d3637a25531e4945e5eba4e1b2bdf9d7efd76b7cd044a1

def againDigest : Digest := digest 0x9de7448b3ed5511b66a7d5ad45ed664cc45463a035d2a2f1e54229d09f0d63ea

/-- With the SHA-256 of the one event, of the other in its place, and of the first event once more after itself. -/
def sampleRuntime : Runtime where
  sha256 input :=
    if input = auditInput 1 auditGenesis allowJson then allowDigest
    else if input = auditInput 1 auditGenesis denyJson then denyDigest
    else if input = auditInput 2 (hex allowDigest.bytes) allowJson then againDigest
    else digest 0
  eventJson := sampleJson

theorem allowJson_ne_denyJson : allowJson ≠ denyJson := by
  intro same
  have lengths := congrArg String.length same
  simp only [allowJson, denyJson, sampleJson, sampleEvent, String.length_append, Nat.add_right_cancel_iff,
    Nat.add_left_cancel_iff] at lengths
  exact absurd lengths (by decide)

theorem sha256_allow : sampleRuntime.sha256 (auditInput 1 auditGenesis allowJson) = allowDigest := by
  simp only [sampleRuntime, if_true]

theorem sha256_deny : sampleRuntime.sha256 (auditInput 1 auditGenesis denyJson) = denyDigest := by
  have differs : auditInput 1 auditGenesis denyJson ≠ auditInput 1 auditGenesis allowJson := fun same =>
    allowJson_ne_denyJson (auditInput_inj isHash_genesis isHash_genesis same).2.2.symm
  simp only [sampleRuntime, differs, if_false, if_true]

theorem sha256_again :
    sampleRuntime.sha256 (auditInput 2 (hex allowDigest.bytes) allowJson) = againDigest := by
  have differs (text : String) : auditInput 2 (hex allowDigest.bytes) allowJson ≠ auditInput 1 auditGenesis text :=
    fun same => absurd (auditInput_inj ⟨_, allowDigest.length, rfl⟩ isHash_genesis same).1 (by decide)
  simp only [sampleRuntime, differs, if_false, if_true]

theorem three_chains_have_three_tails :
    auditTail sampleRuntime [allowJson] ≠ auditTail sampleRuntime [denyJson] ∧
      auditTail sampleRuntime [allowJson] ≠ auditTail sampleRuntime [allowJson, allowJson] ∧
      auditTail sampleRuntime [] ≠ auditTail sampleRuntime [allowJson] := by
  have first (text : String) : (auditLinks sampleRuntime [text]).map linkInput = [auditInput 1 auditGenesis text] := rfl
  have second : (auditLinks sampleRuntime [allowJson, allowJson]).map linkInput =
      [auditInput 1 auditGenesis allowJson, auditInput 2 (hex allowDigest.bytes) allowJson] := by
    rw [← sha256_allow]
    rfl
  have genesis : hex allowDigest.bytes ≠ auditGenesis := by
    rw [auditGenesis_eq]
    intro same
    exact absurd (hex_injective same) (by decide)
  have free : CollisionFree sampleRuntime
      ((auditLinks sampleRuntime [allowJson] ++ auditLinks sampleRuntime [denyJson]).map linkInput) := by
    have differs : allowDigest ≠ denyDigest := by decide
    simp [CollisionFree, first, sha256_allow, sha256_deny, differs, differs.symm]
  have longerFree : CollisionFree sampleRuntime
      ((auditLinks sampleRuntime [allowJson] ++ auditLinks sampleRuntime [allowJson, allowJson]).map linkInput) := by
    have differs : allowDigest ≠ againDigest := by decide
    simp [CollisionFree, first, second, sha256_allow, sha256_again, differs, differs.symm]
  have emptyFree : CollisionFree sampleRuntime
      ((auditLinks sampleRuntime [] ++ auditLinks sampleRuntime [allowJson]).map linkInput) := by
    simp [CollisionFree, auditLinks, HashChain.links]
  refine ⟨fun same => ?_, ?_, ?_⟩
  · exact allowJson_ne_denyJson (List.singleton_inj.mp ((audit_tail_commits free).1 rfl same))
  · exact (audit_tail_commits longerFree).2.1 (by decide) (by simp) (by simp) (by decide) (by decide)
  · refine (audit_tail_commits emptyFree).2.2.1 (fun input member => ?_) (by decide)
    have only : (auditLinks sampleRuntime [] ++ auditLinks sampleRuntime [allowJson]).map linkInput =
        [auditInput 1 auditGenesis allowJson] := rfl
    rw [only, List.mem_singleton] at member
    rw [member, sha256_allow]
    exact genesis

end Skimasque.Audit
