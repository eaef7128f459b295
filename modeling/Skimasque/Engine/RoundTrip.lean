import Skimasque.Engine.RenderedDocument

/-! Which policies are read back as they were rendered.

What the rendering is decoded as is read as the policy; what remains is which texts and numbers a
document can hold, and what the rendering leaves out.
-/

set_option autoImplicit false

namespace Skimasque.Engine
open Library Library.Toml

/-! ## What it is read as -/

/-- The sizes are read through binary64 numbers, and the documents by parsers that are not this program's. -/
def standardFormats (parse : String → Except String Table) (refusal : Table → String)
    (yaml : String → Except String YamlDoc) : Formats where
  toml := tomlReader parse refusal
  yaml
  parseBytes
  parseBitrate

/-- What a policy has that was read from a document, or drafted under a name. -/
structure Policy.WellMade (policy : Policy) : Prop where
  named : policy.name ≠ ""
  session : ∀ duration, policy.session.maxDuration = some duration → ∃ text, parseDuration text = .ok duration
  bandwidth : ∀ bits, policy.limits.bandwidthBitsPerSec = some bits → ∃ text, parseBitrate text = .ok bits
  bytes : ∀ bytes, policy.limits.totalBytes = some bytes → ∃ text, parseBytes text = .ok bytes
  rate : ∀ rate, policy.limits.connectionRate = some rate → ∃ text, parseRate text = .ok rate
  destinations : ∀ rule ∈ policy.rules, rule.destinations ≠ []
  applications : ∀ rule ∈ policy.rules, rule.application ≠ .name "*"
  specs : ∀ rule ∈ policy.rules, ∀ spec ∈ rule.destinations, ∃ text, DestinationSpec.parse text = .ok spec
  denies : policy.baseline = true → ∀ rule ∈ policy.rules, rule.action = .deny

section
variable {parse : String → Except String Table} {refusal : Table → String} {yaml : String → Except String YamlDoc}
  {policy : Policy} {raw : RawPolicy}

theorem parseField_some {α : Type} {field : String} {value : Option String} {parser : String → Except ParseUnitError α}
    {result : Option α} (read : parseField field value parser = .ok result) :
    ∀ parsed, result = some parsed → ∃ text, parser text = .ok parsed := by
  rintro parsed rfl
  cases value with
  | none => cases read
  | some text =>
    simp only [parseField] at read
    cases isParsed : parser text with
    | error source =>
      rw [isParsed] at read
      cases read
    | ok other =>
      rw [isParsed] at read
      cases read
      exact ⟨text, isParsed⟩

theorem RawPolicy.Reads.wellMade (reads : raw.Reads (standardFormats parse refusal yaml) policy) : policy.WellMade := by
  have rule {rule : Rule} (member : rule ∈ policy.rules) : ∃ (raw : RawRule) (index : Nat), raw.Reads index rule := by
    obtain ⟨entry, here⟩ := Result.exists_of_forall₂ reads.rules member
    exact ⟨entry.1, entry.2, here⟩
  refine ⟨?_, parseField_some reads.session, parseField_some reads.bandwidth, parseField_some reads.totalBytes,
    parseField_some reads.connectionRate, ?_, ?_, ?_, ?_⟩
  · rintro empty
    obtain ⟨-, filled⟩ := Option.filter_eq_some_iff.mp reads.named
    rw [empty] at filled
    exact absurd filled (by decide)
  · intro made member none
    obtain ⟨raw, index, here⟩ := rule member
    have specs := here.specs
    rw [none, List.forall₂_nil_right_iff] at specs
    exact here.destinations specs
  · intro made member star
    obtain ⟨raw, index, here⟩ := rule member
    have application := here.application
    rw [star] at application
    split at application
    · cases application
    · rename_i other
      exact other (AppPattern.name.inj application).symm
  · intro made member spec listed
    obtain ⟨raw, index, here⟩ := rule member
    exact Result.exists_of_forall₂ here.specs listed
  · intro guard
    rw [reads.baseline] at guard
    exact reads.denies guard

/-! ### The rendered fields, read again -/

theorem Rule.raw_reads {rule : Rule} (some : rule.destinations ≠ []) (named : rule.application ≠ .name "*")
    (parsed : ∀ spec ∈ rule.destinations, ∃ text, DestinationSpec.parse text = .ok spec) (index : Nat) :
    rule.raw.Reads index rule where
  destinations := by simpa [Rule.raw] using some
  action := by
    rw [Rule.raw]
    cases rule.action with
    | allow => rfl
    | deny => rfl
  transport := by
    rw [Rule.raw]
    cases rule.transport with
    | any => rfl
    | tcp => rfl
    | udp => rfl
  application := by
    obtain ⟨id, application, transport, action, destinations⟩ := rule
    cases application with
    | any => rfl
    | name text =>
      have other : text ≠ "*" := fun star => named (congrArg AppPattern.name star)
      simp [Rule.raw, appText, other]
  specs := by
    refine List.forall₂_map_left_iff.mpr (List.forall₂_same.mpr fun spec member => ?_)
    obtain ⟨text, isSpec⟩ := parsed spec member
    exact DestinationSpec.parse_raw isSpec
  id := rfl

/-- The test without its description. -/
def PolicyTest.undescribed (test : PolicyTest) : PolicyTest := { test with description := none }

def Policy.undescribed (policy : Policy) : Policy := { policy with tests := policy.tests.map PolicyTest.undescribed }

theorem PolicyTest.raw_intoTest (test : PolicyTest) : test.raw.intoTest = .ok test.undescribed := by
  obtain ⟨application, destination, transport, expect, description⟩ := test
  rcases transport with _ | _ | _ <;> cases expect <;> rfl

theorem forall₂_zipIdx {α β : Type} {related : β × Nat → α → Prop} {f : α → β} (items : List α)
    (each : ∀ item ∈ items, ∀ index, related (f item, index) item) (start : Nat) :
    List.Forall₂ related ((items.map f).zipIdx start) items := by
  induction items generalizing start with
  | nil => exact .nil
  | cons item items ih =>
    rw [List.forall_mem_cons] at each
    exact .cons (each.1 start) (ih each.2 (start + 1))

theorem parseField_map {α : Type} {parser : String → Except ParseUnitError α} {write : α → String} {value : Option α}
    (field : String) (again : ∀ x, value = some x → parser (write x) = .ok x) :
    parseField field (value.map write) parser = .ok value := by
  cases value with
  | none => rfl
  | some x => simp only [Option.map_some, parseField, again x rfl]

theorem parseKind_asStr (kind : Option WorkloadKind) : parseKind (kind.map WorkloadKind.asStr) = .ok kind := by
  rcases kind with _ | _ | _ | _ <;> rfl

theorem Policy.raw_reads (made : policy.WellMade) :
    policy.raw.Reads (standardFormats parse refusal yaml) policy.undescribed where
  named := by
    have filled : Text.isEmpty policy.name = false := by
      rw [Bool.eq_false_iff, Ne, Text.isEmpty_iff]
      exact made.named
    simp only [Policy.raw, Policy.undescribed, Option.filter_some, filled, Bool.not_false, if_true]
  matchSpec := ⟨policy.matchSpec.kind, parseKind_asStr _, rfl⟩
  session := parseField_map _ fun duration isDuration => by
    obtain ⟨text, parsed⟩ := made.session duration isDuration
    exact parseDuration_humanize parsed
  egress := rfl
  bandwidth := parseField_map _ fun bits isBits => by
    obtain ⟨text, parsed⟩ := made.bandwidth bits isBits
    exact parseBitrate_humanize parsed
  totalBytes := parseField_map _ fun bytes isBytes => by
    obtain ⟨text, parsed⟩ := made.bytes bytes isBytes
    exact parseBytes_humanize parsed
  connections := rfl
  concurrentDestinations := rfl
  connectionRate := parseField_map _ fun rate isRate => by
    obtain ⟨text, parsed⟩ := made.rate rate isRate
    exact parseRate_humanize parsed
  packets := rfl
  rules := forall₂_zipIdx policy.rules (fun rule member index =>
    rule.raw_reads (made.destinations rule member) (made.applications rule member) (made.specs rule member) index) 0
  tests := List.forall₂_map_left_iff.mpr (List.forall₂_map_right_iff.mpr (List.forall₂_same.mpr fun test _ =>
    test.raw_intoTest))
  baseline := rfl
  denies := made.denies

/-- A policy whose document is plain is read again, but for the descriptions of its tests. -/
theorem fromToml_toToml (conforms : Conforms parse) (made : policy.WellMade) (plain : policy.document.plain = true) :
    Policy.fromToml (standardFormats parse refusal yaml) policy.toToml = .ok policy.undescribed := by
  refine Policy.fromToml_eq_ok_iff.mpr ⟨policy.raw, ?_, Policy.raw_reads made⟩
  have parsed := conforms.reads policy.document policy.document_keyed plain
  rw [← policy.toToml_eq] at parsed
  simp only [standardFormats, tomlReader, parsed, policy.decode_document]

theorem fromToml_toToml_unplain (conforms : Conforms parse) (unplain : policy.document.plain = false) :
    ∀ other, Policy.fromToml (standardFormats parse refusal yaml) policy.toToml ≠ .ok other := by
  intro other read
  obtain ⟨message, refused⟩ := conforms.refuses policy.document policy.document_keyed unplain
  obtain ⟨raw, isRaw, -⟩ := Policy.fromToml_eq_ok_iff.mp read
  rw [← policy.toToml_eq] at refused
  simp only [standardFormats, tomlReader, refused] at isRaw
  cases isRaw

theorem undescribed_eq_iff : policy.undescribed = policy ↔ ∀ test ∈ policy.tests, test.description = none := by
  have each (test : PolicyTest) : test.undescribed = test ↔ test.description = none := by
    obtain ⟨application, destination, transport, expect, description⟩ := test
    simp [PolicyTest.undescribed, eq_comm]
  have whole : policy.undescribed = policy ↔ policy.tests.map PolicyTest.undescribed = policy.tests := by
    obtain ⟨name, spec, session, egress, limits, rules, tests, baseline⟩ := policy
    simp [Policy.undescribed]
  have fixed : policy.tests.map PolicyTest.undescribed = policy.tests.map id ↔
      ∀ test ∈ policy.tests, test.undescribed = id test := List.map_inj_left
  rw [List.map_id] at fixed
  rw [whole, fixed]
  exact forall₂_congr fun test _ => each test

end

/-! ## What a document can hold -/

theorem all_present {α : Type} (slots : List (String × Option α)) (test : α → Bool) :
    (present slots).all (fun entry => test entry.2) = slots.all fun slot => slot.2.all test := by
  induction slots with
  | nil => rfl
  | cons slot slots ih =>
    obtain ⟨key, value⟩ := slot
    cases value with
    | none => rw [present_cons_none, ih]; rfl
    | some value => rw [present_cons_some, List.all_cons, ih]; rfl

def plainSlots (slots : List (String × Option Item)) : Bool := slots.all fun slot => slot.2.all Item.plain

theorem plainEntries_present (slots : List (String × Option Item)) : plainEntries (present slots) = plainSlots slots :=
  all_present slots Item.plain

theorem plainText_of_alphanumeric {text : String}
    (letters : ∀ c ∈ text.toList, Text.isAsciiAlphanumeric c = true ∨ c = '/') : plainText text = true := by
  refine List.all_eq_true.mpr fun c member => ?_
  rcases letters c member with letter | rfl
  · simp only [Text.isAsciiAlphanumeric, Text.isAsciiDigit, Text.isAsciiAlphabetic, Bool.or_eq_true, Bool.and_eq_true,
      decide_eq_true_eq, Char.le_def, UInt32.le_iff_toNat_le] at letter
    simp only [isPlain, Char.toNat, Bool.or_eq_true, Bool.and_eq_true, decide_eq_true_eq, bne_iff_ne, ne_eq]
    simp at letter ⊢
    omega
  · decide

theorem alphanumeric_toString {n : Nat} {c : Char} (member : c ∈ (toString n).toList) :
    Text.isAsciiAlphanumeric c = true ∨ c = '/' := by
  rw [Text.toList_toString_nat] at member
  exact .inl (by simp [Text.isAsciiAlphanumeric, Text.isAsciiDigit_of_mem_toDigits member])

theorem plain_humanizeDuration (duration : Duration) : plainText (humanizeDuration duration) = true := by
  refine plainText_of_alphanumeric fun c member => .inl ?_
  unfold humanizeDuration at member
  simp only at member
  split at member
  · revert c
    simp [Text.isAsciiAlphanumeric, Text.isAsciiAlphabetic, Text.isAsciiDigit]
  · rw [humanize_toList] at member
    exact segmentsText_alphanumeric (segmentsOf_units durationUnits durationUnits_spec.2 _) c (by simpa using member)

theorem plain_humanizeDecimal (value : UInt64) {unit : String} (letters : ∀ c ∈ unit.toList, Text.isAsciiAlphabetic c = true) :
    plainText (humanizeDecimal value unit) = true := by
  refine plainText_of_alphanumeric fun c member => ?_
  have letter {c : Char} (spelled : Text.isAsciiAlphabetic c = true) : Text.isAsciiAlphanumeric c = true ∨ c = '/' :=
    .inl (by simp [Text.isAsciiAlphanumeric, spelled])
  unfold humanizeDecimal at member
  split at member
  · rename_i name size found
    have spelled := (decimalPrefixes_spec _ (List.mem_of_find?_eq_some found)).2
    rw [String.toList_append, String.toList_append, List.mem_append, List.mem_append] at member
    rcases member with (digit | inName) | inUnit
    · exact alphanumeric_toString digit
    · exact letter (spelled c inName)
    · exact letter (letters c inUnit)
  · rw [String.toList_append, List.mem_append] at member
    rcases member with digit | inUnit
    · exact alphanumeric_toString digit
    · exact letter (letters c inUnit)

theorem plain_humanizeRate (rate : Rate) : plainText (humanizeRate rate) = true := by
  refine plainText_of_alphanumeric fun c member => ?_
  rw [humanizeRate, String.toList_append, String.toList_append, List.mem_append, List.mem_append] at member
  rcases member with (digit | slash) | letter
  · exact alphanumeric_toString digit
  · exact .inr (List.mem_singleton.mp slash)
  · unfold perSuffix at letter
    split at letter
    all_goals exact .inl (by rw [List.mem_singleton.mp letter]; decide)

/-- The texts of a policy that are written as they are. -/
def Policy.texts (policy : Policy) : List String :=
  [policy.name] ++ policy.matchSpec.texts.filterMap Prod.snd ++
    (policy.egress.map fun egress => egress.region.toList ++ egress.ipPool.toList).getD [] ++
    (policy.rules.flatMap fun rule => rule.id.toList ++ [appText rule.application] ++ rule.destinations.map DestinationSpec.raw) ++
    policy.tests.flatMap fun test => [test.application, test.destination]

theorem plainSlots_texts (texts : List (String × Option String)) :
    plainSlots (texts.map fun entry => (entry.1, entry.2.map Item.text)) = (texts.filterMap Prod.snd).all plainText := by
  induction texts with
  | nil => rfl
  | cons entry texts ih =>
    obtain ⟨key, text⟩ := entry
    unfold plainSlots at ih ⊢
    cases text with
    | none => rw [List.map_cons, List.all_cons, ih]; rfl
    | some text => rw [List.map_cons, List.all_cons, ih]; rfl

theorem plain_match (spec : MatchSpec) :
    (if 0 < spec.specificity then some (matchSlots spec) else none).all plainSlots =
      (spec.texts.filterMap Prod.snd).all plainText := by
  split
  · rw [Option.all_some, matchSlots, plainSlots_texts, List.filterMap_append, List.all_append]
    have kind : ((List.filterMap Prod.snd [("kind", spec.kind.map WorkloadKind.asStr)]).all plainText) = true := by
      rcases spec.kind with _ | _ | _ | _ <;> decide
    rw [kind, Bool.and_true]
  · rename_i general
    rw [matchSpec_eq_default general]
    rfl

theorem plain_egress (egress : Option EgressSpec) :
    (egress.map egressSlots).all plainSlots =
      ((egress.map fun egress => egress.region.toList ++ egress.ipPool.toList).getD []).all plainText := by
  cases egress with
  | none => rfl
  | some egress =>
    obtain ⟨region, pool⟩ := egress
    cases region <;> cases pool <;> simp [egressSlots, plainSlots, Item.plain]

theorem plain_limits (limits : Limits) :
    (if limits ≠ {} then some (limitsSlots limits) else none).all plainSlots =
      limits.packetsPerSec.all fun pps => pps.toNat < 2 ^ 63 := by
  split
  · have bits : ∀ bits : UInt64, plainText (humanizeDecimal bits "bps") = true := fun bits =>
      plain_humanizeDecimal bits (by simp [Text.isAsciiAlphabetic])
    have bytes : ∀ bytes : UInt64, plainText (humanizeDecimal bytes "B") = true := fun bytes =>
      plain_humanizeDecimal bytes (by simp [Text.isAsciiAlphabetic])
    have small (n : UInt32) : n.toNat < 9223372036854775808 := n.toNat_lt.trans (by decide)
    simp [limitsSlots, plainSlots, Option.all_map, Item.plain, bits, bytes, plain_humanizeRate, small]
  · rename_i none
    rw [not_ne_iff.mp none]
    rfl

theorem plain_rule (rule : Rule) :
    plainSlots (ruleSlots rule) =
      (rule.id.toList ++ [appText rule.application] ++ rule.destinations.map DestinationSpec.raw).all plainText := by
  have transport : (rule.transport.asWord.map Item.text).all Item.plain = true := by
    cases rule.transport <;> decide
  have action : plainText rule.action.asStr = true := by
    cases rule.action <;> decide
  have id : (rule.id.map Item.text).all Item.plain = rule.id.toList.all plainText := by
    cases rule.id with
    | none => rfl
    | some id => simp [Item.plain]
  simp only [plainSlots, ruleSlots, List.all_cons, List.all_nil, List.all_append, Option.all_some, transport, action, id,
    Bool.true_and, Bool.and_true, Item.plain, Bool.and_assoc]

theorem plain_test (test : PolicyTest) :
    plainSlots (testSlots test) = [test.application, test.destination].all plainText := by
  have transport : (test.transport.map fun transport => Item.text transport.asStr).all Item.plain = true := by
    rcases test.transport with _ | _ | _ <;> decide
  have expect : plainText test.expect.asStr = true := by
    cases test.expect <;> decide
  simp only [plainSlots, testSlots, List.all_cons, List.all_nil, Option.all_some, transport, expect, Bool.true_and,
    Bool.and_true, Item.plain]

theorem all_flatMap_texts {α : Type} (items : List α) (texts : α → List String) :
    (items.flatMap texts).all plainText = items.all fun item => (texts item).all plainText := by
  induction items with
  | nil => rfl
  | cons item items ih => rw [List.flatMap_cons, List.all_append, ih, List.all_cons]

/-- The document of a policy is plain when its texts are and the packet rate fits in 63 bits. -/
theorem Policy.document_plain (policy : Policy) :
    policy.document.plain =
      (policy.texts.all plainText && policy.limits.packetsPerSec.all fun pps => pps.toNat < 2 ^ 63) := by
  have root : plainEntries policy.document.root = plainText policy.name := by
    rw [show policy.document.root = present (rootSlots policy) from rfl, plainEntries_present]
    cases baseline : policy.baseline <;> simp [plainSlots, rootSlots, baseline, Item.plain]
  have tables : ((present (tableSlots policy)).map fun entry => (⟨.table entry.1, present entry.2⟩ : Part)).all
      (fun part => plainEntries part.entries) =
      ((policy.matchSpec.texts.filterMap Prod.snd).all plainText &&
        (((policy.egress.map fun egress => egress.region.toList ++ egress.ipPool.toList).getD []).all plainText &&
          policy.limits.packetsPerSec.all fun pps => pps.toNat < 2 ^ 63)) := by
    have session : (policy.session.maxDuration.map fun duration =>
        [("max_duration", some (Item.text (humanizeDuration duration)))]).all plainSlots = true := by
      cases policy.session.maxDuration with
      | none => rfl
      | some duration => simp [plainSlots, Item.plain, plain_humanizeDuration]
    rw [List.all_map]
    have each : ((fun part : Part => plainEntries part.entries) ∘ fun entry : String × List (String × Option Item) =>
        ⟨.table entry.1, present entry.2⟩) = fun entry => plainSlots entry.2 := by
      funext entry
      exact plainEntries_present entry.2
    rw [each, all_present, tableSlots]
    simp only [List.all_cons, List.all_nil, plain_match, session, plain_egress, plain_limits, Bool.true_and, Bool.and_true]
  have rules : (policy.rules.map fun rule => (⟨.element "rules", present (ruleSlots rule)⟩ : Part)).all
      (fun part => plainEntries part.entries) = (policy.rules.flatMap fun rule =>
        rule.id.toList ++ [appText rule.application] ++ rule.destinations.map DestinationSpec.raw).all plainText := by
    rw [List.all_map, all_flatMap_texts]
    congr 1
    funext rule
    rw [← plain_rule, ← plainEntries_present]
    rfl
  have tests : (policy.tests.map fun test => (⟨.element "tests", present (testSlots test)⟩ : Part)).all
      (fun part => plainEntries part.entries) =
      (policy.tests.flatMap fun test => [test.application, test.destination]).all plainText := by
    rw [List.all_map, all_flatMap_texts]
    congr 1
    funext test
    rw [← plain_test, ← plainEntries_present]
    rfl
  rw [Document.plain, root]
  simp only [Policy.document, List.all_append, tables, rules, tests, Policy.texts, List.all_cons, List.all_nil]
  -- The packet rate is tested in the middle, with the other limits.
  generalize policy.limits.packetsPerSec.all _ = packets
  cases packets <;> simp [Bool.and_assoc]

/-! ## Drafts -/

theorem collect_filled (debug : String → String) (observations : List Observation)
    (found : List (RuleKey × List String) × List (Observation × String)) (filled : ∀ entry ∈ found.1, entry.2 ≠ []) :
    ∀ entry ∈ (observations.foldl (collect debug) found).1, entry.2 ≠ [] := by
  induction observations generalizing found with
  | nil => exact filled
  | cons observation rest ih =>
    refine ih _ ?_
    unfold collect
    cases Destination.parse observation.destination with
    | ok destination => exact OrderedMap.insertAt_filled filled
    | error error => exact filled

theorem draft_wellMade {debug : String → String} {name : String} {identity : WorkloadIdentity}
    {observations : List Observation} {suggestion : Suggestion} (named : name ≠ "")
    (suggested : suggestPolicy debug name identity observations = some suggestion) : suggestion.policy.WellMade := by
  rw [suggestPolicy_eq] at suggested
  cases suggested
  have made {rule : Rule} (member : rule ∈ (collected debug observations).1.filterMap observedRule) :
      rule.destinations ≠ [] ∧ rule.application ≠ .name "*" ∧
        ∀ spec ∈ rule.destinations, ∃ text, DestinationSpec.parse text = .ok spec := by
    obtain ⟨⟨⟨application, transport⟩, texts⟩, entry, isRule⟩ := List.mem_filterMap.mp member
    have filled : texts ≠ [] := collect_filled debug observations ([], []) (by simp) _ entry
    have shown := collected_shown entry
    simp only [observedRule, destinations_parse shown, Option.bind_eq_bind, Option.bind_some, Option.pure_def,
      Option.some.injEq] at isRule
    subst isRule
    refine ⟨?_, ?_, ?_⟩
    · obtain ⟨text, inside⟩ := List.exists_mem_of_ne_nil texts filled
      obtain ⟨destination, shows⟩ := shown text inside
      have listed : (⟨destination.host.pattern, .exact destination.port, text⟩ : DestinationSpec) ∈
          texts.filterMap fun text => (DestinationSpec.parse text).toOption :=
        List.mem_filterMap.mpr ⟨text, inside, by rw [shows.parse]; rfl⟩
      exact List.ne_nil_of_mem listed
    · simp only [ne_eq]
      split
      · rintro ⟨⟩
      · rename_i other
        rintro star
        rw [AppPattern.name.inj star] at other
        exact other (by decide)
    · intro spec listed
      obtain ⟨text, -, parsed⟩ := List.mem_filterMap.mp listed
      exact ⟨text, Result.toOption_eq_some_iff.mp parsed⟩
  refine ⟨named, ?_, ?_, ?_, ?_, fun _ member => (made member).1, fun _ member => (made member).2.1,
    fun _ member => (made member).2.2, ?_⟩
  · rintro _ ⟨⟩
  · rintro _ ⟨⟩
  · rintro _ ⟨⟩
  · rintro _ ⟨⟩
  · rintro ⟨⟩

/-! ## The round trip -/

/-- Where a policy comes from that is rendered. -/
inductive Obtained (formats : Formats) (policy : Policy) : Prop where
  | toml (text : String) (read : Policy.fromToml formats text = .ok policy)
  | yaml (text : String) (read : Policy.fromYaml formats text = .ok policy)
  | draft (debug : String → String) (name : String) (identity : WorkloadIdentity) (observations : List Observation)
      (skipped : List (Observation × String)) (named : name ≠ "")
      (suggested : suggestPolicy debug name identity observations = some ⟨policy, skipped⟩)

/-- What the rendering can carry: texts without control characters, a packet rate within TOML's
integers, and tests without a description. -/
structure Policy.Renderable (policy : Policy) : Prop where
  texts : ∀ text ∈ policy.texts, plainText text = true
  packets : ∀ pps, policy.limits.packetsPerSec = some pps → pps.toNat < 2 ^ 63
  descriptions : ∀ test ∈ policy.tests, test.description = none

theorem Obtained.wellMade {parse : String → Except String Table} {refusal : Table → String}
    {yaml : String → Except String YamlDoc} {policy : Policy}
    (obtained : Obtained (standardFormats parse refusal yaml) policy) : policy.WellMade := by
  cases obtained with
  | toml text read =>
    obtain ⟨raw, -, reads⟩ := Policy.fromToml_eq_ok_iff.mp read
    exact reads.wellMade
  | yaml text read =>
    obtain ⟨doc, raw, -, -, reads⟩ := Policy.fromYaml_eq_ok_iff.mp read
    exact reads.wellMade
  | draft debug name identity observations skipped named suggested => exact draft_wellMade named suggested

theorem Policy.document_plain_iff {policy : Policy} :
    policy.document.plain = true ↔
      (∀ text ∈ policy.texts, plainText text = true) ∧
        ∀ pps, policy.limits.packetsPerSec = some pps → pps.toNat < 2 ^ 63 := by
  rw [policy.document_plain, Bool.and_eq_true, List.all_eq_true, Option.all_eq_true]
  simp only [decide_eq_true_eq]

/-- A policy is read back from what it is rendered as exactly when the rendering can carry it. -/
theorem rendering_round_trips_iff (parse : String → Except String Table) (refusal : Table → String)
    (yaml : String → Except String YamlDoc) (conforms : Conforms parse) (policy : Policy)
    (obtained : Obtained (standardFormats parse refusal yaml) policy) :
    Policy.fromToml (standardFormats parse refusal yaml) policy.toToml = .ok policy ↔ policy.Renderable := by
  have made := obtained.wellMade
  cases plain : policy.document.plain with
  | false =>
    constructor
    · intro read
      exact absurd read (fromToml_toToml_unplain conforms plain policy)
    · intro renderable
      rw [Policy.document_plain_iff.mpr ⟨renderable.texts, renderable.packets⟩] at plain
      cases plain
  | true =>
    obtain ⟨texts, packets⟩ := Policy.document_plain_iff.mp plain
    rw [fromToml_toToml conforms made plain, Except.ok.injEq, undescribed_eq_iff]
    exact ⟨fun descriptions => ⟨texts, packets, descriptions⟩, Policy.Renderable.descriptions⟩

-- The reader of the fragment stands for the parser; it does as any other on these documents.
def sampleFormats : Formats :=
  standardFormats read (fun _ => "unknown field") fun _ => .error "invalid type: string, expected struct YamlDoc"

theorem sampleFormats_toml {document : Document} (keyed : document.Keyed) (plain : document.plain = true) :
    Policy.fromToml sampleFormats document.text =
      match asStruct policyFields RawPolicy.ofTable (.table document.table) with
      | some raw => raw.intoPolicy sampleFormats
      | none => .error (.toml "unknown field") := by
  have parsed := read_conforms.reads document keyed plain
  cases decoded : asStruct policyFields RawPolicy.ofTable (.table document.table) with
  | none => simp only [Policy.fromToml, sampleFormats, standardFormats, tomlReader, parsed, decoded]
  | some raw =>
    simp only [Policy.fromToml, sampleFormats, standardFormats, tomlReader, parsed, decoded]

/-- `name`, `[match]`, `[session]`, `[limits]` and one of `[[rules]]`. -/
def terraformDocument : Document where
  root := [("name", .text "production")]
  parts := [
    ⟨.table "match", [("repository", .text "acme/widget")]⟩,
    ⟨.table "session", [("max_duration", .text "1200s")]⟩,
    ⟨.table "limits", [("connections", .integer 50), ("connection_rate", .text "10/sec")]⟩,
    ⟨.element "rules", [("application", .text "terraform"), ("action", .text "allow"),
      ("destinations", .texts ["registry.terraform.io:443"])]⟩]

def terraformPolicy : Policy where
  name := "production"
  matchSpec := { repository := some "acme/widget" }
  session := ⟨some (1200 * nanosPerSec)⟩
  limits := { concurrentConnections := some 50, connectionRate := some ⟨10, nanosPerSec⟩ }
  rules := [⟨none, .name "terraform", .any, .allow,
    [⟨.exact "registry.terraform.io", .exact 443, "registry.terraform.io:443"⟩]⟩]

theorem terraform_policy_round_trips :
    Policy.fromToml sampleFormats terraformDocument.text = .ok terraformPolicy ∧
      Policy.fromToml sampleFormats terraformPolicy.toToml = .ok terraformPolicy := by
  have keyed : terraformDocument.Keyed := ⟨by decide, by decide, by decide, by decide⟩
  have read : Policy.fromToml sampleFormats terraformDocument.text = .ok terraformPolicy := by
    rw [sampleFormats_toml keyed (by decide)]
    decide +kernel
  have texts : ∀ text ∈ terraformPolicy.texts, plainText text = true := by decide +kernel
  exact ⟨read, (rendering_round_trips_iff Toml.read _ _ read_conforms terraformPolicy
    (.toml terraformDocument.text read)).mpr ⟨texts, nofun, nofun⟩⟩

/-- `name` and one of `[[tests]]`, with a description. -/
def describedDocument : Document where
  root := [("name", .text "production")]
  parts := [⟨.element "tests", [("application", .text "terraform"), ("destination", .text "registry.terraform.io:443"),
    ("expect", .text "deny"), ("description", .text "nothing is allowed yet")]⟩]

def describedPolicy : Policy where
  name := "production"
  tests := [⟨"terraform", "registry.terraform.io:443", none, .deny, some "nothing is allowed yet"⟩]

def brokenPolicy : Policy := { name := "a\nb" }

/-- A test is read back without its description, and a name with a line break is not TOML any more. -/
theorem description_is_lost :
    (Policy.fromToml sampleFormats describedDocument.text = .ok describedPolicy ∧
      Policy.fromToml sampleFormats describedPolicy.toToml ≠ .ok describedPolicy) ∧
    (Policy.fromYaml { sampleFormats with yaml := fun _ => .ok { name := some "a\nb" } } "name: \"a\\nb\"" =
        .ok brokenPolicy ∧
      Policy.fromToml sampleFormats brokenPolicy.toToml ≠ .ok brokenPolicy) := by
  have keyed : describedDocument.Keyed := ⟨by decide, by decide, by decide, by decide⟩
  have read : Policy.fromToml sampleFormats describedDocument.text = .ok describedPolicy := by
    rw [sampleFormats_toml keyed (by decide)]
    decide +kernel
  have made : describedPolicy.WellMade := by
    obtain ⟨raw, -, reads⟩ := Policy.fromToml_eq_ok_iff.mp read
    exact RawPolicy.Reads.wellMade reads
  have again : Policy.fromToml sampleFormats describedPolicy.toToml = .ok describedPolicy.undescribed :=
    fromToml_toToml read_conforms made (by decide +kernel)
  refine ⟨⟨read, ?_⟩, by decide +kernel, fromToml_toToml_unplain read_conforms (by decide +kernel) brokenPolicy⟩
  intro same
  cases again.symm.trans same

end Skimasque.Engine
