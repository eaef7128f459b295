import Skimasque.Engine.Render

/-! The document of a policy: no key twice, and decoded as the fields it was made of. -/

set_option autoImplicit false

namespace Skimasque.Engine
open Library Library.Toml

/-! ## The keys of the document -/

theorem present_keyed {slots : List (String × Option Item)} (distinct : (slots.map Prod.fst).Nodup)
    (bare : ∀ key ∈ slots.map Prod.fst, isBareKey key = true) :
    ((present slots).map Prod.fst).Nodup ∧ ∀ entry ∈ present slots, isBareKey entry.1 = true :=
  ⟨(keys_present_sublist slots).nodup distinct, fun _ member => bare _ (key_mem_of_mem_present member)⟩

theorem mem_parts_iff {policy : Policy} {part : Part} :
    part ∈ policy.document.parts ↔
      (∃ name slots, (name, some slots) ∈ tableSlots policy ∧ part = ⟨.table name, present slots⟩) ∨
      (∃ rule ∈ policy.rules, part = ⟨.element "rules", present (ruleSlots rule)⟩) ∨
      ∃ test ∈ policy.tests, part = ⟨.element "tests", present (testSlots test)⟩ := by
  simp only [Policy.document, List.mem_append, List.mem_map, mem_present_iff, Prod.exists, or_assoc, eq_comm]

/-- The slots of every table have the names of its fields. -/
theorem tableSlots_keys {policy : Policy} {name : String} {slots : List (String × Option Item)}
    (listed : (name, some slots) ∈ tableSlots policy) :
    (name, slots.map Prod.fst) ∈ [("match", matchFields), ("session", ["max_duration"]),
      ("egress", ["region", "ip_pool"]), ("limits", limitsFields)] := by
  simp only [tableSlots, List.mem_cons, Prod.mk.injEq, List.not_mem_nil, or_false] at listed
  rcases listed with ⟨rfl, found⟩ | ⟨rfl, found⟩ | ⟨rfl, found⟩ | ⟨rfl, found⟩
  · split at found
    · cases found
      exact List.mem_cons_self ..
    · cases found
  · obtain ⟨duration, -, rfl⟩ := Option.map_eq_some_iff.mp found.symm
    simp
  · obtain ⟨egress, -, rfl⟩ := Option.map_eq_some_iff.mp found.symm
    simp [egressSlots]
  · split at found
    · cases found
      exact show _ ∈ [_, _, _, _] by simp [limitsSlots, limitsFields]
    · cases found

theorem tableSlots_keyed :
    ∀ entry ∈ [("match", matchFields), ("session", ["max_duration"]), ("egress", ["region", "ip_pool"]),
        ("limits", limitsFields)],
      isBareKey entry.1 = true ∧ entry.1 ∉ ["name", "baseline"] ∧ entry.1 ∉ ["rules", "tests"] ∧ entry.2.Nodup ∧
        ∀ key ∈ entry.2, isBareKey key = true := by
  decide

theorem Policy.document_keyed (policy : Policy) : policy.document.Keyed := by
  have roots := @present_keyed (rootSlots policy) (show ["name", "baseline"].Nodup by decide)
    (show ∀ key ∈ ["name", "baseline"], isBareKey key = true by decide)
  have rules (rule : Rule) := @present_keyed (ruleSlots rule) (show ruleFields.Nodup by decide)
    (show ∀ key ∈ ruleFields, isBareKey key = true by decide)
  have tests (test : PolicyTest) := @present_keyed (testSlots test)
    (show ["application", "transport", "destination", "expect"].Nodup by decide)
    (show ∀ key ∈ ["application", "transport", "destination", "expect"], isBareKey key = true by decide)
  have notRoot {name : String} (other : name ∉ ["name", "baseline"]) : name ∉ policy.document.root.map Prod.fst :=
    fun member => other ((keys_present_sublist (rootSlots policy)).subset member)
  refine ⟨roots, ?_, ?_, ?_⟩
  · intro part member
    rcases mem_parts_iff.mp member with ⟨name, slots, listed, rfl⟩ | ⟨rule, -, rfl⟩ | ⟨test, -, rfl⟩
    · obtain ⟨-, -, -, distinct, bare⟩ := tableSlots_keyed _ (tableSlots_keys listed)
      exact present_keyed distinct bare
    · exact rules rule
    · exact tests test
  · intro part member
    rcases mem_parts_iff.mp member with ⟨name, slots, listed, rfl⟩ | ⟨rule, -, rfl⟩ | ⟨test, -, rfl⟩
    · obtain ⟨bare, other, -⟩ := tableSlots_keyed _ (tableSlots_keys listed)
      exact ⟨bare, notRoot other⟩
    · exact ⟨show isBareKey "rules" = true by decide, notRoot (show "rules" ∉ _ by decide)⟩
    · exact ⟨show isBareKey "tests" = true by decide, notRoot (show "tests" ∉ _ by decide)⟩
  · have tables : (present (tableSlots policy)).Pairwise fun first second => first.1 ≠ second.1 := by
      have distinct : ((present (tableSlots policy)).map Prod.fst).Nodup :=
        (keys_present_sublist (tableSlots policy)).nodup (show ["match", "session", "egress", "limits"].Nodup by decide)
      exact List.pairwise_map.mp distinct
    have apart {entry : String × List (String × Option Item)} (member : entry ∈ present (tableSlots policy)) :
        entry.1 ∉ ["rules", "tests"] :=
      (tableSlots_keyed _ (tableSlots_keys (mem_present_iff.mp member))).2.2.1
    unfold Policy.document
    rw [List.pairwise_append, List.pairwise_append, List.pairwise_map, List.pairwise_map, List.pairwise_map]
    refine ⟨⟨tables.imp fun other same => absurd same other, ?_, ?_⟩, ?_, ?_⟩
    · exact List.pairwise_of_forall fun _ _ _ => ⟨rfl, rfl⟩
    · intro first firstListed second secondListed same
      obtain ⟨entry, member, rfl⟩ := List.mem_map.mp firstListed
      obtain ⟨rule, -, rfl⟩ := List.mem_map.mp secondListed
      exact absurd (show entry.1 ∈ ["rules", "tests"] from by rw [show entry.1 = "rules" from same]; decide) (apart member)
    · exact List.pairwise_of_forall fun _ _ _ => ⟨rfl, rfl⟩
    · intro first firstListed second secondListed same
      obtain ⟨test, -, rfl⟩ := List.mem_map.mp secondListed
      rcases List.mem_append.mp firstListed with isTable | isRule
      · obtain ⟨entry, member, rfl⟩ := List.mem_map.mp isTable
        exact absurd (show entry.1 ∈ ["rules", "tests"] from by rw [show entry.1 = "tests" from same]; decide) (apart member)
      · obtain ⟨rule, -, rfl⟩ := List.mem_map.mp isRule
        exact absurd same (show "rules" ≠ "tests" by decide)

/-! ## What the document holds -/

def valueSlots (slots : List (String × Option Item)) : List (String × Option Value) :=
  slots.map fun slot => (slot.1, slot.2.map Item.value)

def tableValue (slots : List (String × Option Item)) : Value := .table (present (valueSlots slots))

def arraySlot {α : Type} (items : List α) (slots : α → List (String × Option Item)) : Option Value :=
  if items = [] then none else some (.array (items.map fun item => tableValue (slots item)))

/-- The root of the document, with a slot for every field. -/
def policySlots (policy : Policy) : List (String × Option Value) :=
  valueSlots (rootSlots policy) ++ (tableSlots policy).map (fun slot => (slot.1, slot.2.map tableValue)) ++
    [("rules", arraySlot policy.rules ruleSlots), ("tests", arraySlot policy.tests testSlots)]

theorem foldl_elements {α : Type} (name : String) (items : List α) (slots : α → List (String × Option Item))
    {table : Table} (absent : name ∉ table.map Prod.fst) :
    (items.map fun item => (⟨.element name, present (slots item)⟩ : Part)).foldl addPart table =
      table ++ present [(name, arraySlot items slots)] := by
  have elements := foldl_addPart_elements absent (items.map fun item => present (slots item))
  rw [List.map_map] at elements
  rw [show (fun item => (⟨.element name, present (slots item)⟩ : Part)) =
    (fun entries => ⟨.element name, entries⟩) ∘ fun item => present (slots item) from rfl, elements]
  congr 2
  simp only [arraySlot, tableValue, valueSlots, values_present, List.map_eq_nil_iff, List.map_map, Function.comp_def]

theorem Policy.document_table (policy : Policy) : policy.document.table = present (policySlots policy) := by
  have front : ((present (tableSlots policy)).map fun entry => (⟨.table entry.1, present entry.2⟩ : Part)).foldl addPart
      (values (present (rootSlots policy))) =
      present (valueSlots (rootSlots policy) ++ (tableSlots policy).map fun slot => (slot.1, slot.2.map tableValue)) := by
    have tables := foldl_addPart_tables ((present (tableSlots policy)).map fun entry => (entry.1, present entry.2))
      (values (present (rootSlots policy)))
    rw [List.map_map, List.map_map] at tables
    rw [show (fun entry : String × List (String × Option Item) => (⟨.table entry.1, present entry.2⟩ : Part)) =
      (fun entry => ⟨.table entry.1, entry.2⟩) ∘ fun entry => (entry.1, present entry.2) from rfl, tables,
      present_append, values_present, ← map_present (tableSlots policy) tableValue]
    congr 2
    funext entry
    simp only [Function.comp_apply, values_present]
    rfl
  have keys : (valueSlots (rootSlots policy) ++ (tableSlots policy).map fun slot => (slot.1, slot.2.map tableValue)).map
      Prod.fst = ["name", "baseline", "match", "session", "egress", "limits"] := rfl
  have noRules : "rules" ∉ (present (valueSlots (rootSlots policy) ++ (tableSlots policy).map fun slot =>
      (slot.1, slot.2.map tableValue))).map Prod.fst := by
    intro member
    have listed := (keys_present_sublist _).subset member
    rw [keys] at listed
    exact absurd listed (by decide)
  have noTests : "tests" ∉ (present (valueSlots (rootSlots policy) ++ (tableSlots policy).map (fun slot =>
      (slot.1, slot.2.map tableValue)) ++ [("rules", arraySlot policy.rules ruleSlots)])).map Prod.fst := by
    intro member
    have listed := (keys_present_sublist _).subset member
    rw [List.map_append, keys] at listed
    exact absurd listed (by simp)
  rw [Document.table, Policy.document, List.foldl_append, List.foldl_append, front,
    foldl_elements "rules" policy.rules ruleSlots noRules, ← present_append,
    foldl_elements "tests" policy.tests testSlots noTests, ← present_append, policySlots]
  simp only [List.append_assoc, List.cons_append, List.nil_append]

/-! ## What it is decoded as -/

def Rule.raw (rule : Rule) : RawRule :=
  { id := rule.id, application := appText rule.application, transport := rule.transport.asWord,
    action := rule.action.asStr, destinations := rule.destinations.map DestinationSpec.raw }

/-- The description is not rendered. -/
def PolicyTest.raw (test : PolicyTest) : RawTest :=
  { application := test.application, destination := test.destination, transport := test.transport.map Transport.asStr,
    expect := test.expect.asStr }

def MatchSpec.raw (spec : MatchSpec) : RawMatch :=
  ⟨spec.organization, spec.repository, spec.workflow, spec.gitRef, spec.branch, spec.environment, spec.actor,
    spec.kind.map WorkloadKind.asStr⟩

def Limits.raw (limits : Limits) : RawLimits where
  bandwidth := limits.bandwidthBitsPerSec.map fun bits => humanizeDecimal bits "bps"
  bytes := limits.totalBytes.map fun bytes => humanizeDecimal bytes "B"
  connections := limits.concurrentConnections
  concurrentDestinations := limits.concurrentDestinations
  connectionRate := limits.connectionRate.map humanizeRate
  packetsPerSecond := limits.packetsPerSec

def Policy.raw (policy : Policy) : RawPolicy where
  name := some policy.name
  baseline := policy.baseline
  matchSpec := policy.matchSpec.raw
  maxDuration := policy.session.maxDuration.map humanizeDuration
  egress := policy.egress
  limits := policy.limits.raw
  rules := policy.rules.map Rule.raw
  tests := policy.tests.map PolicyTest.raw

theorem optional_text {slots : List (String × Option Value)} (distinct : (slots.map Prod.fst).Nodup) {key : String}
    {text : Option String} (listed : (slots.lookup key).join = text.map .text) :
    optional asText (present slots) key = some text := by
  refine optional_present distinct listed ?_
  cases text with
  | none => rfl
  | some text => rfl

theorem required_text {slots : List (String × Option Value)} (distinct : (slots.map Prod.fst).Nodup) {key text : String}
    (listed : (slots.lookup key).join = some (.text text)) : required asText (present slots) key = some text :=
  required_present distinct listed rfl

theorem asNat_toNat {size value : Nat} (fits : value < size) : asNat size (.integer value) = some value := by
  have bounds : (0 : Int) ≤ (value : Int) ∧ (value : Int) < size := ⟨Int.natCast_nonneg value, by exact_mod_cast fits⟩
  rw [asNat, if_pos bounds, Int.toNat_natCast]

theorem optional_u32 {slots : List (String × Option Value)} (distinct : (slots.map Prod.fst).Nodup) {key : String}
    {number : Option UInt32} (listed : (slots.lookup key).join = number.map fun n => .integer n.toNat) :
    optional asU32 (present slots) key = some number := by
  refine optional_present distinct listed ?_
  cases number with
  | none => rfl
  | some number =>
    rw [Option.map_some, Option.map_some, asU32, asNat_toNat number.toNat_lt, Option.map_some, UInt32.ofNat_toNat]
    rfl

theorem optional_u64 {slots : List (String × Option Value)} (distinct : (slots.map Prod.fst).Nodup) {key : String}
    {number : Option UInt64} (listed : (slots.lookup key).join = number.map fun n => .integer n.toNat) :
    optional asU64 (present slots) key = some number := by
  refine optional_present distinct listed ?_
  cases number with
  | none => rfl
  | some number =>
    rw [Option.map_some, Option.map_some, asU64, asNat_toNat number.toNat_lt, Option.map_some, UInt64.ofNat_toNat]
    rfl

theorem decode_match (spec : MatchSpec) :
    asStruct matchFields RawMatch.ofTable (tableValue (matchSlots spec)) = some spec.raw := by
  have distinct : ((valueSlots (matchSlots spec)).map Prod.fst).Nodup := show matchFields.Nodup by decide
  have look (key : String) (text : Option String)
      (found : ((valueSlots (matchSlots spec)).lookup key).join = (text.map Item.text).map Item.value) :
      optional asText (present (valueSlots (matchSlots spec))) key = some text :=
    optional_text distinct (by rw [found, Option.map_map]; rfl)
  have known : ∀ key ∈ (valueSlots (matchSlots spec)).map Prod.fst, key ∈ matchFields := fun _ member => member
  rw [tableValue, asStruct_present known]
  simp only [RawMatch.ofTable, look "organization" spec.organization rfl, look "repository" spec.repository rfl,
    look "workflow" spec.workflow rfl, look "ref" spec.gitRef rfl, look "branch" spec.branch rfl,
    look "environment" spec.environment rfl, look "actor" spec.actor rfl,
    look "kind" (spec.kind.map WorkloadKind.asStr) rfl, bind, Option.bind]
  rfl

theorem decode_session (duration : String) :
    asStruct ["max_duration"] sessionOfTable (tableValue [("max_duration", some (.text duration))]) =
      some (some duration) := rfl

theorem decode_egress (egress : EgressSpec) :
    asStruct ["region", "ip_pool"] egressOfTable (tableValue (egressSlots egress)) = some egress := by
  obtain ⟨region, pool⟩ := egress
  cases region with
  | none =>
    cases pool with
    | none => rfl
    | some pool => rfl
  | some region =>
    cases pool with
    | none => rfl
    | some pool => rfl

theorem decode_limits (limits : Limits) :
    asStruct limitsFields RawLimits.ofTable (tableValue (limitsSlots limits)) = some limits.raw := by
  have distinct : ((valueSlots (limitsSlots limits)).map Prod.fst).Nodup := show limitsFields.Nodup by decide
  have known : ∀ key ∈ (valueSlots (limitsSlots limits)).map Prod.fst, key ∈ limitsFields := fun _ member => member
  have text {α : Type} (key : String) (value : Option α) (write : α → String)
      (found : ((valueSlots (limitsSlots limits)).lookup key).join =
        (value.map fun x => Item.text (write x)).map Item.value) :
      optional asText (present (valueSlots (limitsSlots limits))) key = some (value.map write) :=
    optional_text distinct (by rw [found, Option.map_map, Option.map_map]; rfl)
  have small (key : String) (value : Option UInt32)
      (found : ((valueSlots (limitsSlots limits)).lookup key).join =
        (value.map fun n => Item.integer n.toNat).map Item.value) :
      optional asU32 (present (valueSlots (limitsSlots limits))) key = some value :=
    optional_u32 distinct (by rw [found, Option.map_map]; rfl)
  have large : optional asU64 (present (valueSlots (limitsSlots limits))) "packets_per_second" =
      some limits.packetsPerSec := by
    refine optional_u64 distinct ?_
    change (limits.packetsPerSec.map fun pps => Item.integer pps.toNat).map Item.value = _
    rw [Option.map_map]
    rfl
  rw [tableValue, asStruct_present known]
  simp only [RawLimits.ofTable, text "bandwidth" limits.bandwidthBitsPerSec (humanizeDecimal · "bps") rfl,
    text "bytes" limits.totalBytes (humanizeDecimal · "B") rfl, small "connections" limits.concurrentConnections rfl,
    small "concurrent_destinations" limits.concurrentDestinations rfl,
    text "connection_rate" limits.connectionRate humanizeRate rfl, large, bind, Option.bind]
  rfl

theorem asList_texts (texts : List String) : asList asText (.array (texts.map .text)) = some texts := by
  induction texts with
  | nil => rfl
  | cons text texts ih =>
    simp only [asList] at ih ⊢
    rw [List.map_cons, List.mapM_cons, ih]
    rfl

theorem decode_rule (rule : Rule) : asStruct ruleFields RawRule.ofTable (tableValue (ruleSlots rule)) = some rule.raw := by
  have distinct : ((valueSlots (ruleSlots rule)).map Prod.fst).Nodup := show ruleFields.Nodup by decide
  have known : ∀ key ∈ (valueSlots (ruleSlots rule)).map Prod.fst, key ∈ ruleFields := fun _ member => member
  have look (key : String) (text : Option String)
      (found : ((valueSlots (ruleSlots rule)).lookup key).join = (text.map Item.text).map Item.value) :
      optional asText (present (valueSlots (ruleSlots rule))) key = some text :=
    optional_text distinct (by rw [found, Option.map_map]; rfl)
  have application : required asText (present (valueSlots (ruleSlots rule))) "application" = some (appText rule.application) :=
    required_text distinct rfl
  have action : required asText (present (valueSlots (ruleSlots rule))) "action" = some rule.action.asStr :=
    required_text distinct rfl
  have destinations : orDefault (asList asText) (present (valueSlots (ruleSlots rule))) "destinations" [] =
      some (rule.destinations.map DestinationSpec.raw) := by
    refine orDefault_present distinct rfl (fun absent => by cases absent) fun value isValue => ?_
    rw [← Option.some.inj isValue]
    exact asList_texts _
  rw [tableValue, asStruct_present known]
  simp only [RawRule.ofTable, look "id" rule.id rfl, application, look "transport" rule.transport.asWord rfl, action,
    destinations, bind, Option.bind]
  rfl

theorem decode_test (test : PolicyTest) :
    asStruct testFields RawTest.ofTable (tableValue (testSlots test)) = some test.raw := by
  have distinct : ((valueSlots (testSlots test)).map Prod.fst).Nodup :=
    show ["application", "transport", "destination", "expect"].Nodup by decide
  have known : ∀ key ∈ (valueSlots (testSlots test)).map Prod.fst, key ∈ testFields :=
    show ∀ key ∈ ["application", "transport", "destination", "expect"], key ∈ testFields by decide
  have application : required asText (present (valueSlots (testSlots test))) "application" = some test.application :=
    required_text distinct rfl
  have destination : required asText (present (valueSlots (testSlots test))) "destination" = some test.destination :=
    required_text distinct rfl
  have expect : required asText (present (valueSlots (testSlots test))) "expect" = some test.expect.asStr :=
    required_text distinct rfl
  have transport : optional asText (present (valueSlots (testSlots test))) "transport" =
      some (test.transport.map Transport.asStr) := by
    refine optional_text distinct ?_
    change (test.transport.map fun transport => Item.text transport.asStr).map Item.value = _
    rw [Option.map_map, Option.map_map]
    rfl
  have description : optional asText (present (valueSlots (testSlots test))) "description" = some none :=
    optional_text distinct rfl
  rw [tableValue, asStruct_present known]
  simp only [RawTest.ofTable, application, destination, transport, expect, description, bind, Option.bind]
  rfl

theorem decode_array {α β : Type} {decode : Value → Option β} {slots : α → List (String × Option Item)} {result : α → β}
    (each : ∀ item, decode (tableValue (slots item)) = some (result item)) (items : List α) :
    asList decode (.array (items.map fun item => tableValue (slots item))) = some (items.map result) := by
  induction items with
  | nil => rfl
  | cons item items ih =>
    simp only [asList] at ih ⊢
    rw [List.map_cons, List.mapM_cons, each, ih]
    rfl

theorem matchSpec_eq_default {spec : MatchSpec} (general : ¬ 0 < spec.specificity) : spec = {} := by
  obtain ⟨organization, repository, workflow, gitRef, branch, environment, actor, kind⟩ := spec
  rw [Nat.not_lt, Nat.le_zero, MatchSpec.specificity, List.length_eq_zero_iff, List.filter_eq_nil_iff] at general
  simpa using general

theorem orDefault_array {α β : Type} {decode : Value → Option β} {slots : α → List (String × Option Item)}
    {result : α → β} (each : ∀ item, decode (tableValue (slots item)) = some (result item)) {items : List α}
    {table : List (String × Option Value)} (distinct : (table.map Prod.fst).Nodup) {key : String}
    (listed : (table.lookup key).join = arraySlot items slots) :
    orDefault (asList decode) (present table) key [] = some (items.map result) := by
  refine orDefault_present distinct listed ?_ ?_
  · intro absent
    unfold arraySlot at absent
    split at absent
    · rename_i empty
      rw [empty, List.map_nil]
    · cases absent
  · intro value isValue
    unfold arraySlot at isValue
    split at isValue
    · cases isValue
    · rw [← Option.some.inj isValue]
      exact decode_array each items

/-- The document is decoded as the fields it was written from. -/
theorem Policy.decode_document (policy : Policy) :
    asStruct policyFields RawPolicy.ofTable (.table policy.document.table) = some policy.raw := by
  have distinct : ((policySlots policy).map Prod.fst).Nodup := show policyFields.Nodup by decide
  have known : ∀ key ∈ (policySlots policy).map Prod.fst, key ∈ policyFields := fun _ member => member
  have named : optional asText (present (policySlots policy)) "name" = some (some policy.name) :=
    optional_text distinct rfl
  have baseline : orDefault asBool (present (policySlots policy)) "baseline" false = some policy.baseline := by
    have listed : ((policySlots policy).lookup "baseline").join =
        (if policy.baseline then some (Item.boolean true) else none).map Item.value := rfl
    refine orDefault_present distinct listed ?_ ?_
    · cases policy.baseline <;> simp
    · cases policy.baseline <;> simp [Item.value, asBool]
  have spec : orDefault (asStruct matchFields RawMatch.ofTable) (present (policySlots policy)) "match" {} =
      some policy.matchSpec.raw := by
    have listed : ((policySlots policy).lookup "match").join =
        (if 0 < policy.matchSpec.specificity then some (matchSlots policy.matchSpec) else none).map tableValue := rfl
    refine orDefault_present distinct listed ?_ ?_
    · intro absent
      split at absent
      · cases absent
      · rename_i general
        rw [matchSpec_eq_default general]
        rfl
    · intro value isValue
      split at isValue
      · rw [← Option.some.inj isValue]
        exact decode_match policy.matchSpec
      · cases isValue
  have session : orDefault (asStruct ["max_duration"] sessionOfTable) (present (policySlots policy)) "session" none =
      some (policy.session.maxDuration.map humanizeDuration) := by
    have listed : ((policySlots policy).lookup "session").join =
        (policy.session.maxDuration.map fun duration =>
          [("max_duration", some (Item.text (humanizeDuration duration)))]).map tableValue := rfl
    refine orDefault_present distinct listed ?_ ?_
    · cases policy.session.maxDuration with
      | none => exact fun _ => rfl
      | some duration => nofun
    · intro value isValue
      obtain ⟨_, isSlots, rfl⟩ := Option.map_eq_some_iff.mp isValue
      obtain ⟨duration, lasts, rfl⟩ := Option.map_eq_some_iff.mp isSlots
      rw [lasts]
      exact decode_session _
  have egress : optional (asStruct ["region", "ip_pool"] egressOfTable) (present (policySlots policy)) "egress" =
      some policy.egress := by
    have listed : ((policySlots policy).lookup "egress").join = (policy.egress.map egressSlots).map tableValue := rfl
    refine optional_present distinct listed ?_
    cases policy.egress with
    | none => rfl
    | some egress => exact congrArg some (decode_egress egress)
  have limits : orDefault (asStruct limitsFields RawLimits.ofTable) (present (policySlots policy)) "limits" {} =
      some policy.limits.raw := by
    have listed : ((policySlots policy).lookup "limits").join =
        (if policy.limits ≠ {} then some (limitsSlots policy.limits) else none).map tableValue := rfl
    refine orDefault_present distinct listed ?_ ?_
    · intro absent
      split at absent
      · cases absent
      · rename_i none
        rw [not_ne_iff.mp none]
        rfl
    · intro value isValue
      split at isValue
      · rw [← Option.some.inj isValue]
        exact decode_limits policy.limits
      · cases isValue
  have rules : orDefault (asList (asStruct ruleFields RawRule.ofTable)) (present (policySlots policy)) "rules" [] =
      some (policy.rules.map Rule.raw) := orDefault_array decode_rule distinct rfl
  have tests : orDefault (asList (asStruct testFields RawTest.ofTable)) (present (policySlots policy)) "tests" [] =
      some (policy.tests.map PolicyTest.raw) := orDefault_array decode_test distinct rfl
  rw [policy.document_table, asStruct_present known]
  simp only [RawPolicy.ofTable, named, baseline, spec, session, egress, limits, rules, tests, bind, Option.bind]
  rfl

end Skimasque.Engine
