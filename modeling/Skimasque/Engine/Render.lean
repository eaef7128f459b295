import Skimasque.Engine.Learn
import Skimasque.Engine.Quantities
import Skimasque.Engine.TomlLayout

/-! Rendering a policy to the TOML a person would write. -/

set_option autoImplicit false

namespace Skimasque.Engine
open Library Library.Toml

/-! ## What is written -/

def WorkloadKind.asStr : WorkloadKind → String
  | .developer => "developer"
  | .ci => "ci"
  | .agent => "agent"

def Transport.asStr : Transport → String
  | .tcp => "tcp"
  | .udp => "udp"

def Action.asStr : Action → String
  | .allow => "allow"
  | .deny => "deny"

/-- `str::replace` of one character. -/
def replace (c : Char) (replacement : List Char) (text : List Char) : List Char :=
  text.flatMap fun d => if d = c then replacement else [d]

/-- Only the quote and the backslash are escaped. -/
def quote (value : String) : String :=
  "\"" ++ String.ofList (replace '"' ['\\', '"'] (replace '\\' ['\\', '\\'] value.toList)) ++ "\""

/-- One line, or none where there is no value. -/
def written (key : String) (value : Option String) : List String :=
  match value with
  | some text => [key ++ " = " ++ text]
  | none => []

def MatchSpec.texts (spec : MatchSpec) : List (String × Option String) :=
  [("organization", spec.organization), ("repository", spec.repository), ("workflow", spec.workflow),
    ("ref", spec.gitRef), ("branch", spec.branch), ("environment", spec.environment), ("actor", spec.actor)]

def MatchSpec.toToml (spec : MatchSpec) : List String :=
  if 0 < spec.specificity then
    ["", "[match]"] ++ (spec.texts.flatMap fun entry => written entry.1 (entry.2.map quote)) ++
      written "kind" (spec.kind.map fun kind => quote kind.asStr)
  else []

def SessionSpec.toToml (session : SessionSpec) : List String :=
  match session.maxDuration with
  | some duration => ["", "[session]", "max_duration = " ++ quote (humanizeDuration duration)]
  | none => []

def EgressSpec.toToml (egress : EgressSpec) : List String :=
  ["", "[egress]"] ++ written "region" (egress.region.map quote) ++ written "ip_pool" (egress.ipPool.map quote)

def Limits.toToml (limits : Limits) : List String :=
  if limits ≠ {} then
    ["", "[limits]"] ++
      written "bandwidth" (limits.bandwidthBitsPerSec.map fun bits => quote (humanizeDecimal bits "bps")) ++
      written "bytes" (limits.totalBytes.map fun bytes => quote (humanizeDecimal bytes "B")) ++
      written "connections" (limits.concurrentConnections.map fun n => toString n.toNat) ++
      written "concurrent_destinations" (limits.concurrentDestinations.map fun n => toString n.toNat) ++
      written "connection_rate" (limits.connectionRate.map fun rate => quote (humanizeRate rate)) ++
      written "packets_per_second" (limits.packetsPerSec.map fun pps => toString pps.toNat)
  else []

def Rule.toToml (rule : Rule) : List String :=
  ["", "[[rules]]"] ++ written "id" (rule.id.map quote) ++ ["application = " ++ quote (appText rule.application)] ++
    written "transport" (rule.transport.asWord.map quote) ++ ["action = " ++ quote rule.action.asStr] ++
    ["destinations = ["] ++ rule.destinations.map (fun dest => "    " ++ quote dest.raw ++ ",") ++ ["]"]

def PolicyTest.toToml (test : PolicyTest) : List String :=
  ["", "[[tests]]", "application = " ++ quote test.application] ++
    written "transport" (test.transport.map fun transport => quote transport.asStr) ++
    ["destination = " ++ quote test.destination, "expect = " ++ quote test.expect.asStr]

def Policy.toToml (policy : Policy) : String :=
  unlines (["name = " ++ quote policy.name] ++ (if policy.baseline then ["baseline = true"] else []) ++
    policy.matchSpec.toToml ++ policy.session.toToml ++ (policy.egress.map EgressSpec.toToml).getD [] ++
    policy.limits.toToml ++ policy.rules.flatMap Rule.toToml ++ policy.tests.flatMap PolicyTest.toToml)

/-! ## The document that is written -/

def matchSlots (spec : MatchSpec) : List (String × Option Item) :=
  (spec.texts ++ [("kind", spec.kind.map WorkloadKind.asStr)]).map fun entry => (entry.1, entry.2.map Item.text)

def egressSlots (egress : EgressSpec) : List (String × Option Item) :=
  [("region", egress.region.map .text), ("ip_pool", egress.ipPool.map .text)]

def limitsSlots (limits : Limits) : List (String × Option Item) :=
  [("bandwidth", limits.bandwidthBitsPerSec.map fun bits => .text (humanizeDecimal bits "bps")),
    ("bytes", limits.totalBytes.map fun bytes => .text (humanizeDecimal bytes "B")),
    ("connections", limits.concurrentConnections.map fun n => .integer n.toNat),
    ("concurrent_destinations", limits.concurrentDestinations.map fun n => .integer n.toNat),
    ("connection_rate", limits.connectionRate.map fun rate => .text (humanizeRate rate)),
    ("packets_per_second", limits.packetsPerSec.map fun pps => .integer pps.toNat)]

def ruleSlots (rule : Rule) : List (String × Option Item) :=
  [("id", rule.id.map .text), ("application", some (.text (appText rule.application))),
    ("transport", rule.transport.asWord.map .text), ("action", some (.text rule.action.asStr)),
    ("destinations", some (.texts (rule.destinations.map DestinationSpec.raw)))]

def testSlots (test : PolicyTest) : List (String × Option Item) :=
  [("application", some (.text test.application)), ("transport", test.transport.map fun transport => .text transport.asStr),
    ("destination", some (.text test.destination)), ("expect", some (.text test.expect.asStr))]

/-- The tables that are written, each with its entries. -/
def tableSlots (policy : Policy) : List (String × Option (List (String × Option Item))) :=
  [("match", if 0 < policy.matchSpec.specificity then some (matchSlots policy.matchSpec) else none),
    ("session", policy.session.maxDuration.map fun duration => [("max_duration", some (.text (humanizeDuration duration)))]),
    ("egress", policy.egress.map egressSlots),
    ("limits", if policy.limits ≠ {} then some (limitsSlots policy.limits) else none)]

def rootSlots (policy : Policy) : List (String × Option Item) :=
  [("name", some (.text policy.name)), ("baseline", if policy.baseline then some (.boolean true) else none)]

def Policy.document (policy : Policy) : Document where
  root := present (rootSlots policy)
  parts := (present (tableSlots policy)).map (fun entry => ⟨.table entry.1, present entry.2⟩) ++
    policy.rules.map (fun rule => ⟨.element "rules", present (ruleSlots rule)⟩) ++
    policy.tests.map (fun test => ⟨.element "tests", present (testSlots test)⟩)

theorem quote_eq_basicString (value : String) : quote value = basicString value := by
  have chars : replace '"' ['\\', '"'] (replace '\\' ['\\', '\\'] value.toList) = value.toList.flatMap escape := by
    rw [replace, replace, List.flatMap_assoc]
    congr 1
    funext c
    by_cases slash : c = '\\'
    · subst slash
      rfl
    · by_cases mark : c = '"'
      · subst mark
        rfl
      · simp [escape, slash, mark]
  rw [quote, basicString, chars]

/-- The lines of entries that may be left out. -/
def slotLines (slots : List (String × Option Item)) : List String := (present slots).flatMap entryLines

theorem slotLines_cons (key : String) (value : Option Item) (slots : List (String × Option Item)) :
    slotLines ((key, value) :: slots) = (value.toList.flatMap fun item => entryLines (key, item)) ++ slotLines slots := by
  cases value with
  | none => rfl
  | some item => simp [slotLines, present_cons_some]

theorem slotLines_text (key : String) (text : Option String) :
    ((text.map Item.text).toList.flatMap fun item => entryLines (key, item)) = written key (text.map quote) := by
  cases text with
  | none => rfl
  | some text => simp [entryLines, written, quote_eq_basicString]

theorem slotLines_map (slots : List (String × Option String)) :
    slotLines (slots.map fun entry => (entry.1, entry.2.map Item.text)) =
      slots.flatMap fun entry => written entry.1 (entry.2.map quote) := by
  induction slots with
  | nil => rfl
  | cons slot slots ih =>
    rw [List.map_cons, slotLines_cons, slotLines_text, ih, List.flatMap_cons]

theorem slotLines_matchSlots (spec : MatchSpec) :
    slotLines (matchSlots spec) =
      (spec.texts.flatMap fun entry => written entry.1 (entry.2.map quote)) ++
        written "kind" (spec.kind.map fun kind => quote kind.asStr) := by
  rw [matchSlots, slotLines_map, List.flatMap_append]
  cases spec.kind with
  | none => simp
  | some kind => simp

theorem slotLines_integer (key : String) (number : Option Nat) :
    ((number.map Item.integer).toList.flatMap fun item => entryLines (key, item)) =
      written key (number.map fun n => toString n) := by
  cases number with
  | none => rfl
  | some number => simp [entryLines, written]

theorem slotLines_limitsSlots (limits : Limits) :
    slotLines (limitsSlots limits) =
      written "bandwidth" (limits.bandwidthBitsPerSec.map fun bits => quote (humanizeDecimal bits "bps")) ++
      written "bytes" (limits.totalBytes.map fun bytes => quote (humanizeDecimal bytes "B")) ++
      written "connections" (limits.concurrentConnections.map fun n => toString n.toNat) ++
      written "concurrent_destinations" (limits.concurrentDestinations.map fun n => toString n.toNat) ++
      written "connection_rate" (limits.connectionRate.map fun rate => quote (humanizeRate rate)) ++
      written "packets_per_second" (limits.packetsPerSec.map fun pps => toString pps.toNat) := by
  have texts {α : Type} (key : String) (value : Option α) (write : α → String) :
      ((value.map fun x => Item.text (write x)).toList.flatMap fun item => entryLines (key, item)) =
        written key (value.map fun x => quote (write x)) := by
    simpa [Option.map_map, Function.comp_def] using slotLines_text key (value.map write)
  have numbers {α : Type} (key : String) (value : Option α) (count : α → Nat) :
      ((value.map fun x => Item.integer (count x)).toList.flatMap fun item => entryLines (key, item)) =
        written key (value.map fun x => toString (count x)) := by
    simpa [Option.map_map, Function.comp_def] using slotLines_integer key (value.map count)
  simp only [limitsSlots, slotLines_cons, texts, numbers, List.append_assoc]
  simp [slotLines, present]

theorem slotLines_required (key text : String) (slots : List (String × Option Item)) :
    slotLines ((key, some (.text text)) :: slots) = [key ++ " = " ++ quote text] ++ slotLines slots := by
  rw [slotLines_cons, quote_eq_basicString]
  rfl

theorem slotLines_rootSlots (policy : Policy) :
    slotLines (rootSlots policy) =
      ["name = " ++ quote policy.name] ++ if policy.baseline then ["baseline = true"] else [] := by
  rw [rootSlots, slotLines_required, slotLines_cons]
  cases policy.baseline with
  | false => rfl
  | true => rfl

theorem slotLines_egressSlots (egress : EgressSpec) :
    slotLines (egressSlots egress) =
      written "region" (egress.region.map quote) ++ written "ip_pool" (egress.ipPool.map quote) := by
  rw [egressSlots, slotLines_cons, slotLines_cons, slotLines_text, slotLines_text]
  simp [slotLines, present]

theorem partLines_rule (rule : Rule) : partLines ⟨.element "rules", present (ruleSlots rule)⟩ = rule.toToml := by
  change ["", "[[rules]]"] ++ slotLines (ruleSlots rule) = rule.toToml
  have destinations : slotLines [("destinations", some (.texts (rule.destinations.map DestinationSpec.raw)))] =
      ["destinations = ["] ++ rule.destinations.map (fun dest => "    " ++ quote dest.raw ++ ",") ++ ["]"] := by
    simp only [slotLines, present_cons_some, List.flatMap_cons, entryLines, List.map_map, Function.comp_def,
      ← quote_eq_basicString]
    simp [present]
  rw [ruleSlots, slotLines_cons, slotLines_text, slotLines_required, slotLines_cons, slotLines_text, slotLines_required,
    destinations, show "application" ++ " = " = "application = " by decide, show "action" ++ " = " = "action = " by decide]
  simp only [Rule.toToml, List.append_assoc]

theorem partLines_test (test : PolicyTest) : partLines ⟨.element "tests", present (testSlots test)⟩ = test.toToml := by
  change ["", "[[tests]]"] ++ slotLines (testSlots test) = test.toToml
  have transport : ((test.transport.map fun transport => Item.text transport.asStr).toList.flatMap fun item =>
      entryLines ("transport", item)) = written "transport" (test.transport.map fun transport => quote transport.asStr) := by
    simpa [Option.map_map, Function.comp_def] using slotLines_text "transport" (test.transport.map Transport.asStr)
  rw [testSlots, slotLines_required, slotLines_cons, transport, slotLines_required, slotLines_required]
  simp [PolicyTest.toToml, slotLines, present]

/-- The lines of one table that may be left out. -/
def tableLines (slot : String × Option (List (String × Option Item))) : List String :=
  match slot.2 with
  | some slots => ["", "[" ++ slot.1 ++ "]"] ++ slotLines slots
  | none => []

theorem present_tables_lines (tables : List (String × Option (List (String × Option Item)))) :
    ((present tables).map fun entry => (⟨.table entry.1, present entry.2⟩ : Part)).flatMap partLines =
      tables.flatMap tableLines := by
  induction tables with
  | nil => rfl
  | cons slot tables ih =>
    obtain ⟨key, slots⟩ := slot
    cases slots with
    | none => exact ih
    | some slots =>
      rw [present_cons_some, List.map_cons, List.flatMap_cons, List.flatMap_cons, ih]
      rfl

theorem tableLines_tableSlots (policy : Policy) :
    (tableSlots policy).flatMap tableLines =
      policy.matchSpec.toToml ++ policy.session.toToml ++ (policy.egress.map EgressSpec.toToml).getD [] ++
        policy.limits.toToml := by
  have spec : tableLines ("match", if 0 < policy.matchSpec.specificity then some (matchSlots policy.matchSpec) else none) =
      policy.matchSpec.toToml := by
    unfold MatchSpec.toToml
    split
    · simp only [tableLines, slotLines_matchSlots, List.append_assoc]
      rfl
    · rfl
  have session : tableLines ("session", policy.session.maxDuration.map fun duration =>
      [("max_duration", some (.text (humanizeDuration duration)))]) = policy.session.toToml := by
    unfold SessionSpec.toToml
    cases policy.session.maxDuration with
    | none => rfl
    | some duration =>
      simp only [Option.map_some, tableLines, slotLines_required]
      rfl
  have egress : tableLines ("egress", policy.egress.map egressSlots) = (policy.egress.map EgressSpec.toToml).getD [] := by
    cases policy.egress with
    | none => rfl
    | some egress =>
      simp only [Option.map_some, tableLines, slotLines_egressSlots, Option.getD_some, EgressSpec.toToml, List.append_assoc]
      rfl
  have limits : tableLines ("limits", if policy.limits ≠ {} then some (limitsSlots policy.limits) else none) =
      policy.limits.toToml := by
    unfold Limits.toToml
    split
    · simp only [tableLines, slotLines_limitsSlots, List.append_assoc]
      rfl
    · rfl
  simp only [tableSlots, List.flatMap_cons, List.flatMap_nil, spec, session, egress, limits, List.append_assoc,
    List.append_nil]

/-- What is written is the document. -/
theorem Policy.toToml_eq (policy : Policy) : policy.toToml = policy.document.text := by
  have rules : (policy.rules.map fun rule => (⟨.element "rules", present (ruleSlots rule)⟩ : Part)).flatMap partLines =
      policy.rules.flatMap Rule.toToml := by
    simp only [List.flatMap_map, partLines_rule]
  have tests : (policy.tests.map fun test => (⟨.element "tests", present (testSlots test)⟩ : Part)).flatMap partLines =
      policy.tests.flatMap PolicyTest.toToml := by
    simp only [List.flatMap_map, partLines_test]
  have root := slotLines_rootSlots policy
  unfold slotLines at root
  rw [Document.text, Document.lines, Policy.document, List.flatMap_append, List.flatMap_append, rules, tests,
    present_tables_lines, tableLines_tableSlots, root, Policy.toToml]
  simp only [List.append_assoc]

end Skimasque.Engine
