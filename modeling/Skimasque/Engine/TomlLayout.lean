import Skimasque.Engine.Parse
import Skimasque.Library.Toml

/-! How the tables of a TOML document become a raw policy: the fields each table may hold, and their types. -/

set_option autoImplicit false

namespace Skimasque.Engine
open Library Library.Toml

/-! ## Fields -/

def asText : Value → Option String
  | .text value => some value
  | _ => none

def asBool : Value → Option Bool
  | .boolean value => some value
  | _ => none

def asNat (size : Nat) : Value → Option Nat
  | .integer value => if 0 ≤ value ∧ value < size then some value.toNat else none
  | _ => none

def asU32 (value : Value) : Option UInt32 := (asNat (2 ^ 32) value).map UInt32.ofNat

def asU64 (value : Value) : Option UInt64 := (asNat (2 ^ 64) value).map UInt64.ofNat

def asList {α : Type} (decode : Value → Option α) : Value → Option (List α)
  | .array items => items.mapM decode
  | _ => none

/-- A struct with these fields and no others. -/
def asStruct {α : Type} (fields : List String) (decode : Table → Option α) : Value → Option α
  | .table entries => if entries.all fun entry => fields.contains entry.1 then decode entries else none
  | _ => none

section
variable {α : Type} (decode : Value → Option α) (table : Table) (key : String)

def required : Option α := (table.lookup key).bind decode

def optional : Option (Option α) :=
  match table.lookup key with
  | none => some none
  | some value => (decode value).map some

/-- `#[serde(default)]`. -/
def orDefault (default : α) : Option α :=
  match table.lookup key with
  | none => some default
  | some value => decode value

end

/-! ## The structs -/

def matchFields : List String :=
  ["organization", "repository", "workflow", "ref", "branch", "environment", "actor", "kind"]

def RawMatch.ofTable (table : Table) : Option RawMatch := do
  return {
    organization := ← optional asText table "organization"
    repository := ← optional asText table "repository"
    workflow := ← optional asText table "workflow"
    gitRef := ← optional asText table "ref"
    branch := ← optional asText table "branch"
    environment := ← optional asText table "environment"
    actor := ← optional asText table "actor"
    kind := ← optional asText table "kind" }

/-- The only field of `RawSession`. -/
def sessionOfTable (table : Table) : Option (Option String) := optional asText table "max_duration"

def egressOfTable (table : Table) : Option EgressSpec := do
  return { region := ← optional asText table "region", ipPool := ← optional asText table "ip_pool" }

def limitsFields : List String :=
  ["bandwidth", "bytes", "connections", "concurrent_destinations", "connection_rate", "packets_per_second"]

def RawLimits.ofTable (table : Table) : Option RawLimits := do
  return {
    bandwidth := ← optional asText table "bandwidth"
    bytes := ← optional asText table "bytes"
    connections := ← optional asU32 table "connections"
    concurrentDestinations := ← optional asU32 table "concurrent_destinations"
    connectionRate := ← optional asText table "connection_rate"
    packetsPerSecond := ← optional asU64 table "packets_per_second" }

def ruleFields : List String := ["id", "application", "transport", "action", "destinations"]

def RawRule.ofTable (table : Table) : Option RawRule := do
  return {
    id := ← optional asText table "id"
    application := ← required asText table "application"
    transport := ← optional asText table "transport"
    action := ← required asText table "action"
    destinations := ← orDefault (asList asText) table "destinations" [] }

def testFields : List String := ["application", "destination", "transport", "expect", "description"]

def RawTest.ofTable (table : Table) : Option RawTest := do
  return {
    application := ← required asText table "application"
    destination := ← required asText table "destination"
    transport := ← optional asText table "transport"
    expect := ← required asText table "expect"
    description := ← optional asText table "description" }

def policyFields : List String := ["name", "baseline", "match", "session", "egress", "limits", "rules", "tests"]

def RawPolicy.ofTable (table : Table) : Option RawPolicy := do
  return {
    name := ← optional asText table "name"
    baseline := ← orDefault asBool table "baseline" false
    matchSpec := ← orDefault (asStruct matchFields RawMatch.ofTable) table "match" {}
    maxDuration := ← orDefault (asStruct ["max_duration"] sessionOfTable) table "session" none
    egress := ← optional (asStruct ["region", "ip_pool"] egressOfTable) table "egress"
    limits := ← orDefault (asStruct limitsFields RawLimits.ofTable) table "limits" {}
    rules := ← orDefault (asList (asStruct ruleFields RawRule.ofTable)) table "rules" []
    tests := ← orDefault (asList (asStruct testFields RawTest.ofTable)) table "tests" [] }

/-- `toml::from_str`: the document, and then its root as a struct. -/
def tomlReader (parse : String → Except String Table) (refusal : Table → String) (input : String) :
    Except String RawPolicy :=
  match parse input with
  | .error message => .error message
  | .ok table =>
    match asStruct policyFields RawPolicy.ofTable (.table table) with
    | some raw => .ok raw
    | none => .error (refusal table)

/-! ## Tables written by slots -/

section
variable {α : Type} {slots : List (String × Option Value)} {decode : Value → Option α} {key : String}

theorem optional_present (distinct : (slots.map Prod.fst).Nodup) {value : Option Value} {result : Option α}
    (listed : (slots.lookup key).join = value) (decoded : value.map decode = result.map some) :
    optional decode (present slots) key = some result := by
  rw [optional, lookup_present distinct, listed]
  cases value with
  | none =>
    cases result with
    | none => rfl
    | some decodedTo => cases decoded
  | some written =>
    cases result with
    | none => cases decoded
    | some decodedTo =>
      have same : decode written = some decodedTo := Option.some.inj decoded
      simp only [same, Option.map_some]

theorem required_present (distinct : (slots.map Prod.fst).Nodup) {value : Value} {result : α}
    (listed : (slots.lookup key).join = some value) (decoded : decode value = some result) :
    required decode (present slots) key = some result := by
  rw [required, lookup_present distinct, listed, Option.bind_some, decoded]

theorem orDefault_present (distinct : (slots.map Prod.fst).Nodup) {value : Option Value} {default result : α}
    (listed : (slots.lookup key).join = value) (absent : value = none → result = default)
    (decoded : ∀ written, value = some written → decode written = some result) :
    orDefault decode (present slots) key default = some result := by
  rw [orDefault, lookup_present distinct, listed]
  cases value with
  | none => exact congrArg some (absent rfl).symm
  | some written => exact decoded written rfl

theorem asStruct_present {fields : List String} {decode : Table → Option α}
    (known : ∀ key ∈ slots.map Prod.fst, key ∈ fields) :
    asStruct fields decode (.table (present slots)) = decode (present slots) := by
  have all : (present slots).all (fun entry => fields.contains entry.1) = true := by
    rw [List.all_eq_true]
    intro entry member
    simpa using known entry.1 (key_mem_of_mem_present member)
  rw [asStruct, if_pos all]

end

end Skimasque.Engine
