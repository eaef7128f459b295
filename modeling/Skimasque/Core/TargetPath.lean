import Skimasque.Core.TargetText
import Skimasque.Core.TemplateExpansion

/-! Targets in request paths: the client expands a template with a target, and the proxy recovers it. -/

set_option autoImplicit false

namespace Skimasque.Core
open Library Library.Address Library.Pattern

/-- The form that goes into the `target_host` variable. -/
def TargetHost.toVariable : TargetHost → String
  | .ip (.v4 bits) => v4Text bits
  | .ip (.v6 bits) => v6Text bits
  | .name text => text

/-- What a path can be refused for. -/
inductive PathError where
  | target (error : TargetError)
  | pathDoesNotMatch (path : String)
  | template (error : TemplateError)
  deriving DecidableEq, Repr

def Target.values (target : Target) : Values :=
  ((∅ : Values).insert "target_host" target.host.toVariable).insert "target_port" (toString target.port.toNat)

def Target.expandPath (target : Target) (template : UriTemplate) : Except PathError String :=
  (template.expandPath target.values).mapError .template

def Target.fromPath (template : UriTemplate) (path : String) : Except PathError Target :=
  match template.matchPath path with
  | none => .error (.pathDoesNotMatch path)
  | some values =>
    match values.lookup "target_host", values.lookup "target_port" with
    | some host, some port =>
      match Text.parseU16 port with
      | none => .error (.target (.invalidPort port))
      | some number =>
        match TargetHost.parse host with
        | .error error => .error (.target error)
        | .ok host => (Target.new host number).mapError .target
    | _, _ => .error (.pathDoesNotMatch path)

/-- Every simple expression is followed by the end, by a query expression or by a literal that no value runs into. -/
def Delimited : List Part → Prop
  | [] => True
  | .simple _ :: parts => (match parts with
    | [] | .query _ :: _ | .queryContinuation _ :: _ => True
    | .literal text :: _ => ∃ c ∈ text.toList.head?, isExpansionSafe c = false
    | .simple _ :: _ => False) ∧ Delimited parts
  | _ :: parts => Delimited parts

theorem Delimited.separated {parts : List Part} (delimited : Delimited parts) (placed : WellPlaced parts) :
    Separated isExpansionSafe (items parts) := by
  induction parts with
  | nil => trivial
  | cons part parts ih =>
    cases part with
    | literal text => exact ih delimited placed.2
    | query names => exact ih delimited placed.2
    | queryContinuation names => exact ih delimited placed.2
    | simple name =>
      obtain ⟨next, tail⟩ := delimited
      refine ⟨?_, ih tail placed.2⟩
      cases parts with
      | nil => exact .inl rfl
      | cons part parts =>
        cases part with
        | simple name => exact next.elim
        | literal text =>
          obtain ⟨c, first, unsafe'⟩ := next
          obtain ⟨rest, whole⟩ := List.head?_eq_some_iff.mp first
          refine .inr ⟨c, rest, items parts, ?_, unsafe'⟩
          rw [← whole]
          rfl
        | query names =>
          obtain ⟨rfl, _⟩ := placed.2.1 rfl
          exact .inl rfl
        | queryContinuation names =>
          obtain ⟨rfl, _⟩ := placed.2.1 rfl
          exact .inl rfl

/-- The values of a delimited template are the only way to read its path. -/
theorem Delimited.longestSplit {parts : List Part} {values : Values} (delimited : Delimited parts) (placed : WellPlaced parts)
    (filled : Filled values (parts.flatMap Part.names)) : LongestSplit values parts := by
  intro other fills spelled longer
  have own : Reads IsPiece (items parts) (spell (items parts) (encodedPieces values parts)) (encodedPieces values parts) [] :=
    reads_iff.mpr ⟨encodedPieces_fill filled, (List.append_nil _).symm⟩
  have second : Reads IsPiece (items parts) (spell (items parts) (encodedPieces values parts)) other [] :=
    reads_iff.mpr ⟨fills, by rw [spelled, List.append_nil]⟩
  have same := second.unique (fun _ fit => fit.2.1) (delimited.separated placed) own nofun nofun
  rw [same] at longer
  exact longer_irrefl _ longer

/-! ## Variables without a value -/

section
variable {values : Values} (filled : ∀ name value, values.lookup name = some value → value ≠ "")
include filled

theorem lookupValue_cases (name : String) : (∃ value, values.lookup name = some value ∧ lookupValue values name = .ok value) ∨
    lookupValue values name = .error (.undefinedVariable name) := by
  cases known : values.lookup name with
  | none => exact .inr (by rw [lookupValue, known])
  | some value => exact .inl ⟨value, rfl, lookupValue_eq known (filled name value known)⟩

theorem expandQuery_undefined {names : List String} (missing : ∃ name ∈ names, values.lookup name = none) (separator : Char) :
    ∃ name, expandQuery values names separator = .error (.undefinedVariable name) := by
  induction names generalizing separator with
  | nil =>
    obtain ⟨name, member, _⟩ := missing
    cases member
  | cons name names ih =>
    rw [expandQuery]
    rcases lookupValue_cases filled name with ⟨value, known, found⟩ | undefined
    · obtain ⟨other, member, absent⟩ := missing
      cases List.mem_cons.mp member with
      | inl same =>
        rw [same, known] at absent
        cases absent
      | inr later =>
        obtain ⟨culprit, failed⟩ := ih ⟨other, later, absent⟩ '&'
        exact ⟨culprit, by simp only [found, failed, bind, Except.bind]⟩
    · exact ⟨name, by simp only [undefined, bind, Except.bind]⟩

theorem expandPart_undefined {part : Part} (missing : ∃ name ∈ part.names, values.lookup name = none) :
    ∃ name, part.expand values = .error (.undefinedVariable name) := by
  cases part with
  | literal text =>
    obtain ⟨name, member, _⟩ := missing
    cases member
  | simple name =>
    obtain ⟨other, member, absent⟩ := missing
    rw [List.mem_singleton.mp member] at absent
    rcases lookupValue_cases filled name with ⟨value, known, _⟩ | undefined
    · rw [known] at absent
      cases absent
    · exact ⟨name, by simp only [Part.expand, undefined, bind, Except.bind]⟩
  | query names => exact expandQuery_undefined filled missing '?'
  | queryContinuation names => exact expandQuery_undefined filled missing '&'

/-- A variable without a value is what expansion fails for. -/
theorem expandParts_undefined {parts : List Part} (missing : ∃ name ∈ parts.flatMap Part.names, values.lookup name = none) :
    ∃ name, expandParts values parts = .error (.undefinedVariable name) := by
  induction parts with
  | nil =>
    obtain ⟨name, member, _⟩ := missing
    cases member
  | cons part parts ih =>
    rw [expandParts]
    by_cases here : ∃ name ∈ part.names, values.lookup name = none
    · obtain ⟨name, failed⟩ := expandPart_undefined filled here
      exact ⟨name, by simp only [failed, bind, Except.bind]⟩
    · obtain ⟨name, member, absent⟩ := missing
      rw [List.flatMap_cons, List.mem_append] at member
      have later : name ∈ parts.flatMap Part.names := member.resolve_left fun inside => here ⟨name, inside, absent⟩
      have front : Filled values part.names := by
        intro name inside
        cases known : values.lookup name with
        | none => exact absurd ⟨name, inside, known⟩ here
        | some value => exact ⟨value, rfl, filled name value known⟩
      obtain ⟨text, expanded⟩ := expandPart_filled front
      obtain ⟨culprit, failed⟩ := ih ⟨name, later, absent⟩
      exact ⟨culprit, by simp only [expanded, failed, bind, Except.bind]⟩

end

/-! ## The default templates -/

/-- The parts of a template for targets under a path of its own. -/
def defaultParts (path : List Char) : List Part :=
  [.literal (String.ofList path), .simple "target_host", .literal "/", .simple "target_port", .literal "/"]

theorem parseParts_default {path : List Char} (clear : '{' ∉ path) (filled : path ≠ []) :
    parseParts (path ++ "\x7btarget_host\x7d/\x7btarget_port\x7d/".toList) = .ok (defaultParts path) := by
  have opens : Text.splitAtFirst '{' (path ++ "\x7btarget_host\x7d/\x7btarget_port\x7d/".toList) =
      some (path, "target_host\x7d/\x7btarget_port\x7d/".toList) := Text.splitAtFirst_eq_some_iff.mpr ⟨rfl, clear⟩
  have closes : Text.splitAtFirst '}' "target_host\x7d/\x7btarget_port\x7d/".toList =
      some ("target_host".toList, "/\x7btarget_port\x7d/".toList) := by decide
  have opensPort : Text.splitAtFirst '{' "/\x7btarget_port\x7d/".toList = some (['/'], "target_port\x7d/".toList) := by decide
  have closesPort : Text.splitAtFirst '}' "target_port\x7d/".toList = some ("target_port".toList, ['/']) := by decide
  have host : parseExpression "target_host".toList = .ok (.simple "target_host") := by decide +kernel
  have port : parseExpression "target_port".toList = .ok (.simple "target_port") := by decide +kernel
  have pushed : pushLiteral [] path = [.literal (String.ofList path)] := by
    rw [pushLiteral, if_neg (by simpa using filled), List.nil_append]
  rw [parseParts, scanParts_open opens closes, host, Except.bind, scanParts_open opensPort closesPort, port, Except.bind,
    scanParts_end (by decide), pushed]
  rfl

theorem parse_default {authority text : String} {path : List Char} (plain : '/' ∉ authority.toList) (clear : '{' ∉ '/' :: path)
    (whole : text.toList = "https://".toList ++ authority.toList ++
      ('/' :: path ++ "\x7btarget_host\x7d/\x7btarget_port\x7d/".toList))
    {template : UriTemplate} (parsed : UriTemplate.parse text = .ok template) :
    template.parts = defaultParts ('/' :: path) ∧ template.variableNames = ["target_host", "target_port"] := by
  obtain ⟨⟨scheme, host, pathAndQuery⟩, split, parsed⟩ := Result.bind_eq_ok_iff.mp parsed
  have pathEq : pathAndQuery = '/' :: path ++ "\x7btarget_host\x7d/\x7btarget_port\x7d/".toList := by
    have marked : Text.splitAtText [':', '/', '/'] text.toList = some ("https".toList, authority.toList ++
        ('/' :: path ++ "\x7btarget_host\x7d/\x7btarget_port\x7d/".toList)) := by
      rw [whole]
      rfl
    have slash : Text.splitAtFirst '/' (authority.toList ++ ('/' :: path ++ "\x7btarget_host\x7d/\x7btarget_port\x7d/".toList)) =
        some (authority.toList, path ++ "\x7btarget_host\x7d/\x7btarget_port\x7d/".toList) :=
      Text.splitAtFirst_eq_some_iff.mpr ⟨rfl, plain⟩
    unfold splitTemplate at split
    split at split
    · cases split
    · simp only [marked, slash] at split
      split_ifs at split
      cases split
      rfl
  rw [pathEq] at parsed
  simp only [parseParts_default clear (List.cons_ne_nil _ _), Result.bind_eq_ok_iff] at parsed
  obtain ⟨parts, same, names, collected, built⟩ := parsed
  cases same
  cases built
  have collected : [].append ["target_host", "target_port"] = names := Except.ok.inj collected
  exact ⟨rfl, collected.symm⟩

theorem defaultParts_delimited (path : List Char) : Delimited (defaultParts path) :=
  ⟨⟨'/', rfl, by decide⟩, ⟨'/', rfl, by decide⟩, trivial⟩

/-- The default templates of an authority are delimited, with the two variables of a target. -/
theorem default_template_delimited {authority : String} (plain : '/' ∉ authority.toList) {template : UriTemplate}
    (parsed : UriTemplate.defaultConnectUdp authority = .ok template ∨ UriTemplate.defaultConnectTcp authority = .ok template) :
    template.variableNames = ["target_host", "target_port"] ∧ Delimited template.parts := by
  have udp : ("https://" ++ authority ++ "/.well-known/masque/udp/\x7btarget_host\x7d/\x7btarget_port\x7d/").toList =
      "https://".toList ++ authority.toList ++ ('/' :: ".well-known/masque/udp/".toList ++
        "\x7btarget_host\x7d/\x7btarget_port\x7d/".toList) := by
    rw [String.toList_append, String.toList_append]
    rfl
  have tcp : ("https://" ++ authority ++ "/.well-known/masque/tcp/\x7btarget_host\x7d/\x7btarget_port\x7d/").toList =
      "https://".toList ++ authority.toList ++ ('/' :: ".well-known/masque/tcp/".toList ++
        "\x7btarget_host\x7d/\x7btarget_port\x7d/".toList) := by
    rw [String.toList_append, String.toList_append]
    rfl
  rcases parsed with parsed | parsed
  · obtain ⟨parts, names⟩ := parse_default plain (by decide) udp parsed
    exact ⟨names, parts ▸ defaultParts_delimited _⟩
  · obtain ⟨parts, names⟩ := parse_default plain (by decide) tcp parsed
    exact ⟨names, parts ▸ defaultParts_delimited _⟩

/-! ## Targets through a path -/

/-- The target was read from a text and has a host. -/
def Target.Named (target : Target) : Prop := (∃ source, Target.parse source = .ok target) ∧ target.host ≠ .name ""

theorem Target.Named.parts {target : Target} (named : target.Named) : target.host.Readable ∧ target.port ≠ 0 := by
  obtain ⟨⟨source, parsed⟩, _⟩ := named
  obtain ⟨_, _, _, _, hostRead, positive⟩ := Target.parse_eq_ok_iff.mp parsed
  exact ⟨(TargetHost.readable_of_parse hostRead).1, positive⟩

theorem TargetHost.parse_toVariable {host : TargetHost} (readable : host.Readable) (filled : host ≠ .name "") :
    host.toVariable ≠ "" ∧ TargetHost.parse host.toVariable = .ok host := by
  have address {text : String} {addr : IpAddr} (read : AddressText.parseIpAddr text = some addr) :
      text ≠ "" ∧ TargetHost.parse text = .ok (.ip addr) := by
    have nonempty : text ≠ "" := by
      rintro rfl
      cases read
    refine ⟨nonempty, TargetHost.parse_address ?_ nonempty (notMem_of_parseIpAddr (by decide) read)⟩
    rw [unbracketedHost_clear (notMem_of_parseIpAddr (by decide) read), read]
  cases host with
  | ip addr =>
    cases addr with
    | v4 bits => exact address (AddressText.parseIpAddr_v4Text bits)
    | v6 bits => exact address (AddressText.parseIpAddr_v6Text bits)
  | name text =>
    have nonempty : text ≠ "" := fun empty => filled (congrArg TargetHost.name empty)
    exact ⟨nonempty, TargetHost.parse_name readable nonempty⟩

theorem Target.lookup_host (target : Target) : target.values.lookup "target_host" = some target.host.toVariable := by
  rw [Target.values, Finmap.lookup_insert_of_ne _ (by decide), Finmap.lookup_insert]

theorem Target.lookup_port (target : Target) : target.values.lookup "target_port" = some (toString target.port.toNat) := by
  rw [Target.values, Finmap.lookup_insert]

theorem Target.mem_values {target : Target} {name : String} :
    name ∈ target.values ↔ name = "target_host" ∨ name = "target_port" := by
  simp [Target.values, Finmap.notMem_empty, or_comm]

theorem Target.Named.filled {target : Target} (named : target.Named) :
    ∀ name value, target.values.lookup name = some value → value ≠ "" := by
  intro name value known
  have member : name ∈ target.values := Finmap.mem_iff.mpr ⟨value, known⟩
  rcases Target.mem_values.mp member with rfl | rfl
  · rw [Target.lookup_host] at known
    rw [← Option.some.inj known]
    exact (TargetHost.parse_toVariable named.parts.1 named.2).1
  · rw [Target.lookup_port] at known
    rw [← Option.some.inj known]
    intro empty
    have number := Text.parseU16_toString target.port
    rw [empty] at number
    cases number

section
variable {template : UriTemplate}

/-- With no further variables a target comes back from its path. -/
theorem Target.Named.survives {target : Target} (named : target.Named) (sound : template.Sound)
    (hasHost : "target_host" ∈ template.variableNames) (hasPort : "target_port" ∈ template.variableNames)
    (delimited : Delimited template.parts)
    (only : ∀ name ∈ template.variableNames, name = "target_host" ∨ name = "target_port") :
    ∃ path, target.expandPath template = .ok path ∧ Target.fromPath template path = .ok target := by
  have filled : Filled target.values template.variableNames := by
    intro name member
    obtain ⟨value, known⟩ := Finmap.mem_iff.mp (Target.mem_values.mpr (only name member))
    exact ⟨value, known, named.filled name value known⟩
  have known : ∀ name ∈ target.values, name ∈ template.variableNames := by
    intro name member
    rcases Target.mem_values.mp member with rfl | rfl
    · exact hasHost
    · exact hasPort
  have plain : ∀ name ∈ queryNames template.parts, PlainKey name := by
    intro name member
    have inside : name ∈ template.variableNames := by
      rw [sound.names]
      obtain ⟨part, partMember, listed⟩ := List.mem_flatMap.mp member
      exact List.mem_flatMap.mpr ⟨part, List.mem_of_mem_filter partMember, listed⟩
    rcases only name inside with rfl | rfl <;> exact ⟨by decide, by decide, by decide⟩
  have expanded : ∃ path, template.expandPath target.values = .ok path := by
    rw [UriTemplate.expandPath, expandParts_eq (sound.names ▸ filled) sound.placed]
    exact ⟨_, rfl⟩
  obtain ⟨path, expanded⟩ := expanded
  have matched := (matchPath_expanded_iff sound filled known expanded).mpr
    ⟨plain, delimited.longestSplit sound.placed (sound.names ▸ filled)⟩
  refine ⟨path, by rw [Target.expandPath, expanded]; rfl, ?_⟩
  obtain ⟨readable, positive⟩ := named.parts
  simp only [Target.fromPath, matched, Target.lookup_host, Target.lookup_port, Text.parseU16_toString,
    (TargetHost.parse_toVariable readable named.2).2, Target.new, if_neg positive]
  rfl

/-- With a further variable no target has a path. -/
theorem Target.Named.undefined {target : Target} (named : target.Named) (sound : template.Sound)
    (more : ∃ name ∈ template.variableNames, name ≠ "target_host" ∧ name ≠ "target_port") :
    ∃ name, target.expandPath template = .error (.template (.undefinedVariable name)) := by
  obtain ⟨name, member, notHost, notPort⟩ := more
  rw [sound.names] at member
  have absent : target.values.lookup name = none :=
    Finmap.lookup_eq_none.mpr fun inside => (Target.mem_values.mp inside).elim notHost notPort
  obtain ⟨culprit, failed⟩ := expandParts_undefined named.filled ⟨name, member, absent⟩
  exact ⟨culprit, by rw [Target.expandPath, UriTemplate.expandPath, failed]; rfl⟩

end

/-- Targets survive the path of a delimited template whose variables are those of a target, and no two have the same
path; with a further variable there is no path. The default templates are of the first kind. -/
theorem targets_survive_the_path {text : String} {template : UriTemplate} (parsed : UriTemplate.parse text = .ok template)
    (hasHost : "target_host" ∈ template.variableNames) (hasPort : "target_port" ∈ template.variableNames)
    (delimited : Delimited template.parts) :
    ((∀ name ∈ template.variableNames, name = "target_host" ∨ name = "target_port") → ∀ target : Target, target.Named →
      ∃ path, target.expandPath template = .ok path ∧ Target.fromPath template path = .ok target) ∧
    (∀ left right : Target, left.Named → right.Named → ∀ path, left.expandPath template = .ok path →
      right.expandPath template = .ok path → left = right) ∧
    ((∃ name ∈ template.variableNames, name ≠ "target_host" ∧ name ≠ "target_port") → ∀ target : Target, target.Named →
      ∃ name, target.expandPath template = .error (.template (.undefinedVariable name))) ∧
    ∀ authority, '/' ∉ authority.toList → ∀ template,
      UriTemplate.defaultConnectUdp authority = .ok template ∨ UriTemplate.defaultConnectTcp authority = .ok template →
        template.variableNames = ["target_host", "target_port"] ∧ Delimited template.parts := by
  have sound := UriTemplate.sound_of_parse parsed
  refine ⟨fun only target named => named.survives sound hasHost hasPort delimited only, ?_,
    fun more target named => named.undefined sound more, fun authority plain template => default_template_delimited plain⟩
  intro left right leftNamed rightNamed path leftPath rightPath
  have only : ∀ name ∈ template.variableNames, name = "target_host" ∨ name = "target_port" := by
    by_contra more
    push Not at more
    obtain ⟨name, failed⟩ := leftNamed.undefined sound more
    rw [failed] at leftPath
    cases leftPath
  obtain ⟨leftOwn, leftExpanded, leftBack⟩ := leftNamed.survives sound hasHost hasPort delimited only
  obtain ⟨rightOwn, rightExpanded, rightBack⟩ := rightNamed.survives sound hasHost hasPort delimited only
  rw [leftPath] at leftExpanded
  rw [rightPath] at rightExpanded
  cases leftExpanded
  cases rightExpanded
  rw [leftBack] at rightBack
  exact Except.ok.inj rightBack

/-- The default template of the authority `e`. -/
def sampleTemplate : UriTemplate where
  scheme := "https"
  authority := "e"
  parts := defaultParts "/.well-known/masque/udp/".toList
  variableNames := ["target_host", "target_port"]
  raw := "https://e/.well-known/masque/udp/\x7btarget_host\x7d/\x7btarget_port\x7d/"

theorem sampleTemplate_parses :
    UriTemplate.parse "https://e/.well-known/masque/udp/\x7btarget_host\x7d/\x7btarget_port\x7d/" = .ok sampleTemplate :=
  UriTemplate.parse_eq (by decide +kernel) (parseParts_default (by decide) (List.cons_ne_nil _ _)) (by decide)

theorem named_of_parse {text : String} {target : Target} (parsed : Target.parse text = .ok target)
    (filled : target.host ≠ .name "") : target.Named := ⟨⟨text, parsed⟩, filled⟩

theorem sample_target_survives : ∃ path, Target.expandPath ⟨.name "dns.example", 853⟩ sampleTemplate = .ok path ∧
    Target.fromPath sampleTemplate path = .ok ⟨.name "dns.example", 853⟩ :=
  (targets_survive_the_path sampleTemplate_parses (by decide) (by decide) (defaultParts_delimited _)).1 (by decide) _
    (@named_of_parse "dns.example:853" _ (by decide) (by decide))

/-- A template with a variable more than a target has. -/
def widerTemplate : UriTemplate where
  scheme := "https"
  authority := "e"
  parts := [.literal "/", .simple "target_host", .literal "/", .simple "target_port", .query ["x"]]
  variableNames := ["target_host", "target_port", "x"]
  raw := "https://e/\x7btarget_host\x7d/\x7btarget_port\x7d\x7b?x\x7d"

theorem widerTemplate_parses : UriTemplate.parse "https://e/\x7btarget_host\x7d/\x7btarget_port\x7d\x7b?x\x7d" = .ok widerTemplate := by
  refine @UriTemplate.parse_eq _ ['h', 't', 't', 'p', 's'] ['e'] "/\x7btarget_host\x7d/\x7btarget_port\x7d\x7b?x\x7d".toList _ _
    (by decide +kernel) ?_ (by decide)
  have opens : Text.splitAtFirst '{' "/\x7btarget_host\x7d/\x7btarget_port\x7d\x7b?x\x7d".toList =
      some (['/'], "target_host\x7d/\x7btarget_port\x7d\x7b?x\x7d".toList) := by decide
  have closes : Text.splitAtFirst '}' "target_host\x7d/\x7btarget_port\x7d\x7b?x\x7d".toList =
      some ("target_host".toList, "/\x7btarget_port\x7d\x7b?x\x7d".toList) := by decide
  have opensPort : Text.splitAtFirst '{' "/\x7btarget_port\x7d\x7b?x\x7d".toList =
      some (['/'], "target_port\x7d\x7b?x\x7d".toList) := by decide
  have closesPort : Text.splitAtFirst '}' "target_port\x7d\x7b?x\x7d".toList =
      some ("target_port".toList, "\x7b?x\x7d".toList) := by decide
  have opensQuery : Text.splitAtFirst '{' "\x7b?x\x7d".toList = some ([], "?x\x7d".toList) := by decide
  have closesQuery : Text.splitAtFirst '}' "?x\x7d".toList = some (['?', 'x'], []) := by decide
  have host : parseExpression "target_host".toList = .ok (.simple "target_host") := by decide +kernel
  have port : parseExpression "target_port".toList = .ok (.simple "target_port") := by decide +kernel
  have query : parseExpression ['?', 'x'] = .ok (.query ["x"]) := by decide
  rw [parseParts, scanParts_open opens closes, host, Except.bind, scanParts_open opensPort closesPort, port, Except.bind,
    scanParts_open opensQuery closesQuery, query, Except.bind, scanParts_end rfl]
  rfl

/-- The template has both variables of a target, and is delimited, and yet a target has no path. -/
theorem wider_template_has_no_path :
    UriTemplate.parse "https://e/\x7btarget_host\x7d/\x7btarget_port\x7d\x7b?x\x7d" = .ok widerTemplate ∧
    "target_host" ∈ widerTemplate.variableNames ∧ "target_port" ∈ widerTemplate.variableNames ∧ Delimited widerTemplate.parts ∧
    Target.Named ⟨.name "dns.example", 853⟩ ∧
    ¬∃ path, Target.expandPath ⟨.name "dns.example", 853⟩ widerTemplate = .ok path ∧
      Target.fromPath widerTemplate path = .ok ⟨.name "dns.example", 853⟩ := by
  have named : Target.Named ⟨.name "dns.example", 853⟩ := @named_of_parse "dns.example:853" _ (by decide) (by decide)
  refine ⟨widerTemplate_parses, by decide, by decide, ⟨⟨'/', rfl, by decide⟩, trivial, trivial⟩, named, ?_⟩
  rintro ⟨path, expanded, _⟩
  obtain ⟨name, failed⟩ := named.undefined (UriTemplate.sound_of_parse widerTemplate_parses) ⟨"x", by decide, by decide, by decide⟩
  rw [failed] at expanded
  cases expanded

end Skimasque.Core
