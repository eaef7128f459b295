import Skimasque.Engine.Learn
import Skimasque.Engine.Parse

/-! `skimasque policy diff`: what it writes about two revisions of a set of policies, and what it leaves out. -/

set_option autoImplicit false

namespace Skimasque.Cli
open Library Engine

/-! ## The diff -/

def actionText : Action → String
  | .allow => "allow"
  | .deny => "deny"

def transportText (transport : TransportPattern) : String :=
  match transport.asWord with
  | some word => word ++ " "
  | none => ""

/-- One destination of one rule. -/
structure Line where
  action : Action
  application : AppPattern
  transport : TransportPattern
  spec : DestinationSpec
  deriving DecidableEq, Repr

def Line.text (line : Line) : String :=
  actionText line.action ++ " " ++ appText line.application ++ " " ++ transportText line.transport ++ line.spec.raw

def lines (policy : Policy) : List Line :=
  policy.rules.flatMap fun rule => rule.destinations.map fun spec => ⟨rule.action, rule.application, rule.transport, spec⟩

def ruleLines (policy : Policy) : List String := (lines policy).map Line.text

/-- What an empty diff says: the same names, and under each the same lines, limits and session. -/
structure Silent (old new : PolicySet) : Prop where
  names : ∀ name, old.get name = none ↔ new.get name = none
  rules : ∀ name before after, old.get name = some before → new.get name = some after →
    ∀ text, text ∈ ruleLines before ↔ text ∈ ruleLines after

/-- The line comes of a document, and its application is one word. -/
structure Line.Plain (line : Line) : Prop where
  named : line.application ≠ .name "*"
  unspaced : ' ' ∉ (appText line.application).toList
  parsed : ∃ input, DestinationSpec.parse input = .ok line.spec

theorem transportText_append_inj {left right : TransportPattern} {leftSpec rightSpec : DestinationSpec}
    (leftParsed : ∃ input, DestinationSpec.parse input = .ok leftSpec)
    (rightParsed : ∃ input, DestinationSpec.parse input = .ok rightSpec)
    (same : (transportText left).toList ++ leftSpec.raw.toList = (transportText right).toList ++ rightSpec.raw.toList) :
    left = right ∧ leftSpec.raw = rightSpec.raw := by
  have unspaced {spec : DestinationSpec} (parsed : ∃ input, DestinationSpec.parse input = .ok spec) {word rest : List Char}
      (some : word ≠ []) (letters : ∀ c ∈ word, Text.isAsciiAlphanumeric c = true) :
      spec.raw.toList ≠ word ++ ' ' :: rest := by
    obtain ⟨input, parsed⟩ := parsed
    have parts := DestinationSpec.parse_parts parsed
    rw [parts.raw_eq]
    exact parts.not_spaced some letters
  have tcp {spec : DestinationSpec} (parsed : ∃ input, DestinationSpec.parse input = .ok spec) {rest : List Char} :
      spec.raw.toList ≠ ['t', 'c', 'p'] ++ ' ' :: rest := unspaced parsed (by simp) (by simp [Text.isAsciiAlphanumeric, Text.isAsciiAlphabetic])
  have udp {spec : DestinationSpec} (parsed : ∃ input, DestinationSpec.parse input = .ok spec) {rest : List Char} :
      spec.raw.toList ≠ ['u', 'd', 'p'] ++ ' ' :: rest := unspaced parsed (by simp) (by simp [Text.isAsciiAlphanumeric, Text.isAsciiAlphabetic])
  have words : (transportText .any).toList = [] ∧ (transportText .tcp).toList = ['t', 'c', 'p', ' '] ∧
    (transportText .udp).toList = ['u', 'd', 'p', ' '] := by decide
  obtain ⟨any, tcpText, udpText⟩ := words
  cases left with
  | any =>
    cases right with
    | any => exact ⟨rfl, String.toList_inj.mp (by simpa [any] using same)⟩
    | tcp => exact absurd (by simpa [any, tcpText] using same) (tcp leftParsed)
    | udp => exact absurd (by simpa [any, udpText] using same) (udp leftParsed)
  | tcp =>
    cases right with
    | any => exact absurd (by simpa [any, tcpText] using same.symm) (tcp rightParsed)
    | tcp => exact ⟨rfl, String.toList_inj.mp (by simpa [tcpText] using same)⟩
    | udp => simp [tcpText, udpText] at same
  | udp =>
    cases right with
    | any => exact absurd (by simpa [any, udpText] using same.symm) (udp rightParsed)
    | tcp => simp [tcpText, udpText] at same
    | udp => exact ⟨rfl, String.toList_inj.mp (by simpa [udpText] using same)⟩

theorem appText_inj {left right : AppPattern} (leftNamed : left ≠ .name "*") (rightNamed : right ≠ .name "*")
    (same : appText left = appText right) : left = right := by
  cases left with
  | any =>
    cases right with
    | any => rfl
    | name text => exact absurd (congrArg AppPattern.name same.symm) rightNamed
  | name text =>
    cases right with
    | any => exact absurd (congrArg AppPattern.name same) leftNamed
    | name other => exact congrArg AppPattern.name same

theorem Line.toList_text (line : Line) :
    line.text.toList = (actionText line.action).toList ++ ' ' :: ((appText line.application).toList ++
      ' ' :: ((transportText line.transport).toList ++ line.spec.raw.toList)) := by
  simp [Line.text]

theorem space_not_mem_actionText (action : Action) : ' ' ∉ (actionText action).toList := by
  cases action with
  | allow => decide
  | deny => decide

theorem actionText_inj {left right : Action} (same : actionText left = actionText right) : left = right := by
  cases left with
  | allow =>
    cases right with
    | allow => rfl
    | deny => exact absurd same (by decide)
  | deny =>
    cases right with
    | allow => exact absurd same (by decide)
    | deny => rfl

/-- A line can be read in one way only. -/
theorem Line.eq_of_text_eq {left right : Line} (leftPlain : left.Plain) (rightPlain : right.Plain)
    (same : left.text = right.text) : left = right := by
  have chars := congrArg String.toList same
  rw [Line.toList_text, Line.toList_text] at chars
  obtain ⟨actions, chars⟩ := Text.join_inj (space_not_mem_actionText _) (space_not_mem_actionText _) chars
  obtain ⟨applications, chars⟩ := Text.join_inj leftPlain.unspaced rightPlain.unspaced chars
  obtain ⟨transports, raws⟩ := transportText_append_inj leftPlain.parsed rightPlain.parsed chars
  obtain ⟨leftInput, leftParsed⟩ := leftPlain.parsed
  obtain ⟨rightInput, rightParsed⟩ := rightPlain.parsed
  have specs : left.spec = right.spec := by
    have again := DestinationSpec.parse_raw leftParsed
    rw [raws, DestinationSpec.parse_raw rightParsed] at again
    exact (Except.ok.inj again).symm
  have action := actionText_inj (String.toList_inj.mp actions)
  have application := appText_inj leftPlain.named rightPlain.named (String.toList_inj.mp applications)
  obtain ⟨leftAction, leftApplication, leftTransport, leftSpec⟩ := left
  obtain ⟨rightAction, rightApplication, rightTransport, rightSpec⟩ := right
  exact Line.mk.injEq .. |>.mpr ⟨action, application, transports, specs⟩

/-! ## The first line that matches -/

def Line.matches (line : Line) (ctx : RequestContext) : Bool :=
  line.application.matches ctx.application && line.transport.matches ctx.transport && line.spec.matches ctx.destination

section
variable {policy before after : Policy} {ctx : RequestContext}

theorem mem_lines_iff {line : Line} :
    line ∈ lines policy ↔ ∃ rule ∈ policy.rules, ∃ spec ∈ rule.destinations,
      line = ⟨rule.action, rule.application, rule.transport, spec⟩ := by
  simp only [lines, List.mem_flatMap, List.mem_map, eq_comm]

/-- The first of two lines is written before the other. -/
def Precedes (policy : Policy) (first second : Line) : Prop :=
  (lines policy).idxOf first < (lines policy).idxOf second

/-- An allow line and a deny line that meet in some request stand in one order in both policies. -/
def SameOrder (before after : Policy) : Prop :=
  ∀ ctx : RequestContext, ∀ allows ∈ lines before, ∀ denies ∈ lines before,
    allows.action = .allow → denies.action = .deny → allows.matches ctx = true → denies.matches ctx = true →
      (Precedes before allows denies ↔ Precedes after allows denies)

end

/-! ## What the diff does not look at -/

/-- What two sets have to share beyond an empty diff: which policy an identity is given and which
baselines guard it, the order of rules that contradict each other, and applications of one word. -/
structure Unchanged (old new : PolicySet) : Prop where
  selects : ∀ identity, (old.select identity).map Policy.name = (new.select identity).map Policy.name
  guards : ∀ name before after, old.get name = some before → new.get name = some after →
    ∀ identity, before.guards identity = after.guards identity
  order : ∀ name before after, old.get name = some before → new.get name = some after → SameOrder before after
  words : ∀ policy ∈ old.policies ++ new.policies, ∀ rule ∈ policy.rules, ' ' ∉ (appText rule.application).toList

section
variable {formats : Formats} {documents : List PolicyDocument} {old new : PolicySet} {ctx : RequestContext}

theorem mem_of_get {set : PolicySet} {name : String} {policy : Policy} (found : set.get name = some policy) :
    policy ∈ set.policies ∧ policy.name = name :=
  ⟨List.mem_of_find?_eq_some found, by simpa using List.find?_some found⟩

/-- What a loaded set is made of. -/
structure Loaded (set : PolicySet) : Prop where
  distinct : (set.policies.map Policy.name).Nodup
  named : ∀ policy ∈ set.policies, ∀ rule ∈ policy.rules, rule.application ≠ .name "*"
  parsed : ∀ policy ∈ set.policies, ∀ rule ∈ policy.rules, ∀ spec ∈ rule.destinations,
    ∃ input, DestinationSpec.parse input = .ok spec

theorem Loaded.plain {set : PolicySet} (loaded : Loaded set) {policy : Policy} (member : policy ∈ set.policies)
    (words : ∀ rule ∈ policy.rules, ' ' ∉ (appText rule.application).toList) {line : Line}
    (listed : line ∈ lines policy) : line.Plain := by
  obtain ⟨rule, inside, spec, among, rfl⟩ := mem_lines_iff.mp listed
  exact ⟨loaded.named policy member rule inside, words rule inside, loaded.parsed policy member rule inside spec among⟩

theorem Silent.symm (silent : Silent old new) : Silent new old :=
  ⟨fun name => (silent.names name).symm,
    fun name before after was is text => (silent.rules name after before is was text).symm⟩

/-- Under one name both sets have the same lines. -/
theorem Silent.lines_iff (silent : Silent old new) (unchanged : Unchanged old new) (oldLoaded : Loaded old)
    (newLoaded : Loaded new) {name : String} {before after : Policy} (was : old.get name = some before)
    (is : new.get name = some after) (line : Line) : line ∈ lines before ↔ line ∈ lines after := by
  have plainBefore {x : Line} (listed : x ∈ lines before) : x.Plain :=
    oldLoaded.plain (mem_of_get was).1
      (unchanged.words before (List.mem_append_left _ (mem_of_get was).1)) listed
  have plainAfter {x : Line} (listed : x ∈ lines after) : x.Plain :=
    newLoaded.plain (mem_of_get is).1
      (unchanged.words after (List.mem_append_right _ (mem_of_get is).1)) listed
  have texts := silent.rules name before after was is line.text
  constructor
  · intro listed
    obtain ⟨other, otherListed, same⟩ := List.mem_map.mp (texts.mp (List.mem_map_of_mem listed))
    rwa [← Line.eq_of_text_eq (plainAfter otherListed) (plainBefore listed) same]
  · intro listed
    obtain ⟨other, otherListed, same⟩ := List.mem_map.mp (texts.mpr (List.mem_map_of_mem listed))
    rwa [← Line.eq_of_text_eq (plainBefore otherListed) (plainAfter listed) same]

theorem Unchanged.symm (silent : Silent old new) (unchanged : Unchanged old new) (oldLoaded : Loaded old)
    (newLoaded : Loaded new) : Unchanged new old where
  selects identity := (unchanged.selects identity).symm
  guards name before after was is identity := (unchanged.guards name after before is was identity).symm
  order name before after was is ctx allows allowsListed denies deniesListed isAllow isDeny allowsHit deniesHit := by
    have same := silent.lines_iff unchanged oldLoaded newLoaded is was
    exact (unchanged.order name after before is was ctx allows ((same allows).mpr allowsListed) denies
      ((same denies).mpr deniesListed) isAllow isDeny allowsHit deniesHit).symm
  words policy member := unchanged.words policy (List.mem_append.mpr (List.mem_append.mp member).symm)

end

def scopedToml : String :=
  "name = \"ci\"\n[match]\nrepository = \"acme/app\"\n[[rules]]\napplication = \"*\"\naction = \"allow\"\n" ++
  "destinations = [\"*\"]\n"

def unscopedToml : String :=
  "name = \"ci\"\n[[rules]]\napplication = \"*\"\naction = \"allow\"\ndestinations = [\"*\"]\n"

def denyFirstToml : String :=
  "name = \"ci\"\n[[rules]]\napplication = \"*\"\naction = \"deny\"\ndestinations = [\"internal:22\"]\n" ++
  "[[rules]]\napplication = \"*\"\naction = \"allow\"\ndestinations = [\"*\"]\n"

def allowFirstToml : String :=
  "name = \"ci\"\n[[rules]]\napplication = \"*\"\naction = \"allow\"\ndestinations = [\"*\"]\n" ++
  "[[rules]]\napplication = \"*\"\naction = \"deny\"\ndestinations = [\"internal:22\"]\n"

def denyTwiceToml : String :=
  denyFirstToml ++ "[[rules]]\napplication = \"*\"\naction = \"deny\"\ndestinations = [\"internal:22\"]\n"

def allowAll : RawRule := { application := "*", action := "allow", destinations := ["*"] }

def denyInternal : RawRule := { application := "*", action := "deny", destinations := ["internal:22"] }

/-- What the parser makes of the texts above. -/
def sampleFormats : Formats where
  toml text :=
    if text = scopedToml then
      .ok { name := some "ci", matchSpec := { repository := some "acme/app" }, rules := [allowAll] }
    else if text = unscopedToml then .ok { name := some "ci", rules := [allowAll] }
    else if text = denyFirstToml then .ok { name := some "ci", rules := [denyInternal, allowAll] }
    else if text = allowFirstToml then .ok { name := some "ci", rules := [allowAll, denyInternal] }
    else if text = denyTwiceToml then .ok { name := some "ci", rules := [denyInternal, allowAll, denyInternal] }
    else .error "expected a key"
  yaml _ := .error "invalid type: string, expected struct YamlDoc"
  parseBytes text := .error (.empty text)
  parseBitrate text := .error (.empty text)

end Skimasque.Cli
