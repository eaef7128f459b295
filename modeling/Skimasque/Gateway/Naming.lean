import Skimasque.Engine.DestinationText
import Skimasque.Core.TargetText
import Skimasque.Gateway.TenantPolicy

/-! What one destination is, to the parsers, to the policy and to the address floor.

A destination text is read by two parsers, one offline and one in the gateway. A name has more than
one spelling and an IPv4 address more than one form; the results say which of them a policy judges alike.
-/

set_option autoImplicit false

namespace Skimasque.Gateway
open Library Library.Address Engine Skimasque.Core

/-! ## One text, two parsers -/

theorem isRegNameChar_legal {c : Char} (reg : isRegNameChar c = true) : isIllegalHostChar c = false := by
  have bounds := isRegNameChar_iff.mp reg
  simp [isIllegalHostChar, Text.isWhitespace, Text.isControl, ← Char.toNat_inj]
  omega

/-- Neither kind of literal has a zone or a bracket in it. -/
theorem literal_clear {text : String} {host : Host} (literal : Literal text host) :
    '%' ∉ text.toList ∧ ']' ∉ text.toList := by
  cases literal with
  | ip addr read =>
    have chars := AddressText.parseIpAddr_chars read
    exact ⟨fun member => absurd (chars _ member) (by decide), fun member => absurd (chars _ member) (by decide)⟩
  | name unread reg =>
    exact ⟨fun member => absurd (reg _ member) (by decide), fun member => absurd (reg _ member) (by decide)⟩

/-- The gateway reads a literal, in brackets or not, as the policy does. -/
theorem literal_target {shown text : String} {host : Host} (literal : Literal text host) (nonempty : shown ≠ "")
    (noZone : '%' ∉ shown.toList) (inside : unbracketed shown = text) (port : UInt16) :
    ∃ read, TargetHost.parse shown = .ok read ∧ policyDestination ⟨read, port⟩ = ⟨host, port⟩ := by
  have filled : Text.isEmpty shown = false := by
    rw [Bool.eq_false_iff, Ne, Text.isEmpty_iff]
    exact nonempty
  have zoneless : Text.contains shown '%' = false := by simpa [Text.contains] using noZone
  have stripped : ((Text.stripPrefix "[" shown).bind (Text.stripSuffix "]")).getD shown = text := inside
  cases literal with
  | ip addr read =>
    refine ⟨.ip addr, ?_, rfl⟩
    simp [TargetHost.parse, filled, zoneless, stripped, read]
  | name unread reg =>
    have legal : text.toList.any isIllegalHostChar = false := by
      rw [List.any_eq_false]
      intro c member
      simp [isRegNameChar_legal (reg c member)]
    refine ⟨.name text, ?_, rfl⟩
    simp [TargetHost.parse, filled, zoneless, stripped, unread, legal]

theorem target_of_parts {input shown port : String} {number : UInt16} {host : Host} {text : String}
    (split : Target.split input = .ok (shown, port)) (numbered : Text.parseU16 port = some number)
    (positive : number ≠ 0) (literal : Literal text host) (nonempty : shown ≠ "") (noZone : '%' ∉ shown.toList)
    (inside : unbracketed shown = text) :
    ∃ target, Target.parse input = .ok target ∧ policyDestination target = ⟨host, number⟩ := by
  obtain ⟨read, parsed, same⟩ := literal_target literal nonempty noZone inside number
  refine ⟨⟨read, number⟩, ?_, same⟩
  simp [Target.parse, Target.new, split, numbered, parsed, positive, bind, Except.bind]

/-- A text the policy tools read as a destination is one the gateway reads, as the same destination. -/
theorem target_parse_of_destination_parse (input : String) (destination : Engine.Destination)
    (trimmed : Text.trim input = input) (parsed : Engine.Destination.parse input = .ok destination) :
    ∃ target, Target.parse input = .ok target ∧ policyDestination target = destination := by
  obtain ⟨host, port, split, numbered, positive, literal⟩ := destination_parts parsed
  rw [trimmed] at split
  obtain ⟨nonempty, literal⟩ := literal_of_parse literal
  have portClear := parseU16_clear numbered
  rcases splitHostPort_cases split with ⟨whole, clear⟩ | ⟨found, bare⟩
  · rw [unbracketed_of_clear clear] at literal
    apply target_of_parts (target_split_bracketed whole portClear) numbered positive literal
    · intro empty
      simpa using congrArg String.toList empty
    · simpa using (literal_clear literal).1
    · exact unbracketed_bracketed host
  · have plain : unbracketed host = host := by simp [unbracketed, bare]
    rw [plain] at literal
    exact target_of_parts (target_split_bare found (literal_clear literal).2 portClear) numbered positive literal nonempty
      (literal_clear literal).1 plain

-- A bracketed name in capitals with a signed port, as both parsers take it.
theorem bracketed_name_reads_alike :
    Text.trim "[DB.Prod]:+5432" = "[DB.Prod]:+5432" ∧
      ∃ target, Target.parse "[DB.Prod]:+5432" = .ok target ∧
        policyDestination target = ⟨.name "db.prod", 5432⟩ := by
  have trimmed : Text.trim "[DB.Prod]:+5432" = "[DB.Prod]:+5432" := by decide
  exact ⟨trimmed, target_parse_of_destination_parse _ _ trimmed (by decide)⟩

/-! ## Policies for every workload -/

/-- A policy that matches every workload and limits nothing. -/
def openPolicy (name : String) (rules : List Rule) : Policy := { name, rules }

/-- A rule on every application and transport. -/
def openRule (action : Action) (host : HostPattern) : Rule := ⟨none, .any, .any, action, [⟨host, .any, ""⟩]⟩

theorem openRule_applies (action : Action) (host : HostPattern) (ctx : RequestContext) :
    (openRule action host).applies ctx = (⟨host, .any, ""⟩ : DestinationSpec).hostMatches ctx.destination.host := by
  simp [openRule, Rule.applies, Rule.covers, AppPattern.matches, TransportPattern.matches, DestinationSpec.matches,
    PortPattern.matches]

theorem evaluate_openPolicy {name : String} {rules : List Rule} {ctx : RequestContext}
    (pinned : ctx.requestedPolicy = none ∨ ctx.requestedPolicy = some name) :
    PolicySet.evaluate ⟨[openPolicy name rules]⟩ ctx = (openPolicy name rules).evaluate ctx := by
  have selected : PolicySet.select ⟨[openPolicy name rules]⟩ ctx.workload = some (openPolicy name rules) := rfl
  have unguarded : PolicySet.withBaseline ⟨[openPolicy name rules]⟩ ((openPolicy name rules).evaluate ctx) ctx =
      (openPolicy name rules).evaluate ctx := by
    cases (openPolicy name rules).evaluate ctx with
    | deny denied => rfl
    | allow allowed => rfl
  rcases pinned with unpinned | pinned
  · simp only [PolicySet.evaluate, selected, unpinned, unguarded]
  · have named : (openPolicy name rules).name = name := rfl
    simp [PolicySet.evaluate, selected, pinned, unguarded, named]

/-! ## One name, several spellings -/

/-- The name a resolver looks up: case does not matter, nor does the dot that makes it absolute. -/
def dnsName (host : String) : String :=
  let lower := Text.toAsciiLowercase host
  (Text.stripSuffix "." lower).getD lower

def isAbsolute (host : String) : Bool := Text.endsWith host "."

theorem isAbsolute_iff {host : String} : isAbsolute host = true ↔ host.toList.getLast? = some '.' := by
  rw [isAbsolute, Text.endsWith, List.isSuffixOf_iff_suffix, List.getLast?_eq_some_iff]
  exact exists_congr fun front => eq_comm

theorem isAbsolute_lowercase (host : String) : isAbsolute (Text.toAsciiLowercase host) = isAbsolute host := by
  rw [Bool.eq_iff_iff, isAbsolute_iff, isAbsolute_iff, Text.toAsciiLowercase, String.toList_ofList,
    List.getLast?_map, Option.map_eq_some_iff]
  constructor
  · rintro ⟨c, last, lower⟩
    rw [last, Text.toLower_eq_dot_iff.mp lower]
  · intro last
    exact ⟨'.', last, rfl⟩

/-- Spellings of one name are the same to the policy exactly when both are absolute or neither is. -/
theorem lowercase_eq_iff {host spelling : String} (same : dnsName host = dnsName spelling) :
    Text.toAsciiLowercase host = Text.toAsciiLowercase spelling ↔ isAbsolute host = isAbsolute spelling := by
  constructor
  · intro equal
    rw [← isAbsolute_lowercase host, equal, isAbsolute_lowercase]
  · intro dots
    rw [← isAbsolute_lowercase host, ← isAbsolute_lowercase spelling] at dots
    simp only [dnsName] at same
    cases stripped : Text.stripSuffix "." (Text.toAsciiLowercase host) with
    | none =>
      cases other : Text.stripSuffix "." (Text.toAsciiLowercase spelling) with
      | none => simpa [stripped, other] using same
      | some front => simp_all [Text.stripSuffix, isAbsolute]
    | some front =>
      cases other : Text.stripSuffix "." (Text.toAsciiLowercase spelling) with
      | none => simp_all [Text.stripSuffix, isAbsolute]
      | some back =>
        rw [stripped, other, Option.getD_some, Option.getD_some] at same
        rw [Text.stripSuffix_eq_some_iff.mp stripped, Text.stripSuffix_eq_some_iff.mp other, same]

/-- A pattern written with a name: one host, or `*.suffix`. -/
def HostPattern.isName : HostPattern → Bool
  | .exact _ | .suffix _ => true
  | _ => false

/-- The denial is by a deny rule that names the host: the rule of the selected policy that applies first, or a
rule of a baseline. -/
inductive DeniedByName (set : PolicySet) (ctx : RequestContext) : Prop
  | explicit (policy : Policy) (index : Nat) (rule : Rule) (spec : DestinationSpec) (denied : Denied)
    (decided : set.evaluate ctx = .deny denied) (reason : denied.reason = .explicitDeny (ruleLabel rule index))
    (selected : set.select ctx.workload = some policy) (first : FirstApplying policy.rules ctx index rule)
    (denies : rule.action = .deny) (listed : spec ∈ rule.destinations) (hit : spec.matches ctx.destination = true)
    (named : HostPattern.isName spec.host = true)
  | baseline (policy : Policy) (index : Nat) (rule : Rule) (spec : DestinationSpec) (denied : Denied)
    (decided : set.evaluate ctx = .deny denied)
    (reason : denied.reason = .baseline policy.name (ruleLabel rule index)) (member : policy ∈ set.policies)
    (guards : policy.guards ctx.workload = true) (present : policy.rules[index]? = some rule)
    (denies : rule.action = .deny) (applies : rule.applies ctx = true) (listed : spec ∈ rule.destinations)
    (hit : spec.matches ctx.destination = true) (named : HostPattern.isName spec.host = true)

theorem DeniedByName.not_allowed {set : PolicySet} {ctx : RequestContext} (denied : DeniedByName set ctx) :
    (set.evaluate ctx).isAllow = false := by
  cases denied with
  | explicit policy index rule spec denied decided => rw [decided]; rfl
  | baseline policy index rule spec denied decided => rw [decided]; rfl

/-- The request with its destination as the gateway puts it to the policy. -/
def RequestContext.to (ctx : RequestContext) (target : Target) : RequestContext :=
  { ctx with destination := policyDestination target }

/-- A target the gateway accepts, whose host is a name in this spelling. -/
structure Spelled (target : Target) (host : String) : Prop where
  accepted : ∃ input, Target.parse input = .ok target
  named : target.host = .name host

theorem Spelled.destination {target : Target} {host : String} (spelled : Spelled target host) :
    policyDestination target = ⟨.name (Text.toAsciiLowercase host), target.port⟩ := by
  simp only [policyDestination, spelled.named]

/-- Everything but one name. -/
def allBut (name : String) : Policy := openPolicy "all-but" [openRule .deny (.exact name), openRule .allow .any]

def anyRequest : RequestContext := ⟨{}, "", .tcp, ⟨.name "", 0⟩, none⟩

theorem allBut_denies {ctx : RequestContext} {name : String} (unpinned : ctx.requestedPolicy = none)
    (named : ctx.destination.host = .name name) : DeniedByName ⟨[allBut name]⟩ ctx := by
  have first : FirstApplying (allBut name).rules ctx 0 (openRule .deny (.exact name)) := by
    refine ⟨rfl, ?_, by simp⟩
    rw [openRule_applies, named]
    simp [DestinationSpec.hostMatches]
  have decided := (evaluate_openPolicy (.inl unpinned)).trans (Policy.evaluate_of_first first)
  refine .explicit (allBut name) 0 _ ⟨.exact name, .any, ""⟩ _ decided rfl rfl first rfl ?_ ?_ rfl
  · exact List.mem_singleton_self _
  · simp [DestinationSpec.matches, PortPattern.matches, DestinationSpec.hostMatches, named]

theorem allBut_allows {ctx : RequestContext} {name other : String} (unpinned : ctx.requestedPolicy = none)
    (named : ctx.destination.host = .name other) (differ : name ≠ other) :
    (PolicySet.evaluate ⟨[allBut name]⟩ ctx).isAllow = true := by
  have first : FirstApplying (allBut name).rules ctx 1 (openRule .allow .any) := by
    refine ⟨rfl, ?_, ?_⟩
    · rw [openRule_applies]
      rfl
    · intro j early r present
      obtain rfl : j = 0 := by omega
      cases present
      rw [openRule_applies, named]
      simpa [DestinationSpec.hostMatches] using differ
  have decided := (evaluate_openPolicy (.inl unpinned)).trans (Policy.evaluate_of_first first)
  exact congrArg Decision.isAllow decided

/-- A denial by name covers another spelling of the name exactly when both spellings are absolute or neither is:
the dot at the end is all that the policy does not see past. -/
theorem name_denial_covers_spelling_iff (target other : Target) (host spelling : String)
    (spelled : Spelled target host) (respelled : Spelled other spelling) (samePort : other.port = target.port)
    (same : dnsName host = dnsName spelling) :
    (∀ set ctx, DeniedByName set (RequestContext.to ctx target) →
      (set.evaluate (RequestContext.to ctx other)).isAllow = false) ↔
    isAbsolute host = isAbsolute spelling := by
  rw [← lowercase_eq_iff same]
  constructor
  · intro covered
    by_contra differ
    have denied : DeniedByName ⟨[allBut (Text.toAsciiLowercase host)]⟩ (RequestContext.to anyRequest target) :=
      allBut_denies rfl (by rw [RequestContext.to, spelled.destination])
    have allowed : (PolicySet.evaluate ⟨[allBut (Text.toAsciiLowercase host)]⟩
        (RequestContext.to anyRequest other)).isAllow = true :=
      allBut_allows rfl (by rw [RequestContext.to, respelled.destination]) differ
    rw [covered _ _ denied] at allowed
    cases allowed
  · intro equal set ctx denied
    have one : RequestContext.to ctx other = RequestContext.to ctx target := by
      rw [RequestContext.to, RequestContext.to, spelled.destination, respelled.destination, samePort, equal]
    rw [one]
    exact denied.not_allowed

-- A list of names to keep out of, and everything else let through.
def blocklist : Policy := openPolicy "blocklist"
  [⟨some "no-evil", .any, .any, .deny, [⟨.exact "evil.example", .any, "evil.example"⟩]⟩,
    ⟨none, .any, .any, .allow, [⟨.any, .any, "*"⟩]⟩]

def evilTarget (spelling : String) : Target := ⟨.name spelling, 443⟩

theorem capitals_are_denied_alike :
    Spelled (evilTarget "evil.example") "evil.example" ∧ Spelled (evilTarget "EVIL.Example") "EVIL.Example" ∧
      ∀ set ctx, DeniedByName set (RequestContext.to ctx (evilTarget "evil.example")) →
        (set.evaluate (RequestContext.to ctx (evilTarget "EVIL.Example"))).isAllow = false := by
  have plain : Spelled (evilTarget "evil.example") "evil.example" := ⟨⟨"evil.example:443", by decide⟩, rfl⟩
  have capitals : Spelled (evilTarget "EVIL.Example") "EVIL.Example" := ⟨⟨"EVIL.Example:443", by decide⟩, rfl⟩
  exact ⟨plain, capitals,
    (name_denial_covers_spelling_iff _ _ _ _ plain capitals rfl (by decide)).mpr (by decide)⟩

theorem trailing_dot_escapes_denial :
    Spelled (evilTarget "evil.example") "evil.example" ∧ Spelled (evilTarget "evil.example.") "evil.example." ∧
      dnsName "evil.example" = dnsName "evil.example." ∧
      DeniedByName ⟨[blocklist]⟩ (RequestContext.to anyRequest (evilTarget "evil.example")) ∧
      (PolicySet.evaluate ⟨[blocklist]⟩ (RequestContext.to anyRequest (evilTarget "evil.example."))).isAllow =
        true := by
  refine ⟨⟨⟨"evil.example:443", by decide⟩, rfl⟩, ⟨⟨"evil.example.:443", by decide⟩, rfl⟩, by decide, ?_, by decide⟩
  exact .explicit blocklist 0 _ ⟨.exact "evil.example", .any, "evil.example"⟩ _ rfl rfl rfl
    ⟨rfl, by decide, by simp⟩ rfl (List.mem_singleton_self _) (by decide) rfl

/-! ## One IPv4 address, two forms -/

/-- The pattern is an address or a block that covers one of the two forms of an IPv4 address; none covers both. -/
def HostPattern.singlesOut (pattern : HostPattern) (bits : BitVec 32) : Bool :=
  match pattern with
  | .any | .exact _ | .suffix _ => false
  | .ip want => want == .v4 bits || want == .v6 (toIpv6Mapped bits)
  | .cidr addr len _ => cidrContains addr len (.v4 bits) || cidrContains addr len (.v6 (toIpv6Mapped bits))

/-- The host patterns the rules of a set are written with. -/
def PolicySet.patterns (set : PolicySet) : List HostPattern :=
  set.policies.flatMap fun policy => policy.rules.flatMap fun rule => rule.destinations.map DestinationSpec.host

theorem singlesOut_eq_false_iff {spec : DestinationSpec} {bits : BitVec 32} :
    HostPattern.singlesOut spec.host bits = false ↔
      spec.hostMatches (.ip (.v6 (toIpv6Mapped bits))) = spec.hostMatches (.ip (.v4 bits)) := by
  unfold HostPattern.singlesOut DestinationSpec.hostMatches
  cases pattern : spec.host with
  | any => simp
  | exact name => simp
  | suffix tail => simp
  | ip want =>
    cases want with
    | v4 want => simp
    | v6 want => simp
  | cidr addr len bounded =>
    cases addr with
    | v4 net => simp [cidrContains]
    | v6 net => simp [cidrContains]

theorem applies_mapped_eq {rule : Rule} {bits : BitVec 32}
    (clear : ∀ spec ∈ rule.destinations, HostPattern.singlesOut spec.host bits = false) (ctx : RequestContext)
    (port : UInt16) :
    rule.applies (RequestContext.to ctx ⟨.ip (.v6 (toIpv6Mapped bits)), port⟩) =
      rule.applies (RequestContext.to ctx ⟨.ip (.v4 bits), port⟩) := by
  simp only [Rule.applies, RequestContext.to, policyDestination]
  congr 1
  rw [Bool.eq_iff_iff, List.any_eq_true, List.any_eq_true]
  apply exists_congr
  intro spec
  apply and_congr_right
  intro listed
  rw [DestinationSpec.matches, DestinationSpec.matches, singlesOut_eq_false_iff.mp (clear spec listed)]

/-- A policy with one rule, which allows one pattern. -/
theorem evaluate_only {pattern : HostPattern} {ctx : RequestContext} (unpinned : ctx.requestedPolicy = none) :
    (PolicySet.evaluate ⟨[openPolicy "only" [openRule .allow pattern]]⟩ ctx).isAllow =
      (⟨pattern, .any, ""⟩ : DestinationSpec).hostMatches ctx.destination.host := by
  rw [evaluate_openPolicy (.inl unpinned), ← openRule_applies .allow]
  cases applies : (openRule .allow pattern).applies ctx with
  | true =>
    have first : FirstApplying (openPolicy "only" [openRule .allow pattern]).rules ctx 0 (openRule .allow pattern) :=
      ⟨rfl, applies, by simp⟩
    rw [Policy.evaluate_of_first first]
    rfl
  | false => simp [Policy.evaluate, openPolicy, applies, Decision.isAllow]

/-- The floor treats both forms of an IPv4 address as one host. The policy does, for every set written with the
patterns given, exactly when none of them is an address or a block that covers either form. -/
theorem mapped_form_judged_alike_iff (bits : BitVec 32) (patterns : Set HostPattern) :
    (∀ (floor : AddressPolicy) (port : UInt16),
      floor.permits ⟨.v6 (toIpv6Mapped bits), port⟩ = floor.permits ⟨.v4 bits, port⟩) ∧
    ((∀ set ctx port, (∀ pattern ∈ PolicySet.patterns set, pattern ∈ patterns) →
        (set.evaluate (RequestContext.to ctx ⟨.ip (.v6 (toIpv6Mapped bits)), port⟩)).isAllow =
          (set.evaluate (RequestContext.to ctx ⟨.ip (.v4 bits), port⟩)).isAllow) ↔
      ∀ pattern ∈ patterns, HostPattern.singlesOut pattern bits = false) := by
  refine ⟨fun floor port => floor.permits_mapped (toIpv4Mapped_toIpv6Mapped bits) port, ?_, ?_⟩
  · intro alike pattern member
    have same := alike ⟨[openPolicy "only" [openRule .allow pattern]]⟩ anyRequest 443 fun other used => by
      obtain rfl : other = pattern := by simpa [PolicySet.patterns, openPolicy, openRule] using used
      exact member
    rw [evaluate_only rfl, evaluate_only rfl] at same
    exact (@singlesOut_eq_false_iff ⟨pattern, .any, ""⟩ bits).mpr same
  · intro clear set ctx port written
    refine PolicySet.isAllow_congr rfl rfl fun policy member rule listed => ?_
    apply applies_mapped_eq
    intro spec used
    apply clear
    apply written
    simp only [PolicySet.patterns, List.mem_flatMap, List.mem_map]
    exact ⟨policy, member, rule, listed, spec, used, rfl⟩

-- A deny on one IPv4 address, walked around by its mapped form.
def addressBlocklist : Policy := openPolicy "blocklist"
  [⟨some "no-db", .any, .any, .deny, [⟨.ip (.v4 0x0a000005), .any, "10.0.0.5"⟩]⟩,
    ⟨none, .any, .any, .allow, [⟨.any, .any, "*"⟩]⟩]

theorem mapped_form_escapes_denial :
    (Target.parse "10.0.0.5:5432" = .ok ⟨.ip (.v4 0x0a000005), 5432⟩ ∧
      Target.parse "[::ffff:10.0.0.5]:5432" = .ok ⟨.ip (.v6 (toIpv6Mapped 0x0a000005)), 5432⟩) ∧
    (PolicySet.evaluate ⟨[addressBlocklist]⟩
      (RequestContext.to anyRequest ⟨.ip (.v4 0x0a000005), 5432⟩)).isAllow = false ∧
    (PolicySet.evaluate ⟨[addressBlocklist]⟩
      (RequestContext.to anyRequest ⟨.ip (.v6 (toIpv6Mapped 0x0a000005)), 5432⟩)).isAllow = true := by
  decide

end Skimasque.Gateway
