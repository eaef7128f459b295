import Skimasque.Engine.DestinationText

/-! Which of the patterns that load can match a destination at all. -/

set_option autoImplicit false

namespace Skimasque.Engine
open Library Library.Address

/-! ## Destinations that can be named -/

/-- A destination that is read from some text. -/
def Destination.Readable (destination : Destination) : Prop :=
  destination.port ≠ 0 ∧ ∃ text, text ≠ "" ∧ Literal text destination.host

theorem Destination.parse_text {destination : Destination} (readable : destination.Readable) :
    Destination.parse destination.text = .ok destination := by
  obtain ⟨positive, text, nonempty, literal⟩ := readable
  have split := Destination.splitHostPort_text literal
  have number := Text.parseU16_toString destination.port
  generalize toString destination.port.toNat = shown at split number
  simp only [Destination.parse, Destination.trim_text literal, Destination.text_filled literal, split, number,
    Option.filter, Bool.false_eq_true, if_false]
  simp [positive, literal.bare.parseHostLiteral (literal.bare_ne_empty nonempty)]

theorem Destination.readable_iff {destination : Destination} :
    destination.Readable ↔ ∃ input, Destination.parse input = .ok destination := by
  constructor
  · intro readable
    exact ⟨_, Destination.parse_text readable⟩
  · rintro ⟨input, parsed⟩
    exact Destination.parse_literal parsed

/-! ## Patterns that match one -/

/-- Some destination that can be named matches. -/
def DestinationSpec.Live (spec : DestinationSpec) : Prop :=
  ∃ input destination, Destination.parse input = .ok destination ∧ spec.matches destination = true

/-- The host half of being live. -/
def HostPattern.Live (pattern : HostPattern) : Prop :=
  ∃ host text, text ≠ "" ∧ Literal text host ∧ DestinationSpec.hostMatches ⟨pattern, .any, ""⟩ host = true

/-- Every port pattern that loads has a port. -/
theorem exists_port_of_parse {text : String} {pattern : PortPattern} (parsed : parsePortPattern text = .ok pattern) :
    ∃ port, port ≠ 0 ∧ pattern.matches port = true := by
  unfold parsePortPattern at parsed
  split at parsed
  · cases parsed
    exact ⟨1, by decide, rfl⟩
  split at parsed
  · split at parsed
    · rename_i lo hi lowRead highRead
      split at parsed
      · cases parsed
      · rename_i bounded
        cases parsed
        simp only [not_or] at bounded
        obtain ⟨low, -, ordered⟩ := bounded
        exact ⟨lo, low, by simpa [PortPattern.matches] using ordered⟩
    · cases parsed
  · split at parsed
    · rename_i port numbered
      cases parsed
      obtain ⟨-, positive⟩ := Option.filter_eq_some_iff.mp numbered
      exact ⟨port, by simpa using positive, by simp [PortPattern.matches]⟩
    · cases parsed

theorem DestinationSpec.live_iff {spec : DestinationSpec} (port : ∃ port, port ≠ 0 ∧ spec.port.matches port = true) :
    spec.Live ↔ spec.host.Live := by
  constructor
  · rintro ⟨input, destination, parsed, covers⟩
    obtain ⟨-, text, nonempty, literal⟩ := Destination.parse_literal parsed
    exact ⟨destination.host, text, nonempty, literal, (Bool.and_eq_true_iff.mp covers).2⟩
  · rintro ⟨host, text, nonempty, literal, covers⟩
    obtain ⟨number, positive, inside⟩ := port
    have readable : Destination.Readable ⟨host, number⟩ := ⟨positive, text, nonempty, literal⟩
    exact ⟨_, _, Destination.parse_text readable, Bool.and_eq_true_iff.mpr ⟨inside, covers⟩⟩

theorem HostPattern.live_any : HostPattern.Live .any := by
  refine ⟨.name "a", "a", by decide, .name (by decide) fun c member => ?_, rfl⟩
  have same : c = 'a' := by simpa using member
  rw [same]
  decide

theorem ne_empty_of_parseIpAddr {text : String} {addr : IpAddr} (read : AddressText.parseIpAddr text = some addr) :
    text ≠ "" := by
  rintro rfl
  cases read

theorem HostPattern.live_ip {text : String} {addr : IpAddr} (read : AddressText.parseIpAddr text = some addr) :
    HostPattern.Live (.ip addr) :=
  ⟨.ip addr, text, ne_empty_of_parseIpAddr read, .ip addr read, by simp [DestinationSpec.hostMatches]⟩

theorem bitsMatch_self (net : List UInt8) (len : Nat) : bitsMatch net net len = true := by
  simp [bitsMatch]

/-- A block holds the address it is written with. -/
theorem HostPattern.live_cidr {text : String} {addr : IpAddr} {len : Nat} (bounded : len ≤ addr.width)
    (read : AddressText.parseIpAddr text = some addr) : HostPattern.Live (.cidr addr len bounded) := by
  refine ⟨.ip addr, text, ne_empty_of_parseIpAddr read, .ip addr read, ?_⟩
  cases addr with
  | v4 bits => exact bitsMatch_self _ len
  | v6 bits => exact bitsMatch_self _ len

/-- A name can be named unless it is empty. -/
theorem HostPattern.live_exact_iff {text name : String} (literal : Literal text (.name name)) :
    HostPattern.Live (.exact name) ↔ text ≠ "" := by
  constructor
  · rintro ⟨host, other, nonempty, otherLiteral, covers⟩ rfl
    cases host with
    | ip addr => cases covers
    | name got =>
      simp only [DestinationSpec.hostMatches, beq_iff_eq] at covers
      subst covers
      cases literal
      exact otherLiteral.bare_ne_empty nonempty rfl
  · intro nonempty
    exact ⟨.name name, text, nonempty, literal, by simp [DestinationSpec.hostMatches]⟩

theorem isRegNameChar_of_toLower {c : Char} (reg : isRegNameChar c.toLower = true) : isRegNameChar c = true := by
  have value := Text.toNat_toLower c
  rw [isRegNameChar_iff] at reg ⊢
  simp only [Char.reduceToNat] at value
  split at value <;> omega

/-- Below a domain of name characters there is a name. -/
theorem literal_below {domain : String} (reg : ∀ c ∈ domain.toList, isRegNameChar c = true) :
    Literal ("x." ++ domain) (.name (Text.toAsciiLowercase ("x." ++ domain))) := by
  constructor
  · rw [Option.eq_none_iff_forall_ne_some]
    intro addr read
    have inside : 'x' ∈ ("x." ++ domain).toList := by simp
    exact absurd (AddressText.parseIpAddr_chars read 'x' inside) (by decide)
  · intro c member
    rw [String.toList_append, List.mem_append] at member
    rcases member with front | back
    · have start : c = 'x' ∨ c = '.' := by simpa using front
      rcases start with rfl | rfl
      · decide
      · decide
    · exact reg c back

/-- A wildcard matches a name unless its domain has a character that no name has. -/
theorem HostPattern.live_suffix_iff (domain : String) :
    HostPattern.Live (.suffix ("." ++ Text.toAsciiLowercase domain)) ↔ ∀ c ∈ domain.toList, isRegNameChar c = true := by
  constructor
  · rintro ⟨host, text, nonempty, literal, covers⟩ c member
    cases literal with
    | ip addr read => cases covers
    | name unread reg =>
      -- The lowercased domain is the end of a name.
      have ending : ("." ++ Text.toAsciiLowercase domain).toList <:+ (Text.toAsciiLowercase text).toList :=
        List.isSuffixOf_iff_suffix.mp covers
      apply isRegNameChar_of_toLower
      apply isRegNameChar_of_mem_lowercase reg (ending.subset _)
      simp only [String.toList_append, Text.toAsciiLowercase, String.toList_ofList]
      exact List.mem_append_right _ (List.mem_map_of_mem member)
  · intro reg
    refine ⟨.name (Text.toAsciiLowercase ("x." ++ domain)), "x." ++ domain, ?_, literal_below reg, ?_⟩
    · intro empty
      have chars := congrArg String.toList empty
      simp at chars
    · have ending : ("." ++ Text.toAsciiLowercase domain).toList <:+ (Text.toAsciiLowercase ("x." ++ domain)).toList := by
        refine ⟨['x'], ?_⟩
        simp [Text.toAsciiLowercase]
      exact List.isSuffixOf_iff_suffix.mpr ending

/-! ## The text of a live pattern -/

/-- What stands before the port, or all of a text without one. -/
def hostPart (text : String) : String :=
  match splitHostPort text with
  | some (host, _) => host
  | none => text

/-- Not an empty pair of brackets, and no wildcard whose domain has a character that no name has. -/
def NamesHosts (hostPart : String) : Prop :=
  hostPart ≠ "[]" ∧
    ∀ domain, Text.stripPrefix "*." hostPart = some domain → ∀ c ∈ domain.toList, isRegNameChar c = true

theorem unbracketed_eq_empty_iff {text : String} (nonempty : text ≠ "") : unbracketed text = "" ↔ text = "[]" := by
  constructor
  · intro nothing
    unfold unbracketed at nothing
    cases opened : Text.stripPrefix "[" text with
    | none => simp [opened, nonempty] at nothing
    | some rest =>
      cases closed : Text.stripSuffix "]" rest with
      | none => simp [opened, closed, nonempty] at nothing
      | some inside =>
        simp only [opened, Option.bind_some, closed, Option.getD_some] at nothing
        rw [Text.stripPrefix_eq_some_iff.mp opened, Text.stripSuffix_eq_some_iff.mp closed, nothing]
        decide
  · rintro rfl
    decide

/-- A host pattern that loads is live exactly when its text names hosts. -/
theorem HostPattern.live_iff_of_parse {input text : String} {pattern : HostPattern}
    (parsed : parseHostPattern input text = .ok pattern) : pattern.Live ↔ NamesHosts text := by
  unfold parseHostPattern at parsed
  split at parsed
  · rename_i star
    cases parsed
    rw [star]
    refine iff_of_true live_any ⟨by decide, ?_⟩
    rintro domain wildcard
    cases wildcard
  split at parsed
  · rename_i domain wildcard
    split at parsed
    · cases parsed
    · cases parsed
      rw [live_suffix_iff, NamesHosts, wildcard]
      constructor
      · intro reg
        refine ⟨?_, fun other same => Option.some.inj same ▸ reg⟩
        rintro rfl
        cases wildcard
      · exact fun names => names.2 domain rfl
  · rename_i plain
    have names : NamesHosts text ↔ text ≠ "[]" := by simp [NamesHosts, plain]
    rw [names]
    split at parsed
    · rename_i addr read
      cases parsed
      refine iff_of_true (live_ip read) ?_
      rintro rfl
      cases read
    · obtain ⟨host, literal, made⟩ := Result.bind_eq_ok_iff.mp parsed
      obtain ⟨nonempty, literal⟩ := literal_of_parse literal
      rw [Ne, ← unbracketed_eq_empty_iff nonempty]
      cases host with
      | name name =>
        cases made
        exact live_exact_iff literal
      | ip addr =>
        cases made
        cases literal with
        | ip _ read => exact iff_of_true (live_ip read) (ne_empty_of_parseIpAddr read)

/-! ## A destination as a pattern for itself -/

theorem parsePortPattern_of_number {text : String} {port : UInt16} (read : Text.parseU16 text = some port)
    (positive : port ≠ 0) : parsePortPattern text = .ok (.exact port) := by
  have notStar : text ≠ "*" := by
    rintro rfl
    cases read
  have noRange : Text.splitOnce '-' text = none := by
    apply Text.splitOnce_eq_none
    intro member
    exact absurd (Text.parseU16_chars read _ member) (by decide)
  simp [parsePortPattern, notStar, noRange, read, positive, Option.filter]

/-- The text of a destination has no slash. -/
theorem slash_notMem_of_destination {text hostPart portPart : String} {host : Host} {port : UInt16}
    (split : splitHostPort text = some (hostPart, portPart)) (number : Text.parseU16 portPart = some port)
    (literal : Literal hostPart host) : '/' ∉ text.toList := by
  have noHost : '/' ∉ hostPart.toList := literal.absent (by decide)
  have noPort : '/' ∉ portPart.toList := by
    intro member
    exact absurd (Text.parseU16_chars number _ member) (by decide)
  rcases splitHostPort_cases split with ⟨bracketed, -⟩ | ⟨found, -⟩
  · rw [bracketed]
    simp [noHost, noPort]
  · rw [(Text.rsplitOnce_eq_some_iff.mp found).1]
    simp [noHost, noPort]

/-- A text that is both a destination and a pattern is the pattern for that destination. -/
theorem DestinationSpec.eq_of_destination {input : String} {destination : Destination} {spec : DestinationSpec}
    (parsed : DestinationSpec.parse input = .ok spec) (named : Destination.parse input = .ok destination) :
    spec = ⟨destination.host.pattern, .exact destination.port, Text.trim input⟩ := by
  obtain ⟨hostPart, portPart, split, number, positive, host⟩ := destination_parts named
  obtain ⟨nonempty, literal⟩ := literal_of_parse host
  rw [splitHostPort_unbracketed split] at literal
  have parts := DestinationSpec.parse_parts parsed
  generalize Text.trim input = text at split parts ⊢
  cases parts with
  | any star =>
    rw [star] at split
    cases split
  | cidr addr len spec found parsedBlock =>
    have slash := (Text.splitOnce_eq_some_iff.mp found).1
    have noSlash := slash_notMem_of_destination split number literal
    simp [slash] at noSlash
  | port otherHost otherPort pattern portPattern noSlash otherSplit portParsed hostParsed =>
    rw [split] at otherSplit
    cases otherSplit
    rw [parsePortPattern_of_number number positive] at portParsed
    rw [literal.parseHostPattern nonempty] at hostParsed
    cases portParsed
    cases hostParsed
    rfl
  | host pattern noSlash unsplit hostParsed =>
    rw [split] at unsplit
    cases unsplit

/-- A pattern that loads can match some destination exactly when it is a block, or its host part names
hosts; and one that is a destination itself matches that destination and no other. -/
theorem pattern_is_live_iff {input : String} {spec : DestinationSpec} (parsed : DestinationSpec.parse input = .ok spec) :
    (spec.Live ∧ ∀ destination, Destination.parse input = .ok destination →
        ∀ other, spec.matches other = true ↔ other = destination) ↔
      Text.contains (Text.trim input) '/' = true ∨ NamesHosts (hostPart (Text.trim input)) := by
  have itself : ∀ destination, Destination.parse input = .ok destination →
      ∀ other, spec.matches other = true ↔ other = destination := by
    intro destination named other
    rw [DestinationSpec.eq_of_destination parsed named]
    exact DestinationSpec.matches_pattern_iff
  rw [and_iff_left itself]
  have parts := DestinationSpec.parse_parts parsed
  generalize Text.trim input = text at parts ⊢
  have anyPort : ∃ port, port ≠ 0 ∧ PortPattern.matches .any port = true := ⟨1, by decide, rfl⟩
  have noBlock (noSlash : Text.splitOnce '/' text = none) : ¬ Text.contains text '/' = true := by
    have absent := Text.splitOnce_eq_none_iff.mp noSlash
    simpa [Text.contains] using absent
  cases parts with
  | any star =>
    subst star
    refine iff_of_true ((DestinationSpec.live_iff anyPort).mpr HostPattern.live_any) (.inr ⟨by decide, ?_⟩)
    intro domain wildcard
    cases wildcard
  | cidr addr len spec found parsedBlock =>
    have slash : Text.contains text '/' = true := by
      simp [Text.contains, (Text.splitOnce_eq_some_iff.mp found).1]
    refine iff_of_true ?_ (.inl slash)
    unfold parseCidr at parsedBlock
    split at parsedBlock
    · cases parsedBlock
    rename_i ip read
    split at parsedBlock
    · cases parsedBlock
    split at parsedBlock
    · rename_i bounded
      cases parsedBlock
      exact (DestinationSpec.live_iff anyPort).mpr (HostPattern.live_cidr bounded read)
    · cases parsedBlock
  | port host port pattern portPattern noSlash split portParsed hostParsed =>
    have whole : hostPart text = host := by rw [hostPart, split]
    rw [or_iff_right (noBlock noSlash), whole, DestinationSpec.live_iff (exists_port_of_parse portParsed)]
    exact HostPattern.live_iff_of_parse hostParsed
  | host pattern noSlash unsplit hostParsed =>
    have whole : hostPart text = text := by rw [hostPart, unsplit]
    rw [or_iff_right (noBlock noSlash), whole, DestinationSpec.live_iff anyPort]
    exact HostPattern.live_iff_of_parse hostParsed

theorem range_pattern_is_live :
    DestinationSpec.parse "*.Example.com:8000-8100" = .ok ⟨.suffix ".example.com", .range 8000 8100, "*.Example.com:8000-8100"⟩ ∧
      DestinationSpec.Live ⟨.suffix ".example.com", .range 8000 8100, "*.Example.com:8000-8100"⟩ := by
  have parsed : DestinationSpec.parse "*.Example.com:8000-8100" =
      .ok ⟨.suffix ".example.com", .range 8000 8100, "*.Example.com:8000-8100"⟩ := by decide
  have names : NamesHosts (hostPart (Text.trim "*.Example.com:8000-8100")) := by
    have part : hostPart (Text.trim "*.Example.com:8000-8100") = "*.Example.com" := by decide
    rw [part]
    refine ⟨by decide, fun domain wildcard => ?_⟩
    cases wildcard
    simp [isRegNameChar, Text.isAsciiAlphanumeric, Text.isAsciiAlphabetic]
  exact ⟨parsed, ((pattern_is_live_iff parsed).mpr (.inr names)).1⟩

/-- With a second port the ports are part of the domain, and empty brackets are an empty name: both
patterns load and match nothing. -/
theorem loaded_patterns_are_dead :
    (DestinationSpec.parse "*.example.com:8443:443" =
        .ok ⟨.suffix ".example.com:8443:443", .any, "*.example.com:8443:443"⟩ ∧
      ¬ DestinationSpec.Live ⟨.suffix ".example.com:8443:443", .any, "*.example.com:8443:443"⟩) ∧
    DestinationSpec.parse "[]" = .ok ⟨.exact "", .any, "[]"⟩ ∧ ¬ DestinationSpec.Live ⟨.exact "", .any, "[]"⟩ := by
  refine ⟨⟨by decide, fun live => ?_⟩, by decide, fun live => ?_⟩
  · have host := (DestinationSpec.live_iff ⟨1, by decide, rfl⟩).mp live
    have domain : "." ++ Text.toAsciiLowercase "example.com:8443:443" = ".example.com:8443:443" := by decide
    rw [← domain] at host
    exact absurd ((HostPattern.live_suffix_iff _).mp host ':' (by decide)) (by decide)
  · have host := (DestinationSpec.live_iff ⟨1, by decide, rfl⟩).mp live
    have literal : Literal "" (.name "") := .name rfl fun c member => nomatch member
    exact (HostPattern.live_exact_iff literal).mp host rfl

end Skimasque.Engine
