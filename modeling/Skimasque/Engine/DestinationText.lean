import Skimasque.Engine.Destination
import Skimasque.Library.AddressPrinting
import Skimasque.Library.Result

/-! Destinations and patterns as text: what a parsed destination is made of, and that it prints as a pattern for itself. -/

set_option autoImplicit false

namespace Skimasque.Engine
open Library Library.Address

/-! ## The parts of a destination -/

theorem isRegNameChar_iff {c : Char} :
    isRegNameChar c = true ↔
      (48 ≤ c.toNat ∧ c.toNat ≤ 57) ∨ (97 ≤ c.toNat ∧ c.toNat ≤ 122) ∨ (65 ≤ c.toNat ∧ c.toNat ≤ 90) ∨
        c.toNat = 45 ∨ c.toNat = 46 ∨ c.toNat = 95 := by
  simp [isRegNameChar, Text.isAsciiAlphanumeric, Text.isAsciiDigit, Text.isAsciiAlphabetic, Char.le_def,
    UInt32.le_iff_toNat_le, ← Char.toNat_inj]
  tauto

/-- What stands between the brackets of a host, or all of it where there are none. -/
def unbracketed (host : String) : String := ((Text.stripPrefix "[" host).bind (Text.stripSuffix "]")).getD host

theorem unbracketed_of_clear {host : String} (clear : ']' ∉ host.toList) : unbracketed host = host := by
  unfold unbracketed
  cases opened : Text.stripPrefix "[" host with
  | none => rfl
  | some rest =>
    cases closed : Text.stripSuffix "]" rest with
    | none => simp [closed]
    | some front =>
      rw [Text.stripPrefix_eq_some_iff.mp opened, Text.stripSuffix_eq_some_iff.mp closed] at clear
      simp at clear

theorem unbracketed_bracketed (inside : String) : unbracketed ("[" ++ inside ++ "]") = inside := by
  have opened : Text.stripPrefix "[" ("[" ++ inside ++ "]") = some (inside ++ "]") :=
    Text.stripPrefix_eq_some_iff.mpr String.append_assoc
  have closed : Text.stripSuffix "]" (inside ++ "]") = some inside := Text.stripSuffix_eq_some_iff.mpr rfl
  simp [unbracketed, opened, closed]

/-- A host literal as the policy reads it: an address, or else a reg-name. -/
inductive Literal (text : String) : Host → Prop
  | ip (addr : IpAddr) (read : AddressText.parseIpAddr text = some addr) : Literal text (.ip addr)
  | name (unread : AddressText.parseIpAddr text = none) (reg : ∀ c ∈ text.toList, isRegNameChar c = true) :
    Literal text (.name (Text.toAsciiLowercase text))

theorem literal_of_parse {text : String} {host : Host} (parsed : parseHostLiteral text = .ok host) :
    text ≠ "" ∧ Literal (unbracketed text) host := by
  unfold parseHostLiteral at parsed
  split at parsed
  · cases parsed
  rename_i nonempty
  refine ⟨fun empty => nonempty (Text.isEmpty_iff.mpr empty), ?_⟩
  have inside : ((Text.stripPrefix "[" text).bind (Text.stripSuffix "]")).getD text = unbracketed text := rfl
  simp only [inside] at parsed
  split at parsed
  · rename_i addr read
    cases parsed
    exact .ip addr read
  · rename_i unread
    split at parsed
    · cases parsed
    · rename_i reg
      cases parsed
      refine .name unread fun c member => ?_
      simp only [List.any_eq_true, not_exists, not_and, Bool.not_eq_true', Bool.not_eq_false] at reg
      exact reg c member

/-- The policy splits at the only closing bracket of a text that opens with one, or else at the last colon. -/
theorem splitHostPort_cases {input host port : String} (split : splitHostPort input = some (host, port)) :
    (input = "[" ++ host ++ "]:" ++ port ∧ ']' ∉ host.toList) ∨
      (Text.rsplitOnce ':' input = some (host, port) ∧ Text.stripPrefix "[" host = none) := by
  unfold splitHostPort at split
  split at split
  · rename_i rest opened
    simp only [Option.bind_eq_bind, Option.bind_eq_some_iff, Prod.exists] at split
    obtain ⟨addr, after, closed, found, colon, same⟩ := split
    cases same
    obtain ⟨whole, clear⟩ := Text.splitOnce_eq_some_iff.mp closed
    rw [Text.stripPrefix_eq_some_iff.mp colon] at whole
    refine .inl ⟨?_, clear⟩
    rw [Text.stripPrefix_eq_some_iff.mp opened, ← String.toList_inj, String.toList_append, whole]
    simp
  · rename_i bare
    simp only [Option.bind_eq_bind, Option.bind_eq_some_iff, Option.ite_none_left_eq_some, Prod.exists] at split
    obtain ⟨front, back, found, -, same⟩ := split
    cases same
    refine .inr ⟨found, ?_⟩
    rw [Option.eq_none_iff_forall_ne_some]
    intro rest opened
    have whole := (Text.rsplitOnce_eq_some_iff.mp found).1
    rw [Text.stripPrefix_eq_some_iff.mp opened] at whole
    have opened : Text.stripPrefix "[" input = some (rest ++ ":" ++ port) := by
      rw [Text.stripPrefix_eq_some_iff, ← String.toList_inj, whole]
      simp
    simp [bare] at opened

theorem destination_parts {input : String} {destination : Destination}
    (parsed : Destination.parse input = .ok destination) :
    ∃ hostPart portPart, splitHostPort (Text.trim input) = some (hostPart, portPart) ∧
      Text.parseU16 portPart = some destination.port ∧ destination.port ≠ 0 ∧
      parseHostLiteral hostPart = .ok destination.host := by
  simp only [Destination.parse] at parsed
  split at parsed
  · cases parsed
  split at parsed
  · cases parsed
  rename_i hostPart portPart split
  split at parsed
  · cases parsed
  rename_i port numbered
  obtain ⟨numbered, positive⟩ := Option.filter_eq_some_iff.mp numbered
  obtain ⟨host, literal, made⟩ := Result.bind_eq_ok_iff.mp parsed
  cases made
  exact ⟨hostPart, portPart, split, numbered, by simpa using positive, literal⟩

/-- What is split off as a host has no brackets around it any more. -/
theorem splitHostPort_unbracketed {input host port : String} (split : splitHostPort input = some (host, port)) :
    unbracketed host = host := by
  rcases splitHostPort_cases split with ⟨-, clear⟩ | ⟨-, bare⟩
  · exact unbracketed_of_clear clear
  · simp [unbracketed, bare]

theorem Destination.parse_literal {input : String} {destination : Destination}
    (parsed : Destination.parse input = .ok destination) :
    destination.port ≠ 0 ∧ ∃ text, text ≠ "" ∧ Literal text destination.host := by
  obtain ⟨host, port, split, -, positive, literal⟩ := destination_parts parsed
  obtain ⟨nonempty, literal⟩ := literal_of_parse literal
  rw [splitHostPort_unbracketed split] at literal
  exact ⟨positive, host, nonempty, literal⟩

/-! ## A destination as a pattern -/

def Host.pattern : Host → HostPattern
  | .name text => .exact text
  | .ip addr => .ip addr

/-- Nothing in a destination's text is white space or means something in a pattern. -/
def isPlainChar (c : Char) : Bool := isRegNameChar c || AddressText.isAddressChar c

theorem isRegNameChar_toLower {c : Char} (reg : isRegNameChar c = true) : isRegNameChar c.toLower = true := by
  have value := Text.toNat_toLower c
  rw [isRegNameChar_iff] at reg ⊢
  simp only [Char.reduceToNat] at value
  split at value <;> omega

theorem isRegNameChar_of_mem_lowercase {text : String} (reg : ∀ c ∈ text.toList, isRegNameChar c = true) {c : Char}
    (member : c ∈ (Text.toAsciiLowercase text).toList) : isRegNameChar c = true := by
  rw [Text.toAsciiLowercase, String.toList_ofList] at member
  obtain ⟨original, inside, rfl⟩ := List.mem_map.mp member
  exact isRegNameChar_toLower (reg original inside)

theorem isPlainChar_bounds {c : Char} (plain : isPlainChar c = true) :
    45 ≤ c.toNat ∧ c.toNat ≤ 122 ∧ c ≠ '/' ∧ c ≠ '[' ∧ c ≠ ']' := by
  have le_iff (low high : Char) : low ≤ high ↔ low.toNat ≤ high.toNat := UInt32.le_iff_toNat_le
  simp only [isPlainChar, Bool.or_eq_true] at plain
  simp only [ne_eq, ← Char.toNat_inj, Char.reduceToNat]
  rcases plain with reg | address
  · have range := isRegNameChar_iff.mp reg
    omega
  · simp only [AddressText.isAddressChar, AddressText.toDigit, Bool.or_eq_true, beq_iff_eq, ← Char.toNat_inj,
      Option.isSome_filter, le_iff, Char.reduceToNat] at address
    rcases address with (digit | colon) | dot
    · split at digit
      · omega
      split at digit
      · omega
      split at digit
      · omega
      · cases digit
    · omega
    · omega

theorem isWhitespace_of_isPlainChar {c : Char} (plain : isPlainChar c = true) : Text.isWhitespace c = false := by
  have range := isPlainChar_bounds plain
  simp [Text.isWhitespace]
  omega

/-- The text of a host, without brackets. -/
def Host.bare : Host → String
  | .name text => text
  | .ip (.v4 bits) => v4Text bits
  | .ip (.v6 bits) => v6Text bits

section
variable {text : String} {host : Host}

theorem Literal.parseIpAddr_bare (literal : Literal text host) :
    AddressText.parseIpAddr host.bare = match host with
      | .name _ => none
      | .ip addr => some addr := by
  cases literal with
  | ip addr read =>
    cases addr with
    | v4 bits => exact AddressText.parseIpAddr_v4Text bits
    | v6 bits => exact AddressText.parseIpAddr_v6Text bits
  | name unread reg => exact (AddressText.parseIpAddr_toAsciiLowercase text).trans unread

theorem Literal.plain (literal : Literal text host) : ∀ c ∈ text.toList, isPlainChar c = true := by
  intro c member
  cases literal with
  | ip addr read => simp [isPlainChar, AddressText.parseIpAddr_chars read c member]
  | name unread reg => simp [isPlainChar, reg c member]

theorem Literal.absent (literal : Literal text host) {c : Char} (special : isPlainChar c = false) : c ∉ text.toList := by
  intro member
  rw [literal.plain c member] at special
  cases special

/-- A host is read from its own text as well. -/
theorem Literal.bare (literal : Literal text host) : Literal host.bare host := by
  have printed := literal.parseIpAddr_bare
  cases literal with
  | ip addr read => exact .ip addr printed
  | name unread reg =>
    have again := Literal.name printed fun c => isRegNameChar_of_mem_lowercase reg
    simp only [Host.bare] at again
    rw [Text.toAsciiLowercase_toAsciiLowercase] at again
    exact again

theorem Literal.bare_ne_empty (literal : Literal text host) (nonempty : text ≠ "") : host.bare ≠ "" := by
  cases literal with
  | ip addr read =>
    intro empty
    have printed := (Literal.ip addr read).parseIpAddr_bare
    rw [empty] at printed
    cases printed
  | name unread reg =>
    intro empty
    apply nonempty
    have chars := congrArg String.toList empty
    rw [← String.toList_inj]
    simpa [Host.bare, Text.toAsciiLowercase] using chars

theorem Literal.parseHostLiteral (literal : Literal text host) (nonempty : text ≠ "") :
    Engine.parseHostLiteral text = .ok host := by
  have filled : Text.isEmpty text = false := by
    rw [Bool.eq_false_iff, Ne, Text.isEmpty_iff]
    exact nonempty
  have stripped : ((Text.stripPrefix "[" text).bind (Text.stripSuffix "]")).getD text = text :=
    unbracketed_of_clear (literal.absent (by decide))
  cases literal with
  | ip addr read => simp only [Engine.parseHostLiteral, filled, stripped, read, Bool.false_eq_true, if_false]
  | name unread reg =>
    have legal : text.toList.any (fun c => !isRegNameChar c) = false := by
      rw [List.any_eq_false]
      intro c member
      simp [reg c member]
    simp only [Engine.parseHostLiteral, filled, stripped, unread, legal, Bool.false_eq_true, if_false]

/-- No wildcard and no other name comes of a text that was read as a literal. -/
theorem Literal.parseHostPattern (literal : Literal text host) (nonempty : text ≠ "") (input : String) :
    parseHostPattern input text = .ok host.pattern := by
  have notStar : text ≠ "*" := by
    rintro rfl
    exact literal.absent (by decide : isPlainChar '*' = false) (List.mem_singleton.mpr rfl)
  have noWildcard : Text.stripPrefix "*." text = none := Text.stripPrefix_eq_none rfl (literal.absent (by decide))
  have read := literal.parseHostLiteral nonempty
  cases literal with
  | ip addr parsed => simp only [Engine.parseHostPattern, if_neg notStar, noWildcard, parsed, Host.pattern]
  | name unread reg =>
    simp only [Engine.parseHostPattern, if_neg notStar, noWildcard, unread, read]
    rfl

end

theorem parsePortPattern_toString {port : UInt16} (positive : port ≠ 0) :
    parsePortPattern (toString port.toNat) = .ok (.exact port) := by
  have notStar : toString port.toNat ≠ "*" := by
    intro star
    apply Text.not_mem_toString_of_not_digit (by decide : Text.isAsciiDigit '*' = false) port.toNat
    rw [star]
    exact List.mem_singleton.mpr rfl
  have noRange : Text.splitOnce '-' (toString port.toNat) = none :=
    Text.splitOnce_eq_none (Text.not_mem_toString_of_not_digit (by decide) _)
  have read := Text.parseU16_toString port
  generalize toString port.toNat = shown at notStar noRange read ⊢
  simp [parsePortPattern, notStar, noRange, read, positive, Option.filter]

/-- A host without colons stands before the port as it is. -/
theorem splitHostPort_bare {host port : String} (noBracket : '[' ∉ host.toList) (noColon : ':' ∉ host.toList)
    (plainPort : '[' ∉ port.toList ∧ ':' ∉ port.toList) :
    splitHostPort (host ++ ":" ++ port) = some (host, port) := by
  have opened : Text.stripPrefix "[" (host ++ ":" ++ port) = none := by
    refine @Text.stripPrefix_eq_none "[" _ '[' rfl ?_
    simp [noBracket, plainPort.1]
  have found : Text.rsplitOnce ':' (host ++ ":" ++ port) = some (host, port) := by
    rw [Text.rsplitOnce_eq_some_iff]
    exact ⟨by simp, plainPort.2⟩
  have single : Text.contains host ':' = false := by simpa [Text.contains] using noColon
  simp [splitHostPort, opened, found, single]

theorem splitHostPort_bracketed {host port : String} (noBracket : ']' ∉ host.toList) :
    splitHostPort ("[" ++ host ++ "]" ++ ":" ++ port) = some (host, port) := by
  have opened : Text.stripPrefix "[" ("[" ++ host ++ "]" ++ ":" ++ port) = some (host ++ "]" ++ ":" ++ port) := by
    rw [Text.stripPrefix_eq_some_iff]
    simp only [String.append_assoc]
  have closed : Text.splitOnce ']' (host ++ "]" ++ ":" ++ port) = some (host, ":" ++ port) := by
    rw [Text.splitOnce_eq_some_iff]
    exact ⟨by simp, noBracket⟩
  have colon : Text.stripPrefix ":" (":" ++ port) = some port := Text.stripPrefix_eq_some_iff.mpr rfl
  simp [splitHostPort, opened, closed, colon]

theorem Destination.splitHostPort_text {destination : Destination} {text : String}
    (literal : Literal text destination.host) :
    splitHostPort destination.text = some (destination.host.bare, toString destination.port.toNat) := by
  have port : '[' ∉ (toString destination.port.toNat).toList ∧ ':' ∉ (toString destination.port.toNat).toList :=
    ⟨Text.not_mem_toString_of_not_digit (by decide) _, Text.not_mem_toString_of_not_digit (by decide) _⟩
  have opening : '[' ∉ destination.host.bare.toList := literal.bare.absent (by decide)
  have closing : ']' ∉ destination.host.bare.toList := literal.bare.absent (by decide)
  obtain ⟨host, number⟩ := destination
  cases literal with
  | name unread reg =>
    refine splitHostPort_bare opening ?_ port
    intro colon
    exact absurd (isRegNameChar_of_mem_lowercase reg colon) (by decide)
  | ip addr read =>
    cases addr with
    | v4 bits => exact splitHostPort_bare opening (AddressText.colon_not_mem_v4Text bits) port
    | v6 bits => exact splitHostPort_bracketed closing

theorem Destination.plain_text {destination : Destination} {text : String} (literal : Literal text destination.host)
    {c : Char} (member : c ∈ destination.text.toList) :
    isPlainChar c = true ∨ c = '[' ∨ c = ']' := by
  have parts : c ∈ destination.host.bare.toList ∨ c = ':' ∨ c ∈ (toString destination.port.toNat).toList ∨ c = '[' ∨
      c = ']' := by
    obtain ⟨host, number⟩ := destination
    rcases host with name | (bits | bits) <;>
      simp only [Destination.text, Host.bare, IpAddr.hostText, String.toList_append, List.mem_append] at member ⊢ <;>
      simp at member ⊢ <;>
      tauto
  rcases parts with host | rfl | port | bracket
  · exact .inl (literal.bare.plain c host)
  · exact .inl (by decide)
  · rw [Text.toList_toString_nat] at port
    have digit := Text.isAsciiDigit_of_mem_toDigits port
    exact .inl (by simp [isPlainChar, isRegNameChar, Text.isAsciiAlphanumeric, digit])
  · exact .inr bracket

theorem Destination.trim_text {destination : Destination} {text : String} (literal : Literal text destination.host) :
    Text.trim destination.text = destination.text := by
  apply Text.trim_eq_self
  intro c member
  rcases Destination.plain_text literal member with plain | rfl | rfl
  · exact isWhitespace_of_isPlainChar plain
  · decide
  · decide

theorem Destination.text_filled {destination : Destination} {text : String} (literal : Literal text destination.host) :
    Text.isEmpty destination.text = false := by
  rw [Bool.eq_false_iff, Ne, Text.isEmpty_iff]
  intro empty
  have split := Destination.splitHostPort_text literal
  have nothing : splitHostPort "" = none := by decide
  rw [empty, nothing] at split
  cases split

/-- A destination that was parsed prints as a pattern, and as the pattern for itself. -/
theorem DestinationSpec.parse_text {input : String} {destination : Destination}
    (parsed : Destination.parse input = .ok destination) :
    DestinationSpec.parse destination.text =
      .ok ⟨destination.host.pattern, .exact destination.port, destination.text⟩ := by
  obtain ⟨positive, text, nonempty, literal⟩ := Destination.parse_literal parsed
  have split := Destination.splitHostPort_text literal
  have port := parsePortPattern_toString positive
  have host := literal.bare.parseHostPattern (literal.bare_ne_empty nonempty) destination.text
  have trimmed := Destination.trim_text literal
  have filled := Destination.text_filled literal
  have absent {c : Char} (special : isPlainChar c = false) (opening : c ≠ '[') (closing : c ≠ ']') :
      c ∉ destination.text.toList := by
    intro member
    rcases Destination.plain_text literal member with plain | bracket | bracket
    · rw [plain] at special
      cases special
    · exact opening bracket
    · exact closing bracket
  have notStar : destination.text ≠ "*" := by
    intro star
    apply absent (by decide : isPlainChar '*' = false) (by decide) (by decide)
    rw [star]
    exact List.mem_singleton.mpr rfl
  have noSlash : Text.splitOnce '/' destination.text = none :=
    Text.splitOnce_eq_none (absent (by decide) (by decide) (by decide))
  generalize toString destination.port.toNat = shown at split port
  simp only [DestinationSpec.parse, trimmed, filled, noSlash, split, port, Bool.false_eq_true, if_false, if_neg notStar,
    Except.map, bind, Except.bind, host, pure, Except.pure]

theorem DestinationSpec.matches_pattern_iff {destination other : Destination} {raw : String} :
    DestinationSpec.matches ⟨destination.host.pattern, .exact destination.port, raw⟩ other = true ↔
      other = destination := by
  obtain ⟨host, port⟩ := destination
  obtain ⟨otherHost, otherPort⟩ := other
  have sides : (⟨otherHost, otherPort⟩ : Destination) = ⟨host, port⟩ ↔ port = otherPort ∧ host = otherHost := by
    rw [Destination.mk.injEq, and_comm, eq_comm, @eq_comm _ otherHost]
  rw [sides, DestinationSpec.matches, Bool.and_eq_true]
  refine and_congr (by simp [PortPattern.matches]) ?_
  cases host with
  | name text =>
    cases otherHost with
    | name otherText => simp [hostMatches, Host.pattern]
    | ip otherAddr => simp [hostMatches, Host.pattern]
  | ip addr =>
    cases otherHost with
    | name otherText => simp [hostMatches, Host.pattern]
    | ip otherAddr => simp [hostMatches, Host.pattern]

theorem Destination.eq_of_text_eq {input other : String} {left right : Destination}
    (leftParsed : Destination.parse input = .ok left) (rightParsed : Destination.parse other = .ok right)
    (same : left.text = right.text) : left = right := by
  have pattern := DestinationSpec.parse_text leftParsed
  rw [same, DestinationSpec.parse_text rightParsed, Except.ok.injEq] at pattern
  have accepts : DestinationSpec.matches ⟨left.host.pattern, .exact left.port, right.text⟩ left = true :=
    DestinationSpec.matches_pattern_iff.mpr rfl
  rw [← pattern] at accepts
  exact DestinationSpec.matches_pattern_iff.mp accepts

/-! ## The text a pattern keeps -/

theorem parseCidr_eq_ok {input raw addr len : String} {spec : DestinationSpec} (parsed : parseCidr input raw addr len = .ok spec)
    (other : String) : parseCidr other raw addr len = .ok spec ∧ spec.raw = raw ∧
      ∃ ip, AddressText.parseIpAddr addr = some ip := by
  unfold parseCidr at parsed ⊢
  cases read : AddressText.parseIpAddr addr with
  | none => simp [read] at parsed
  | some ip =>
    cases number : Text.parseU16 len with
    | none => simp [read, number] at parsed
    | some len =>
      simp only [read, number] at parsed ⊢
      split at parsed
      · rename_i bounded
        cases parsed
        exact ⟨dif_pos bounded, rfl, ip, rfl⟩
      · cases parsed

theorem parseHostPattern_eq_ok {input hostPart : String} {pattern : HostPattern}
    (parsed : parseHostPattern input hostPart = .ok pattern) (other : String) :
    parseHostPattern other hostPart = .ok pattern := by
  unfold parseHostPattern at parsed ⊢
  by_cases star : hostPart = "*"
  · rw [if_pos star] at parsed ⊢
    exact parsed
  rw [if_neg star] at parsed ⊢
  cases wildcard : Text.stripPrefix "*." hostPart with
  | none =>
    rw [wildcard] at parsed
    exact parsed
  | some tail =>
    simp only [wildcard] at parsed ⊢
    by_cases bad : (Text.isEmpty tail || Text.contains tail '*') = true
    · rw [if_pos bad] at parsed
      cases parsed
    · rw [if_neg bad] at parsed ⊢
      exact parsed

/-- The steps of a parse that succeeds. -/
inductive PatternParts (text : String) : DestinationSpec → Prop
  | any (star : text = "*") : PatternParts text ⟨.any, .any, text⟩
  | cidr (addr len : String) (spec : DestinationSpec) (split : Text.splitOnce '/' text = some (addr, len))
    (parsed : parseCidr text text addr len = .ok spec) : PatternParts text spec
  | port (hostPart portPart : String) (host : HostPattern) (port : PortPattern)
    (noSlash : Text.splitOnce '/' text = none) (split : splitHostPort text = some (hostPart, portPart))
    (portParsed : parsePortPattern portPart = .ok port) (hostParsed : parseHostPattern text hostPart = .ok host) :
    PatternParts text ⟨host, port, text⟩
  | host (host : HostPattern) (noSlash : Text.splitOnce '/' text = none) (split : splitHostPort text = none)
    (hostParsed : parseHostPattern text text = .ok host) : PatternParts text ⟨host, .any, text⟩

theorem DestinationSpec.parse_parts {input : String} {spec : DestinationSpec} (parsed : DestinationSpec.parse input = .ok spec) :
    PatternParts (Text.trim input) spec := by
  unfold DestinationSpec.parse at parsed
  dsimp only at parsed
  generalize Text.trim input = text at parsed ⊢
  split at parsed
  · cases parsed
  split at parsed
  · rename_i star
    cases parsed
    exact .any star
  split at parsed
  · rename_i addr len split
    exact .cidr addr len spec split (parseCidr_eq_ok parsed _).1
  · rename_i noSlash
    cases split : splitHostPort text with
    | some parts =>
      obtain ⟨hostPart, portPart⟩ := parts
      simp only [split, Result.bind_eq_ok_iff, Result.map_eq_ok_iff] at parsed
      obtain ⟨_, ⟨port, portParsed, rfl⟩, host, hostParsed, made⟩ := parsed
      cases made
      exact .port hostPart portPart host port noSlash split portParsed (parseHostPattern_eq_ok hostParsed _)
    | none =>
      simp only [split, Result.bind_eq_ok_iff] at parsed
      obtain ⟨_, whole, host, hostParsed, made⟩ := parsed
      cases whole
      cases made
      exact .host host noSlash split (parseHostPattern_eq_ok hostParsed _)

theorem PatternParts.raw_eq {text : String} {spec : DestinationSpec} (parts : PatternParts text spec) : spec.raw = text := by
  cases parts with
  | any star => rfl
  | cidr addr len spec split parsed => exact (parseCidr_eq_ok parsed text).2.1
  | port hostPart portPart host port noSlash split portParsed hostParsed => rfl
  | host host noSlash split hostParsed => rfl

theorem PatternParts.parse {text : String} {spec : DestinationSpec} (parts : PatternParts text spec)
    (trimmed : Text.trim text = text) (filled : Text.isEmpty text = false) : DestinationSpec.parse text = .ok spec := by
  rw [DestinationSpec.parse, trimmed]
  simp only [filled, Bool.false_eq_true, if_false]
  cases parts with
  | any star => rw [if_pos star]
  | cidr addr len spec split parsed =>
    have notStar : text ≠ "*" := by
      rintro rfl
      have nothing : Text.splitOnce '/' "*" = none := by decide
      rw [nothing] at split
      cases split
    rw [if_neg notStar, split]
    exact parsed
  | port hostPart portPart host port noSlash split portParsed hostParsed =>
    have notStar : text ≠ "*" := by
      rintro rfl
      have nothing : splitHostPort "*" = none := by decide
      rw [nothing] at split
      cases split
    rw [if_neg notStar, noSlash]
    simp only [split, portParsed, Except.map, hostParsed, bind, Except.bind, pure, Except.pure]
  | host host noSlash split hostParsed =>
    by_cases star : text = "*"
    · subst star
      rw [if_pos rfl, Except.ok.injEq]
      have any : parseHostPattern "*" "*" = .ok .any := by decide
      rw [Except.ok.inj (any.symm.trans hostParsed)]
    · rw [if_neg star, noSlash]
      simp only [split, hostParsed, bind, Except.bind, pure, Except.pure]

/-- A pattern is read again from the text it keeps. -/
theorem DestinationSpec.parse_raw {input : String} {spec : DestinationSpec} (parsed : DestinationSpec.parse input = .ok spec) :
    DestinationSpec.parse spec.raw = .ok spec := by
  have parts := DestinationSpec.parse_parts parsed
  have filled : Text.isEmpty (Text.trim input) = false := by
    by_contra empty
    rw [Bool.not_eq_false] at empty
    simp [DestinationSpec.parse, empty] at parsed
  rw [parts.raw_eq]
  exact parts.parse (Text.trim_trim input) filled

section
variable {word rest : List Char} {text : String}

/-- A separator that is not in the word comes after it. -/
theorem word_prefix_of_split {separator : Char} {front back : List Char} (absent : separator ∉ word)
    (same : word ++ rest = front ++ separator :: back) : word <+: front := by
  rcases List.append_eq_append_iff.mp same with ⟨gap, longer, -⟩ | ⟨gap, shorter, later⟩
  · exact ⟨gap, longer.symm⟩
  · cases gap with
    | nil => exact ⟨[], by rw [List.append_nil, shorter, List.append_nil]⟩
    | cons c gap =>
      obtain ⟨rfl, -⟩ := List.cons.inj later
      rw [shorter] at absent
      exact absurd (List.mem_append_right _ (List.mem_cons_self ..)) absent

/-- No host starts with a word and a space, unless it starts with a wildcard or a bracket. -/
theorem parseHostPattern_spaced {input hostPart : String} {first : Char} (starts : hostPart.toList.head? = some first)
    (plain : first ≠ '*' ∧ first ≠ '[') (spaced : ' ' ∈ hostPart.toList) (pattern : HostPattern) :
    parseHostPattern input hostPart ≠ .ok pattern := by
  intro parsed
  have noAddress : AddressText.parseIpAddr hostPart = none := by
    rw [Option.eq_none_iff_forall_ne_some]
    intro ip read
    exact absurd (AddressText.parseIpAddr_chars read ' ' spaced) (by decide)
  have unopened {head : String} {c : Char} (opens : head.toList.head? = some c) (other : first ≠ c) :
      Text.stripPrefix head hostPart = none := by
    rw [Option.eq_none_iff_forall_ne_some]
    intro tail stripped
    rw [Text.stripPrefix_eq_some_iff.mp stripped, String.toList_append,
      List.head?_append_of_ne_nil _ (by rintro none; simp [none] at opens), opens, Option.some.injEq] at starts
    exact other starts.symm
  have notStar : hostPart ≠ "*" := by
    rintro rfl
    exact plain.1 (Option.some.inj starts).symm
  have wildcard := @unopened "*." '*' rfl plain.1
  have bare : unbracketed hostPart = hostPart := by simp [unbracketed, @unopened "[" '[' rfl plain.2]
  simp only [parseHostPattern, if_neg notStar, wildcard, noAddress] at parsed
  obtain ⟨host, literal, -⟩ := Result.bind_eq_ok_iff.mp parsed
  obtain ⟨-, literal⟩ := literal_of_parse literal
  rw [bare] at literal
  cases literal with
  | ip addr read => exact absurd (AddressText.parseIpAddr_chars read ' ' spaced) (by decide)
  | name unread reg => exact absurd (reg ' ' spaced) (by decide)

end

/-- A pattern does not start with a word and a space. -/
theorem PatternParts.not_spaced {word rest : List Char} {text : String} {spec : DestinationSpec}
    (parts : PatternParts text spec) (some : word ≠ []) (letters : ∀ c ∈ word, Text.isAsciiAlphanumeric c = true) :
    text.toList ≠ word ++ ' ' :: rest := by
  intro whole
  have absent {c : Char} (other : Text.isAsciiAlphanumeric c = false) (notSpace : c ≠ ' ') : c ∉ word ++ [' '] := by
    rw [List.mem_append, List.mem_singleton]
    rintro (inside | same)
    · rw [letters c inside] at other
      cases other
    · exact notSpace same
  have shown : text.toList = (word ++ [' ']) ++ rest := by rw [whole, List.append_assoc, List.singleton_append]
  obtain ⟨first, more, rfl⟩ := List.exists_cons_of_ne_nil some
  have letter := letters first (List.mem_cons_self ..)
  have plain : first ≠ '*' ∧ first ≠ '[' := by
    constructor <;> rintro rfl <;> exact absurd letter (by decide)
  -- Whatever is taken for the host starts with the word and the space.
  have refused {hostPart : String} {pattern : HostPattern} (starts : (first :: more) ++ [' '] <+: hostPart.toList) :
      parseHostPattern text hostPart ≠ .ok pattern := by
    obtain ⟨tail, same⟩ := starts
    apply parseHostPattern_spaced _ plain _ pattern
    · rw [← same]
      rfl
    · rw [← same]
      simp
  cases parts with
  | any star =>
    rw [star] at whole
    cases congrArg List.head? whole
    exact plain.1 rfl
  | cidr addr len spec split parsed =>
    obtain ⟨same, -⟩ := Text.splitOnce_eq_some_iff.mp split
    rw [shown] at same
    obtain ⟨tail, starts⟩ := word_prefix_of_split (absent (by decide) (by decide)) same
    obtain ⟨-, -, ip, read⟩ := parseCidr_eq_ok parsed text
    exact absurd (AddressText.parseIpAddr_chars read ' ' (by rw [← starts]; simp)) (by decide)
  | port hostPart portPart host port noSlash split portParsed hostParsed =>
    rcases splitHostPort_cases split with ⟨bracketed, -⟩ | ⟨found, -⟩
    · rw [bracketed] at whole
      have opens := congrArg List.head? whole
      simp at opens
      exact plain.2 opens.symm
    · have same := (Text.rsplitOnce_eq_some_iff.mp found).1
      rw [shown] at same
      exact refused (word_prefix_of_split (absent (by decide) (by decide)) same) hostParsed
  | host host noSlash split hostParsed => exact refused ⟨rest, shown.symm⟩ hostParsed

end Skimasque.Engine
