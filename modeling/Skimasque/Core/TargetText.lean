import Skimasque.Core.Target
import Skimasque.Library.AddressPrinting
import Skimasque.Library.Result

/-! The texts of targets: what is read gives back its text, with one host excepted. -/

set_option autoImplicit false

namespace Skimasque.Core
open Library Library.Address

/-! ## Where a target is split -/

theorem parseU16_clear {text : String} {port : UInt16} (parsed : Text.parseU16 text = some port) :
    ']' ∉ text.toList := by
  intro member
  exact absurd (Text.parseU16_chars parsed _ member) (by decide)

/-- `[host]:port`. -/
theorem target_split_bracketed {input inside port : String} (whole : input = "[" ++ inside ++ "]:" ++ port)
    (clear : ']' ∉ port.toList) : Target.split input = .ok ("[" ++ inside ++ "]", port) := by
  have found : Text.rsplitOnce ']' input = some ("[" ++ inside, ":" ++ port) := by
    rw [Text.rsplitOnce_eq_some_iff, whole]
    constructor
    · simp
    · simpa using clear
  have stripped : Text.stripPrefix ":" (":" ++ port) = some port := Text.stripPrefix_eq_some_iff.mpr rfl
  simp only [Target.split, found, stripped]

/-- `host:port`. -/
theorem target_split_bare {input host port : String} (found : Text.rsplitOnce ':' input = some (host, port))
    (hostClear : ']' ∉ host.toList) (portClear : ']' ∉ port.toList) : Target.split input = .ok (host, port) := by
  have unbracketed : Text.rsplitOnce ']' input = none := by
    rw [Text.rsplitOnce_eq_none_iff, (Text.rsplitOnce_eq_some_iff.mp found).1]
    simp [hostClear, portClear]
  simp only [Target.split, unbracketed, found]

/-! ## Hosts -/

def unbracketedHost (host : String) : String := ((Text.stripPrefix "[" host).bind (Text.stripSuffix "]")).getD host

/-- A name that a host text is read as. -/
structure HostName (name : String) : Prop where
  notAddress : AddressText.parseIpAddr name = none
  noZone : '%' ∉ name.toList
  legal : ∀ c ∈ name.toList, isIllegalHostChar c = false

/-- What reading a host can give: an address, or such a name. -/
def TargetHost.Readable : TargetHost → Prop
  | .ip _ => True
  | .name text => HostName text

theorem unbracketedHost_eq (host : String) : unbracketedHost host = host ∨ host = "[" ++ unbracketedHost host ++ "]" := by
  unfold unbracketedHost
  cases front : Text.stripPrefix "[" host with
  | none => exact .inl rfl
  | some rest =>
    cases back : Text.stripSuffix "]" rest with
    | none => exact .inl (by rw [Option.bind_some, back]; rfl)
    | some inside =>
      rw [Option.bind_some, back, Option.getD_some, String.append_assoc, ← Text.stripSuffix_eq_some_iff.mp back]
      exact .inr (Text.stripPrefix_eq_some_iff.mp front)

theorem unbracketedHost_bracketed (host : String) : unbracketedHost ("[" ++ host ++ "]") = host := by
  have front : Text.stripPrefix "[" ("[" ++ host ++ "]") = some (host ++ "]") := by
    rw [Text.stripPrefix_eq_some_iff, String.append_assoc]
  have back : Text.stripSuffix "]" (host ++ "]") = some host := Text.stripSuffix_eq_some_iff.mpr rfl
  rw [unbracketedHost, front, Option.bind_some, back, Option.getD_some]

theorem unbracketedHost_clear {host : String} (clear : '[' ∉ host.toList) : unbracketedHost host = host := by
  have absent : Text.stripPrefix "[" host = none := by
    cases found : Text.stripPrefix "[" host with
    | none => rfl
    | some rest =>
      rw [Text.stripPrefix_eq_some_iff.mp found, String.toList_append] at clear
      exact absurd (List.mem_append_left _ (List.mem_cons_self ..)) clear
  rw [unbracketedHost, absent]
  rfl

theorem TargetHost.readable_of_parse {host : String} {read : TargetHost} (parsed : TargetHost.parse host = .ok read) :
    read.Readable ∧ (read = .name "" → host = "[]") := by
  unfold TargetHost.parse at parsed
  split at parsed
  · cases parsed
  rename_i filled
  split at parsed
  · cases parsed
  rename_i zoneless
  rw [← unbracketedHost] at parsed
  dsimp only at parsed
  split at parsed
  · cases parsed
    exact ⟨trivial, TargetHost.noConfusion⟩
  · rename_i notAddress
    split at parsed
    · cases parsed
    · rename_i legal
      cases parsed
      rw [List.any_eq_true, not_exists] at legal
      have zoneless : '%' ∉ host.toList := fun member => zoneless (by simpa [Text.contains] using member)
      refine ⟨⟨notAddress, ?_, fun c member => ?_⟩, ?_⟩
      · rcases unbracketedHost_eq host with same | same
        · rw [same]
          exact zoneless
        · intro member
          rw [same] at zoneless
          exact zoneless (by simp [member])
      · exact Bool.eq_false_iff.mpr fun illegal => legal c ⟨member, illegal⟩
      · intro empty
        rcases unbracketedHost_eq host with same | same
        · rw [TargetHost.name.inj empty] at same
          exact absurd (Text.isEmpty_iff.mpr same.symm) filled
        · rw [TargetHost.name.inj empty] at same
          exact same

theorem TargetHost.parse_name {name : String} (readable : HostName name) (filled : name ≠ "") :
    TargetHost.parse name = .ok (.name name) := by
  have bracket : '[' ∉ name.toList := fun member => absurd (readable.legal _ member) (by decide)
  have some : ¬Text.isEmpty name = true := fun empty => filled (Text.isEmpty_iff.mp empty)
  have zoneless : ¬Text.contains name '%' = true := by simpa [Text.contains] using readable.noZone
  have legal : ¬name.toList.any isIllegalHostChar = true := by
    rw [List.any_eq_true]
    rintro ⟨c, member, illegal⟩
    rw [readable.legal c member] at illegal
    cases illegal
  have plain : ((Text.stripPrefix "[" name).bind (Text.stripSuffix "]")).getD name = name := unbracketedHost_clear bracket
  simp only [TargetHost.parse, if_neg some, if_neg zoneless, plain, readable.notAddress, if_neg legal]

theorem TargetHost.parse_address {host : String} {addr : IpAddr} (read : AddressText.parseIpAddr (unbracketedHost host) = some addr)
    (filled : host ≠ "") (noZone : '%' ∉ host.toList) : TargetHost.parse host = .ok (.ip addr) := by
  have some : ¬Text.isEmpty host = true := fun empty => filled (Text.isEmpty_iff.mp empty)
  have zoneless : ¬Text.contains host '%' = true := by simpa [Text.contains] using noZone
  change AddressText.parseIpAddr (((Text.stripPrefix "[" host).bind (Text.stripSuffix "]")).getD host) = _ at read
  simp only [TargetHost.parse, if_neg some, if_neg zoneless, read]

/-! ## Targets -/

theorem Target.parse_eq_ok_iff {text : String} {target : Target} : Target.parse text = .ok target ↔
    ∃ host port, Target.split text = .ok (host, port) ∧ Text.parseU16 port = some target.port ∧
      TargetHost.parse host = .ok target.host ∧ target.port ≠ 0 := by
  constructor
  · intro parsed
    obtain ⟨⟨host, port⟩, split, parsed⟩ := Result.bind_eq_ok_iff.mp parsed
    simp only at parsed
    split at parsed
    · cases parsed
    · rename_i number read
      obtain ⟨found, hostRead, built⟩ := Result.bind_eq_ok_iff.mp parsed
      unfold Target.new at built
      split at built
      · cases built
      · rename_i positive
        cases built
        exact ⟨host, port, split, read, hostRead, positive⟩
  · rintro ⟨host, port, split, read, hostRead, positive⟩
    simp only [Target.parse, split, read, hostRead, Target.new, if_neg positive, bind, Except.bind]

theorem split_empty_host {text port : String} (split : Target.split text = .ok ("[]", port)) : text = "[]:" ++ port := by
  unfold Target.split at split
  split at split
  · rename_i front rest divided
    split at split
    · rename_i tail stripped
      have same := (Except.ok.inj split)
      rw [Prod.mk.injEq] at same
      obtain ⟨host, rfl⟩ := same
      have whole := (Text.rsplitOnce_eq_some_iff.mp divided).1
      have opened : front.toList = ['['] := by
        have chars := congrArg String.toList host
        rw [String.toList_append] at chars
        exact List.append_cancel_right (chars.trans (show _ = ['['] ++ [']'] from rfl))
      rw [← String.toList_inj, whole, opened, Text.stripPrefix_eq_some_iff.mp stripped]
      simp
    · cases split
  · rename_i unbracketed
    split at split
    · rename_i parts divided
      cases split
      have whole := (Text.rsplitOnce_eq_some_iff.mp divided).1
      have clear := Text.rsplitOnce_eq_none_iff.mp unbracketed
      rw [whole] at clear
      exact absurd (List.mem_append_left _ (by decide)) clear
    · cases split

theorem rsplitOnce_text {host : String} (port : UInt16) :
    Text.rsplitOnce ':' (host ++ ":" ++ toString port.toNat) = some (host, toString port.toNat) :=
  Text.rsplitOnce_eq_some_iff.mpr ⟨by simp, Text.not_mem_toString_of_not_digit (by decide) port.toNat⟩

theorem notMem_of_parseIpAddr {c : Char} (other : AddressText.isAddressChar c = false) {text : String} {addr : IpAddr}
    (read : AddressText.parseIpAddr text = some addr) : c ∉ text.toList := by
  intro member
  rw [AddressText.parseIpAddr_chars read _ member] at other
  cases other

/-- The text of a target is read as the target. -/
theorem Target.parse_text {target : Target} (readable : target.host.Readable) (filled : target.host ≠ .name "")
    (positive : target.port ≠ 0) : Target.parse target.text = .ok target := by
  obtain ⟨host, port⟩ := target
  have portClear : ']' ∉ (toString port.toNat).toList := Text.not_mem_toString_of_not_digit (by decide) port.toNat
  have number := Text.parseU16_toString port
  rw [Target.parse_eq_ok_iff]
  cases host with
  | name name =>
    have readable : HostName name := readable
    have bracket : ']' ∉ name.toList := fun member => absurd (readable.legal _ member) (by decide)
    have some : name ≠ "" := fun empty => filled (congrArg TargetHost.name empty)
    exact ⟨name, _, target_split_bare (rsplitOnce_text port) bracket portClear, number, TargetHost.parse_name readable some,
      positive⟩
  | ip addr =>
    cases addr with
    | v4 bits =>
      have read := AddressText.parseIpAddr_v4Text bits
      have clear : '[' ∉ (v4Text bits).toList := notMem_of_parseIpAddr (by decide) read
      have some : v4Text bits ≠ "" := by
        intro empty
        rw [empty] at read
        cases read
      refine ⟨v4Text bits, _, target_split_bare (rsplitOnce_text port) (notMem_of_parseIpAddr (by decide) read) portClear,
        number, TargetHost.parse_address ?_ some (notMem_of_parseIpAddr (by decide) read), positive⟩
      rw [unbracketedHost_clear clear, read]
    | v6 bits =>
      have read := AddressText.parseIpAddr_v6Text bits
      have whole : Target.text ⟨.ip (.v6 bits), port⟩ = "[" ++ v6Text bits ++ "]:" ++ toString port.toNat := by
        simp only [Target.text, TargetHost.text, IpAddr.hostText, String.append_assoc]
        rfl
      refine ⟨_, _, target_split_bracketed whole portClear, number, TargetHost.parse_address ?_ ?_ ?_, positive⟩
      · rw [unbracketedHost_bracketed, read]
      · intro empty
        simpa using congrArg String.toList empty
      · have clear : '%' ∉ (v6Text bits).toList := notMem_of_parseIpAddr (by decide) read
        simpa using clear

/-- A target without a host prints as a text that is not read at all. -/
theorem Target.parse_text_empty {target : Target} (empty : target.host = .name "") :
    Target.parse target.text = .error .emptyHost := by
  have clear : ']' ∉ (toString target.port.toNat).toList :=
    Text.not_mem_toString_of_not_digit (by decide) target.port.toNat
  have split : Target.split target.text = .ok ("", toString target.port.toNat) := by
    rw [Target.text, empty]
    exact target_split_bare (rsplitOnce_text target.port) (by decide) clear
  simp only [Target.parse, split, Text.parseU16_toString, bind, Except.bind]
  rfl

/-- A target that was read prints as a text that is read as the target, identifies it and has a host and a port,
unless the host was a pair of brackets with nothing inside. -/
theorem target_text_is_canonical_iff (text : String) :
    (∀ target, Target.parse text = .ok target → target.host ≠ .name "" ∧ 1 ≤ target.port.toNat ∧ target.port.toNat ≤ 65535 ∧
      Target.parse target.text = .ok target ∧
      ∀ source other, Target.parse source = .ok other → other.text = target.text → other = target) ↔
    ¬∃ port number, text = "[]:" ++ port ∧ Text.parseU16 port = some number ∧ number ≠ 0 := by
  constructor
  · rintro canonical ⟨port, number, rfl, read, positive⟩
    have whole : "[]:" ++ port = "[" ++ "" ++ "]:" ++ port := by
      rw [← String.toList_inj]
      simp
    have split := target_split_bracketed whole (parseU16_clear read)
    rw [show "[" ++ "" ++ "]" = "[]" by decide] at split
    have hostRead : TargetHost.parse "[]" = .ok (.name "") := by decide
    have parsed : Target.parse ("[]:" ++ port) = .ok ⟨.name "", number⟩ :=
      Target.parse_eq_ok_iff.mpr ⟨_, _, split, read, hostRead, positive⟩
    exact (canonical _ parsed).1 rfl
  · intro bracketed target parsed
    obtain ⟨host, port, split, read, hostRead, positive⟩ := Target.parse_eq_ok_iff.mp parsed
    obtain ⟨readable, empty⟩ := TargetHost.readable_of_parse hostRead
    have filled : target.host ≠ .name "" := by
      intro same
      rw [empty same] at split
      exact bracketed ⟨port, target.port, split_empty_host split, read, positive⟩
    have again := Target.parse_text readable filled positive
    have least : target.port.toNat ≠ 0 := fun zero => positive (UInt16.toNat_inj.mp zero)
    refine ⟨filled, by omega, Nat.le_of_lt_succ target.port.toNat_lt, again, fun source other otherParsed same => ?_⟩
    obtain ⟨otherHost, otherPort, _, _, otherRead, otherPositive⟩ := Target.parse_eq_ok_iff.mp otherParsed
    obtain ⟨otherReadable, _⟩ := TargetHost.readable_of_parse otherRead
    by_cases otherFilled : other.host = .name ""
    · have none := Target.parse_text_empty otherFilled
      rw [same, again] at none
      cases none
    · have otherAgain := Target.parse_text otherReadable otherFilled otherPositive
      rw [same, again] at otherAgain
      exact (Except.ok.inj otherAgain).symm

/-- Brackets with nothing inside are read as a name, which is empty. -/
theorem empty_brackets_are_a_host :
    ¬(∀ target, Target.parse "[]:80" = .ok target → target.host ≠ .name "" ∧ 1 ≤ target.port.toNat ∧
      target.port.toNat ≤ 65535 ∧ Target.parse target.text = .ok target ∧
      ∀ source other, Target.parse source = .ok other → other.text = target.text → other = target) ∧
    Target.parse "[]:80" = .ok ⟨.name "", 80⟩ ∧ Target.parse (Target.text ⟨.name "", 80⟩) = .error .emptyHost := by
  have parsed : Target.parse "[]:80" = .ok ⟨.name "", 80⟩ := by decide
  refine ⟨fun canonical => (canonical _ parsed).1 rfl, parsed, by decide⟩

end Skimasque.Core
