import Skimasque.Core.IpCapsule

/-! Reading back the control capsules of IP proxying, and writing out what was read. -/

set_option autoImplicit false

namespace Skimasque.Core
open Library Library.Address

/-! ## Fields -/

theorem takeVarint_encode {value : UInt64} (fits : value.toNat ≤ Varint.maxValue) :
    ∃ bytes, (∀ out, Varint.encode value.toNat out = .ok (out ++ bytes)) ∧
      ∀ more, takeVarint (bytes ++ more) = .ok (value, more) := by
  obtain ⟨bytes, wrote, back⟩ := Varint.take_encode fits
  refine ⟨bytes, wrote, fun more => ?_⟩
  simp only [takeVarint, back, UInt64.ofNat_toNat]

/-- The octets of an address read back under the version in front of them. -/
theorem decodeAddressOfVersion_octets (addr : IpAddr) (more : List UInt8) :
    decodeAddressOfVersion (addr.octets ++ more) (versionOf addr) = .ok (addr, more) := by
  have number := shiftIn_octets addr
  have len := octets_length addr
  have taken : takeAddressBytes (addr.octets ++ more) (addr.width / 8) = .ok (addr.octets, more) := by
    unfold takeAddressBytes
    rw [if_neg (by rw [List.length_append]; omega), List.take_left' len, List.drop_left' len]
  have version : addressLen (versionOf addr) = .ok (addr.width / 8) := by
    cases addr with
    | v4 bits => simp [addressLen, versionOf, IpAddr.isIpv6, IpAddr.width]
    | v6 bits => simp [addressLen, versionOf, IpAddr.isIpv6, IpAddr.width]
  simp only [decodeAddressOfVersion, version, taken, bind, Except.bind]
  cases addr with
  | v4 bits => simp [number, versionOf, IpAddr.isIpv6, IpAddr.value, pure, Except.pure]
  | v6 bits => simp [number, versionOf, IpAddr.isIpv6, IpAddr.value, pure, Except.pure]

theorem maskedBits_of_dvd {width len : Nat} {bits : BitVec width} (bounded : len ≤ width)
    (aligned : 2 ^ (width - len) ∣ bits.toNat) : maskedBits bits len = bits := by
  have small := bits.isLt
  rw [maskedBits_eq bits bounded, ← BitVec.toNat_inj, BitVec.toNat_shiftLeft, BitVec.toNat_ushiftRight,
    Nat.shiftLeft_eq, Nat.shiftRight_eq_div_pow, Nat.div_mul_cancel aligned, Nat.mod_eq_of_lt small]

namespace IpPrefix

/-- No bit is set below the prefix length. -/
def NoHostBits (net : IpPrefix) : Prop := masked net.addr net.prefixLen = net.addr

theorem noHostBits (net : IpPrefix) : net.NoHostBits := by
  obtain ⟨addr, prefixLen, bounded, aligned⟩ := net
  cases addr with
  | v4 bits => exact congrArg IpAddr.v4 (maskedBits_of_dvd bounded aligned)
  | v6 bits => exact congrArg IpAddr.v6 (maskedBits_of_dvd bounded aligned)

theorem new_self (net : IpPrefix) : IpPrefix.new net.addr net.prefixLen = .ok net := by
  unfold IpPrefix.new
  have clear : masked net.addr net.prefixLen = net.addr := net.noHostBits
  rw [dif_pos net.bounded, dif_pos clear]

theorem decode_encodeInto (net : IpPrefix) :
    ∃ bytes, (∀ out, net.encodeInto out = out ++ bytes) ∧ ∀ more, IpPrefix.decode (bytes ++ more) = .ok (net, more) := by
  refine ⟨versionOf net.addr :: net.addr.octets ++ [net.prefixLen], fun out => ?_, fun more => ?_⟩
  · simp [encodeInto, putAddress]
  · simp only [IpPrefix.decode, decodeVersionedAddress, takeU8, List.cons_append, List.append_assoc, bind, Except.bind,
      decodeAddressOfVersion_octets, List.nil_append, new_self, Except.mapError, pure, Except.pure]

end IpPrefix

/-! ## Entries -/

/-- An assigned address reads back if its request id is a varint, which is when it is written. -/
theorem AssignedAddress.carries {address : AssignedAddress} (fits : address.requestId.toNat ≤ Varint.maxValue) :
    Sequence.Carries encodeInto decode address := by
  obtain ⟨idBytes, wroteId, idBack⟩ := takeVarint_encode fits
  obtain ⟨netBytes, wroteNet, netBack⟩ := address.net.decode_encodeInto
  refine ⟨idBytes ++ netBytes, fun out => ?_, fun more => ?_⟩
  · simp [encodeInto, wroteId, Except.mapError, bind, Except.bind, pure, Except.pure, wroteNet]
  · simp [decode, bind, Except.bind, idBack, netBack, pure, Except.pure]

theorem AssignedAddress.fits_of_encodeInto {address : AssignedAddress} {out wire : List UInt8}
    (wrote : encodeInto out address = .ok wire) : address.requestId.toNat ≤ Varint.maxValue := by
  simp only [encodeInto, Result.bind_eq_ok_iff] at wrote
  obtain ⟨after, wroteId, -⟩ := wrote
  cases encoded : Varint.encode address.requestId.toNat out with
  | error error =>
    rw [encoded] at wroteId
    cases wroteId
  | ok bytes => exact Varint.encode_ok encoded

/-- A request is written as an assignment is, apart from the number zero. -/
theorem RequestedAddress.encodeInto_eq (out : List UInt8) (address : RequestedAddress) :
    encodeInto out address = if address.requestId = 0 then .error .zeroRequestId
      else AssignedAddress.encodeInto out ⟨address.requestId, address.net⟩ := rfl

theorem RequestedAddress.carries {address : RequestedAddress} (nonzero : address.requestId ≠ 0)
    (fits : address.requestId.toNat ≤ Varint.maxValue) : Sequence.Carries encodeInto decode address := by
  obtain ⟨bytes, wrote, back⟩ := @AssignedAddress.carries ⟨address.requestId, address.net⟩ fits
  refine ⟨bytes, fun out => ?_, fun more => ?_⟩
  · rw [encodeInto_eq, if_neg nonzero]
    exact wrote out
  · exact decode_eq_ok_iff.mpr ⟨nonzero, back more⟩

theorem RequestedAddress.facts_of_encodeInto {address : RequestedAddress} {out wire : List UInt8}
    (wrote : encodeInto out address = .ok wire) :
    address.requestId ≠ 0 ∧ address.requestId.toNat ≤ Varint.maxValue := by
  rw [encodeInto_eq] at wrote
  split at wrote
  · cases wrote
  · rename_i nonzero
    exact ⟨nonzero, AssignedAddress.fits_of_encodeInto wrote⟩

namespace IpAddressRange

theorem new_self (range : IpAddressRange) : IpAddressRange.new range.start range.finish range.protocol = .ok range := by
  obtain ⟨start, finish, protocol, family, ascending⟩ := range
  cases start with
  | v4 a =>
    cases finish with
    | v4 b => exact dif_neg (BitVec.not_lt.mpr ascending)
    | v6 b => cases family
  | v6 a =>
    cases finish with
    | v4 b => cases family
    | v6 b => exact dif_neg (BitVec.not_lt.mpr ascending)

theorem carries (range : IpAddressRange) : Sequence.Carries encodeInto decode range := by
  have same : versionOf range.finish = range.version := by
    unfold version versionOf
    rw [range.family]
  have finishBack := decodeAddressOfVersion_octets range.finish
  rw [same] at finishBack
  have startBack : ∀ more, decodeAddressOfVersion (range.start.octets ++ more) range.version = .ok (range.start, more) :=
    decodeAddressOfVersion_octets range.start
  refine ⟨range.version :: (range.start.octets ++ (range.finish.octets ++ [range.protocol])), fun out => ?_, fun more => ?_⟩
  · simp [encodeInto, putAddress]
  · simp only [decode, takeU8, List.cons_append, List.append_assoc, bind, Except.bind, startBack, finishBack,
      List.nil_append, new_self, pure, Except.pure]

end IpAddressRange

/-! ## The order of routes -/

namespace IpAddressRange

/-- The order of advertised ranges: by version, then by protocol, then end before start. -/
def Before (a b : IpAddressRange) : Prop :=
  a.version < b.version ∨ a.version = b.version ∧
    (a.protocol < b.protocol ∨ a.protocol = b.protocol ∧ a.finish.value < b.start.value)

def Contains (range : IpAddressRange) (addr : IpAddr) : Prop :=
  addr.isIpv6 = range.start.isIpv6 ∧ range.start.value ≤ addr.value ∧ addr.value ≤ range.finish.value

/-- No address is in both ranges for one protocol number. -/
def Disjoint (a b : IpAddressRange) : Prop :=
  a.protocol = b.protocol → ∀ addr, ¬ (a.Contains addr ∧ b.Contains addr)

theorem addrLess_iff {a b : IpAddr} (family : a.isIpv6 = b.isIpv6) : addrLess a b = true ↔ a.value < b.value := by
  cases a with
  | v4 a =>
    cases b with
    | v4 b => simp [addrLess, IpAddr.value, BitVec.lt_def]
    | v6 b => cases family
  | v6 a =>
    cases b with
    | v4 b => cases family
    | v6 b => simp [addrLess, IpAddr.value, BitVec.lt_def]

/-- The version is the family: ranges of one version hold addresses of one family. -/
theorem family_of_version {a b : IpAddressRange} (same : a.version = b.version) : a.start.isIpv6 = b.start.isIpv6 := by
  unfold version versionOf at same
  cases left : a.start.isIpv6 <;> cases right : b.start.isIpv6 <;> simp [left, right] at same ⊢

theorem rangesOrdered_iff (a b : IpAddressRange) : rangesOrdered a b = true ↔ a.Before b := by
  unfold rangesOrdered Before
  simp only [UInt8.lt_iff_toNat_lt, ← UInt8.toNat_inj]
  cases versions : compare a.version.toNat b.version.toNat with
  | lt => simp [Nat.compare_eq_lt.mp versions]
  | gt =>
    have greater := Nat.compare_eq_gt.mp versions
    simp [Nat.not_lt.mpr (Nat.le_of_lt greater), Nat.ne_of_gt greater]
  | eq =>
    have sameVersion := Nat.compare_eq_eq.mp versions
    cases protocols : compare a.protocol.toNat b.protocol.toNat with
    | lt => simp [sameVersion, Nat.compare_eq_lt.mp protocols]
    | gt =>
      have greater := Nat.compare_eq_gt.mp protocols
      simp [sameVersion, Nat.not_lt.mpr (Nat.le_of_lt greater), Nat.ne_of_gt greater]
    | eq =>
      have family := family_of_version (UInt8.toNat_inj.mp sameVersion)
      rw [a.family] at family
      simp [sameVersion, Nat.compare_eq_eq.mp protocols, addrLess_iff family]

theorem Before.trans {a b c : IpAddressRange} (first : a.Before b) (second : b.Before c) : a.Before c := by
  have middle := b.ascending
  unfold Before at first second ⊢
  simp only [UInt8.lt_iff_toNat_lt, ← UInt8.toNat_inj] at first second ⊢
  omega

theorem Before.disjoint {a b : IpAddressRange} (before : a.Before b) : a.Disjoint b := by
  rintro protocols addr ⟨⟨familyA, -, upper⟩, ⟨familyB, lower, -⟩⟩
  have versions : a.version = b.version := by
    unfold version versionOf
    rw [← familyA, ← familyB]
  unfold Before at before
  rw [versions, protocols] at before
  simp only [UInt8.lt_irrefl, false_or, true_and] at before
  omega

/-- The check of neighbours is a check of every pair. -/
theorem checkRouteOrdering_iff {ranges : List IpAddressRange} :
    checkRouteOrdering ranges = .ok () ↔ ranges.Pairwise Before := by
  have chain : checkRouteOrdering ranges = .ok () ↔ ranges.IsChain Before := by
    induction ranges using checkRouteOrdering.induct with
    | case1 a b rest ordered ih =>
      rw [checkRouteOrdering, if_pos ordered, ih, List.isChain_cons_cons, ← rangesOrdered_iff]
      simp [ordered]
    | case2 a b rest unordered =>
      rw [checkRouteOrdering, if_neg unordered, List.isChain_cons_cons, ← rangesOrdered_iff]
      simp [unordered]
    | case3 ranges short =>
      match ranges, short with
      | [], _ => simp [checkRouteOrdering]
      | [last], _ => simp [checkRouteOrdering]
      | a :: b :: rest, short => exact absurd rfl (short a b rest)
  have transitive : IsTrans IpAddressRange Before := ⟨fun a b c => Before.trans⟩
  rw [chain, List.isChain_iff_pairwise]

end IpAddressRange

/-! ## Capsules -/

namespace IpCapsule

/-- The value is the readings of the capsule's entries, one after the other to its end. -/
def Fills : IpCapsule → List UInt8 → Prop
  | addressAssign addresses, value => Sequence.Entries AssignedAddress.decode value addresses
  | addressRequest addresses, value => Sequence.Entries RequestedAddress.decode value addresses
  | routeAdvertisement ranges, value => Sequence.Entries IpAddressRange.decode value ranges

/-- What the wire can hold: ids that are varints, requests with an id, routes in their order. -/
def Expressible : IpCapsule → Prop
  | addressAssign addresses => ∀ address ∈ addresses, address.requestId.toNat ≤ Varint.maxValue
  | addressRequest addresses =>
    addresses ≠ [] ∧ ∀ address ∈ addresses, address.requestId ≠ 0 ∧ address.requestId.toNat ≤ Varint.maxValue
  | routeAdvertisement ranges => ranges.Pairwise IpAddressRange.Before

/-- The rules of the three types. -/
def Legal : IpCapsule → Prop
  | addressAssign addresses => ∀ address ∈ addresses, address.net.NoHostBits
  | addressRequest addresses =>
    addresses ≠ [] ∧ ∀ address ∈ addresses, address.requestId ≠ 0 ∧ address.net.NoHostBits
  | routeAdvertisement ranges =>
    (∀ range ∈ ranges, range.start.value ≤ range.finish.value) ∧ ranges.Pairwise IpAddressRange.Before ∧
      ranges.Pairwise IpAddressRange.Disjoint

theorem Expressible.legal {capsule : IpCapsule} (expressible : capsule.Expressible) : capsule.Legal := by
  cases capsule with
  | addressAssign addresses => exact fun address _ => address.net.noHostBits
  | addressRequest addresses =>
    exact ⟨expressible.1, fun address member => ⟨(expressible.2 address member).1, address.net.noHostBits⟩⟩
  | routeAdvertisement ranges =>
    exact ⟨fun range _ => range.ascending, expressible, expressible.imp IpAddressRange.Before.disjoint⟩

/-- Only what is expressible is encoded. -/
theorem expressible_of_encodeValue {capsule : IpCapsule} {value : List UInt8}
    (encoded : capsule.encodeValue = .ok value) : capsule.Expressible := by
  cases capsule with
  | addressAssign addresses =>
    intro address member
    obtain ⟨before, after, wrote⟩ := Sequence.wrote_each encoded address member
    exact AssignedAddress.fits_of_encodeInto wrote
  | addressRequest addresses =>
    simp only [encodeValue] at encoded
    split at encoded
    · cases encoded
    · rename_i filled
      refine ⟨by simpa using filled, fun address member => ?_⟩
      obtain ⟨before, after, wrote⟩ := Sequence.wrote_each encoded address member
      exact RequestedAddress.facts_of_encodeInto wrote
  | routeAdvertisement ranges =>
    simp only [encodeValue, Result.bind_eq_ok_iff] at encoded
    obtain ⟨⟨⟩, checked, -⟩ := encoded
    exact IpAddressRange.checkRouteOrdering_iff.mp checked

/-- All that is expressible is encoded, as a value that its entries fill. -/
theorem Expressible.encodeValue {capsule : IpCapsule} (expressible : capsule.Expressible) :
    ∃ value, capsule.encodeValue = .ok value ∧ capsule.Fills value := by
  cases capsule with
  | addressAssign addresses =>
    obtain ⟨value, wrote, filled⟩ := Sequence.entries_written fun address member =>
      AssignedAddress.carries (expressible address member)
    exact ⟨value, wrote [], filled⟩
  | addressRequest addresses =>
    obtain ⟨value, wrote, filled⟩ := Sequence.entries_written fun address member =>
      RequestedAddress.carries (expressible.2 address member).1 (expressible.2 address member).2
    refine ⟨value, ?_, filled⟩
    simp only [IpCapsule.encodeValue]
    rw [if_neg (by simpa using expressible.1)]
    exact wrote []
  | routeAdvertisement ranges =>
    obtain ⟨value, wrote, filled⟩ := Sequence.entries_written fun range (_ : range ∈ ranges) => range.carries
    refine ⟨value, ?_, filled⟩
    simp only [IpCapsule.encodeValue, IpAddressRange.checkRouteOrdering_iff.mpr expressible]
    exact wrote []

/-- Whatever was parsed is expressible, is of the capsule's type, and took the whole value. -/
theorem of_parse {kind : CapsuleType} {value rest : List UInt8} {capsule : IpCapsule}
    (parsed : parse kind value = .ok (some (capsule, rest))) :
    capsule.capsuleType = kind ∧ capsule.Expressible ∧ capsule.Fills value ∧ rest = [] := by
  unfold parse at parsed
  split at parsed
  · rename_i assign
    simp only [Result.bind_eq_ok_iff, Prod.exists] at parsed
    obtain ⟨addresses, after, looped, same⟩ := parsed
    cases same
    obtain ⟨ended, filled⟩ := Sequence.readAll_eq_ok_iff.mp looped
    exact ⟨assign.symm, filled.forall fun read => AssignedAddress.fits_of_decode read, filled, ended⟩
  split at parsed
  · rename_i request
    simp only [Result.bind_eq_ok_iff, Prod.exists] at parsed
    obtain ⟨addresses, after, looped, same⟩ := parsed
    split at same
    · cases same
    · rename_i filledSome
      cases same
      obtain ⟨ended, filled⟩ := Sequence.readAll_eq_ok_iff.mp looped
      refine ⟨request.symm, ⟨by simpa using filledSome, filled.forall fun read => ?_⟩, filled, ended⟩
      obtain ⟨nonzero, read⟩ := RequestedAddress.decode_eq_ok_iff.mp read
      exact ⟨nonzero, AssignedAddress.fits_of_decode read⟩
  split at parsed
  · rename_i routes
    simp only [Result.bind_eq_ok_iff, Prod.exists] at parsed
    obtain ⟨ranges, after, looped, ⟨⟩, checked, same⟩ := parsed
    cases same
    obtain ⟨ended, filled⟩ := Sequence.readAll_eq_ok_iff.mp looped
    exact ⟨routes.symm, IpAddressRange.checkRouteOrdering_iff.mp checked, filled, ended⟩
  · cases parsed

/-- A value that the entries of an expressible capsule fill is parsed as that capsule. -/
theorem parse_of_fills {capsule : IpCapsule} {value : List UInt8} (expressible : capsule.Expressible)
    (filled : capsule.Fills value) : parse capsule.capsuleType value = .ok (some (capsule, [])) := by
  cases capsule with
  | addressAssign addresses =>
    have looped : AssignedAddress.decodeAll value = .ok (addresses, []) := Sequence.readAll_eq_ok_iff.mpr ⟨rfl, filled⟩
    simp only [parse, capsuleType, looped]
    rfl
  | addressRequest addresses =>
    have looped : RequestedAddress.decodeAll value = .ok (addresses, []) := Sequence.readAll_eq_ok_iff.mpr ⟨rfl, filled⟩
    have some : addresses.isEmpty = false := by simpa using expressible.1
    simp only [parse, capsuleType, looped, bind, Except.bind, some]
    rfl
  | routeAdvertisement ranges =>
    have looped : IpAddressRange.decodeAll value = .ok (ranges, []) := Sequence.readAll_eq_ok_iff.mpr ⟨rfl, filled⟩
    have checked := IpAddressRange.checkRouteOrdering_iff.mpr expressible
    simp only [parse, capsuleType, looped, bind, Except.bind, checked]
    rfl

/-- What is decoded, for every type and value. -/
theorem fromCapsule_eq_some_iff {capsule : Capsule} {read : IpCapsule} :
    fromCapsule capsule = .ok (some read) ↔
      read.capsuleType = capsule.kind ∧ read.Expressible ∧ read.Fills capsule.value := by
  unfold fromCapsule
  constructor
  · intro accepted
    rw [Result.bind_eq_ok_iff] at accepted
    obtain ⟨outcome, parsed, kept⟩ := accepted
    cases outcome with
    | none => cases kept
    | some found =>
      obtain ⟨other, rest⟩ := found
      obtain ⟨kind, expressible, filled, rfl⟩ := of_parse parsed
      cases kept
      exact ⟨kind, expressible, filled⟩
  · intro ⟨kind, expressible, filled⟩
    rw [← kind, parse_of_fills expressible filled]
    rfl

theorem fromCapsule_toCapsule {read : IpCapsule} {capsule : Capsule} (encoded : read.toCapsule = .ok capsule) :
    fromCapsule capsule = .ok (some read) := by
  simp only [toCapsule, Result.bind_eq_ok_iff] at encoded
  obtain ⟨value, written, same⟩ := encoded
  cases same
  have expressible := expressible_of_encodeValue written
  obtain ⟨again, writtenAgain, filled⟩ := expressible.encodeValue
  rw [written] at writtenAgain
  cases writtenAgain
  exact fromCapsule_eq_some_iff.mpr ⟨rfl, expressible, filled⟩

theorem toCapsule_of_expressible {read : IpCapsule} (expressible : read.Expressible) :
    ∃ capsule, read.toCapsule = .ok capsule := by
  obtain ⟨value, written, -⟩ := expressible.encodeValue
  exact ⟨⟨read.capsuleType, value⟩, by rw [toCapsule, written]; rfl⟩

/-- What is encoded reads back; what is read is legal, is encoded again and reads back; and the loops
leave nothing of a value unread, whatever its bytes: the entries fill it, or it is refused. -/
theorem capsules_round_trip :
    (∀ (read : IpCapsule) (capsule : Capsule), read.toCapsule = .ok capsule → fromCapsule capsule = .ok (some read)) ∧
    (∀ (kind : CapsuleType) (value : List UInt8) (read : IpCapsule), fromCapsule ⟨kind, value⟩ = .ok (some read) →
      read.Legal ∧ ∃ capsule, read.toCapsule = .ok capsule ∧ fromCapsule capsule = .ok (some read)) ∧
    ∀ value rest : List UInt8,
      (∀ addresses, AssignedAddress.decodeAll value = .ok (addresses, rest) →
        rest = [] ∧ (addressAssign addresses).Fills value) ∧
      (∀ addresses, RequestedAddress.decodeAll value = .ok (addresses, rest) →
        rest = [] ∧ (addressRequest addresses).Fills value) ∧
      (∀ ranges, IpAddressRange.decodeAll value = .ok (ranges, rest) →
        rest = [] ∧ (routeAdvertisement ranges).Fills value) ∧
      ∀ kind read, parse kind value = .ok (some (read, rest)) → rest = [] ∧ read.Fills value := by
  refine ⟨fun read capsule => fromCapsule_toCapsule, fun kind value read accepted => ?_, fun value rest => ?_⟩
  · obtain ⟨-, expressible, -⟩ := fromCapsule_eq_some_iff.mp accepted
    obtain ⟨capsule, encoded⟩ := toCapsule_of_expressible expressible
    exact ⟨expressible.legal, capsule, encoded, fromCapsule_toCapsule encoded⟩
  · refine ⟨fun addresses => Sequence.readAll_eq_ok_iff.mp, fun addresses => Sequence.readAll_eq_ok_iff.mp,
      fun ranges => Sequence.readAll_eq_ok_iff.mp, fun kind read parsed => ?_⟩
    obtain ⟨-, -, filled, ended⟩ := of_parse parsed
    exact ⟨ended, filled⟩

end IpCapsule

end Skimasque.Core
