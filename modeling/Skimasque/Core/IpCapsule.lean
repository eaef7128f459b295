import Skimasque.Core.Capsule
import Skimasque.Core.ConnectIp
import Skimasque.Library.Sequence

/-! The control capsules of IP proxying: assigned addresses, requested addresses and advertised routes. -/

set_option autoImplicit false

namespace Skimasque.Core
open Library Library.Address

inductive ConnectIpError where
  | malformed (what : String)
  | badIpVersion (version : UInt8)
  | badPrefix (reason : PrefixError)
  | rangeReversed (start finish : IpAddr)
  | rangeFamilyMismatch
  | emptyAddressRequest
  | zeroRequestId
  | routesOutOfOrder
  deriving DecidableEq, Repr

/-! ## Fields -/

def putAddress (out : List UInt8) (addr : IpAddr) : List UInt8 := out ++ addr.octets

def takeU8 : List UInt8 → Except ConnectIpError (UInt8 × List UInt8)
  | [] => .error (.malformed "capsule value ended early")
  | first :: rest => .ok (first, rest)

def takeVarint (input : List UInt8) : Except ConnectIpError (UInt64 × List UInt8) :=
  match Varint.take input with
  | .error _ => .error (.malformed "capsule value ended mid-varint")
  | .ok (value, rest) => .ok (UInt64.ofNat value, rest)

def addressLen (version : UInt8) : Except ConnectIpError Nat :=
  if version = 4 then .ok 4 else if version = 6 then .ok 16 else .error (.badIpVersion version)

def takeAddressBytes (input : List UInt8) (len : Nat) : Except ConnectIpError (List UInt8 × List UInt8) :=
  if input.length < len then .error (.malformed "capsule value ended mid-address")
  else .ok (input.take len, input.drop len)

def decodeAddressOfVersion (input : List UInt8) (version : UInt8) : Except ConnectIpError (IpAddr × List UInt8) := do
  let len ← addressLen version
  let (bytes, input) ← takeAddressBytes input len
  return (if version = 4 then .v4 (BitVec.ofNat 32 (BigEndian.shiftIn 0 bytes))
    else .v6 (BitVec.ofNat 128 (BigEndian.shiftIn 0 bytes)), input)

def decodeVersionedAddress (input : List UInt8) : Except ConnectIpError (IpAddr × List UInt8) := do
  let (version, input) ← takeU8 input
  decodeAddressOfVersion input version

/-- The number in front of an address of this family. -/
def versionOf (addr : IpAddr) : UInt8 := if addr.isIpv6 then 6 else 4

namespace IpPrefix

def encodeInto (net : IpPrefix) (out : List UInt8) : List UInt8 :=
  putAddress (out ++ [versionOf net.addr]) net.addr ++ [net.prefixLen]

def decode (input : List UInt8) : Except ConnectIpError (IpPrefix × List UInt8) := do
  let (addr, input) ← decodeVersionedAddress input
  let (prefixLen, input) ← takeU8 input
  let net ← (IpPrefix.new addr prefixLen).mapError .badPrefix
  return (net, input)

end IpPrefix

/-! ## Entries -/

/-- An address given to the peer, with the request it answers or zero. -/
structure AssignedAddress where
  requestId : UInt64
  net : IpPrefix
  deriving DecidableEq

structure RequestedAddress where
  requestId : UInt64
  net : IpPrefix
  deriving DecidableEq

/-- The addresses from `start` to `finish` of one family. -/
structure IpAddressRange where
  start : IpAddr
  finish : IpAddr
  protocol : UInt8
  family : start.isIpv6 = finish.isIpv6
  ascending : start.value ≤ finish.value
  deriving DecidableEq

namespace IpAddressRange

def new (start finish : IpAddr) (protocol : UInt8) : Except ConnectIpError IpAddressRange :=
  match start, finish with
  | .v4 a, .v4 b =>
    if reversed : b < a then .error (.rangeReversed (.v4 a) (.v4 b))
    else .ok ⟨.v4 a, .v4 b, protocol, rfl, BitVec.not_lt.mp reversed⟩
  | .v6 a, .v6 b =>
    if reversed : b < a then .error (.rangeReversed (.v6 a) (.v6 b))
    else .ok ⟨.v6 a, .v6 b, protocol, rfl, BitVec.not_lt.mp reversed⟩
  | _, _ => .error .rangeFamilyMismatch

def version (range : IpAddressRange) : UInt8 := versionOf range.start

end IpAddressRange

/-- `<` on `IpAddr`: every IPv4 address before every IPv6 address. -/
def addrLess : IpAddr → IpAddr → Bool
  | .v4 a, .v4 b => a < b
  | .v6 a, .v6 b => a < b
  | .v4 _, .v6 _ => true
  | .v6 _, .v4 _ => false

def rangesOrdered (a b : IpAddressRange) : Bool :=
  match compare a.version.toNat b.version.toNat with
  | .lt => true
  | .gt => false
  | .eq =>
    match compare a.protocol.toNat b.protocol.toNat with
    | .lt => true
    | .gt => false
    | .eq => addrLess a.finish b.start

/-- Every range against the one after it. -/
def checkRouteOrdering : List IpAddressRange → Except ConnectIpError Unit
  | a :: b :: rest => if rangesOrdered a b then checkRouteOrdering (b :: rest) else .error .routesOutOfOrder
  | _ => .ok ()

namespace AssignedAddress

def encodeInto (out : List UInt8) (address : AssignedAddress) : Except ConnectIpError (List UInt8) := do
  let out ← (Varint.encode address.requestId.toNat out).mapError fun _ =>
    .malformed "request id exceeds the varint maximum"
  return address.net.encodeInto out

def decode (input : List UInt8) : Except ConnectIpError (AssignedAddress × List UInt8) := do
  let (requestId, input) ← takeVarint input
  let (net, input) ← IpPrefix.decode input
  return (⟨requestId, net⟩, input)

end AssignedAddress

namespace RequestedAddress

def encodeInto (out : List UInt8) (address : RequestedAddress) : Except ConnectIpError (List UInt8) := do
  if address.requestId = 0 then .error .zeroRequestId
  else
    let out ← (Varint.encode address.requestId.toNat out).mapError fun _ =>
      .malformed "request id exceeds the varint maximum"
    return address.net.encodeInto out

def decode (input : List UInt8) : Except ConnectIpError (RequestedAddress × List UInt8) := do
  let (requestId, input) ← takeVarint input
  if requestId = 0 then .error .zeroRequestId
  else
    let (net, input) ← IpPrefix.decode input
    return (⟨requestId, net⟩, input)

end RequestedAddress

namespace IpAddressRange

def encodeInto (out : List UInt8) (range : IpAddressRange) : Except ConnectIpError (List UInt8) :=
  .ok (putAddress (putAddress (out ++ [range.version]) range.start) range.finish ++ [range.protocol])

def decode (input : List UInt8) : Except ConnectIpError (IpAddressRange × List UInt8) := do
  let (version, input) ← takeU8 input
  let (start, input) ← decodeAddressOfVersion input version
  let (finish, input) ← decodeAddressOfVersion input version
  let (protocol, input) ← takeU8 input
  let range ← IpAddressRange.new start finish protocol
  return (range, input)

end IpAddressRange

/-! ## What is read is taken off the input -/

theorem takeU8_shrinks {input rest : List UInt8} {byte : UInt8} (taken : takeU8 input = .ok (byte, rest)) :
    rest.length < input.length := by
  cases input with
  | nil => cases taken
  | cons first more =>
    cases taken
    exact Nat.lt_succ_self _

theorem takeVarint_shrinks {input rest : List UInt8} {value : UInt64} (taken : takeVarint input = .ok (value, rest)) :
    rest.length < input.length ∧ value.toNat ≤ Varint.maxValue := by
  unfold takeVarint at taken
  split at taken
  · cases taken
  · rename_i found more decoded
    cases taken
    obtain ⟨shorter, fits⟩ := Varint.take_ok decoded
    refine ⟨shorter, ?_⟩
    rw [UInt64.toNat_ofNat_of_lt' (Nat.lt_of_le_of_lt fits (by decide))]
    exact fits

theorem decodeAddressOfVersion_shrinks {input rest : List UInt8} {version : UInt8} {addr : IpAddr}
    (taken : decodeAddressOfVersion input version = .ok (addr, rest)) : rest.length ≤ input.length := by
  simp only [decodeAddressOfVersion, takeAddressBytes, Result.bind_eq_ok_iff, Prod.exists] at taken
  obtain ⟨len, -, bytes, more, took, same⟩ := taken
  cases same
  split at took
  · cases took
  · cases took
    rw [List.length_drop]
    exact Nat.sub_le _ _

theorem IpPrefix.decode_shrinks {input rest : List UInt8} {net : IpPrefix} (taken : IpPrefix.decode input = .ok (net, rest)) :
    rest.length < input.length := by
  simp only [IpPrefix.decode, decodeVersionedAddress, Result.bind_eq_ok_iff, Prod.exists] at taken
  obtain ⟨addr, afterAddr, ⟨version, afterVersion, tookVersion, tookAddr⟩, len, afterLen, tookLen, made, -, same⟩ := taken
  cases same
  have first := takeU8_shrinks tookVersion
  have second := decodeAddressOfVersion_shrinks tookAddr
  have third := takeU8_shrinks tookLen
  omega

theorem AssignedAddress.decode_shrinks {input rest : List UInt8} {address : AssignedAddress}
    (taken : AssignedAddress.decode input = .ok (address, rest)) : rest.length < input.length := by
  simp only [AssignedAddress.decode, Result.bind_eq_ok_iff, Prod.exists] at taken
  obtain ⟨id, afterId, tookId, net, afterNet, tookNet, same⟩ := taken
  cases same
  have first := takeVarint_shrinks tookId
  have second := IpPrefix.decode_shrinks tookNet
  omega

theorem AssignedAddress.fits_of_decode {input rest : List UInt8} {address : AssignedAddress}
    (taken : AssignedAddress.decode input = .ok (address, rest)) : address.requestId.toNat ≤ Varint.maxValue := by
  simp only [AssignedAddress.decode, Result.bind_eq_ok_iff, Prod.exists] at taken
  obtain ⟨id, afterId, tookId, net, afterNet, tookNet, same⟩ := taken
  cases same
  exact (takeVarint_shrinks tookId).2

/-- A request is read as an assignment is, apart from the number zero. -/
theorem RequestedAddress.decode_eq_ok_iff {input rest : List UInt8} {address : RequestedAddress} :
    RequestedAddress.decode input = .ok (address, rest) ↔
      address.requestId ≠ 0 ∧ AssignedAddress.decode input = .ok (⟨address.requestId, address.net⟩, rest) := by
  simp only [RequestedAddress.decode, AssignedAddress.decode]
  cases takeVarint input with
  | error error => simp [bind, Except.bind]
  | ok taken =>
    obtain ⟨id, afterId⟩ := taken
    obtain ⟨requestId, net⟩ := address
    simp only [bind, Except.bind]
    by_cases zero : id = 0
    · rw [if_pos zero]
      constructor
      · intro taken
        cases taken
      · intro ⟨nonzero, taken⟩
        split at taken
        · cases taken
        · cases taken
          exact absurd zero nonzero
    · rw [if_neg zero]
      cases IpPrefix.decode afterId with
      | error error => simp
      | ok found =>
        simp only [pure, Except.pure, Except.ok.injEq, Prod.mk.injEq, RequestedAddress.mk.injEq, AssignedAddress.mk.injEq]
        constructor
        · rintro ⟨⟨rfl, rfl⟩, rfl⟩
          exact ⟨zero, ⟨rfl, rfl⟩, rfl⟩
        · exact And.right

theorem RequestedAddress.decode_shrinks {input rest : List UInt8} {address : RequestedAddress}
    (taken : RequestedAddress.decode input = .ok (address, rest)) : rest.length < input.length :=
  AssignedAddress.decode_shrinks (RequestedAddress.decode_eq_ok_iff.mp taken).2

theorem IpAddressRange.decode_shrinks {input rest : List UInt8} {range : IpAddressRange}
    (taken : IpAddressRange.decode input = .ok (range, rest)) : rest.length < input.length := by
  simp only [IpAddressRange.decode, Result.bind_eq_ok_iff, Prod.exists] at taken
  obtain ⟨version, afterVersion, tookVersion, start, afterStart, tookStart, finish, afterFinish, tookFinish, protocol,
    afterProtocol, tookProtocol, made, -, same⟩ := taken
  cases same
  have first := takeU8_shrinks tookVersion
  have second := decodeAddressOfVersion_shrinks tookStart
  have third := decodeAddressOfVersion_shrinks tookFinish
  have fourth := takeU8_shrinks tookProtocol
  omega

/-! ## Capsules -/

def AssignedAddress.decodeAll (value : List UInt8) : Except ConnectIpError (List AssignedAddress × List UInt8) :=
  Sequence.readAll decode decode_shrinks value

def RequestedAddress.decodeAll (value : List UInt8) : Except ConnectIpError (List RequestedAddress × List UInt8) :=
  Sequence.readAll decode decode_shrinks value

def IpAddressRange.decodeAll (value : List UInt8) : Except ConnectIpError (List IpAddressRange × List UInt8) :=
  Sequence.readAll decode decode_shrinks value

inductive IpCapsule where
  | addressAssign (addresses : List AssignedAddress)
  | addressRequest (addresses : List RequestedAddress)
  | routeAdvertisement (ranges : List IpAddressRange)
  deriving DecidableEq

namespace IpCapsule

def capsuleType : IpCapsule → CapsuleType
  | addressAssign _ => CapsuleType.addressAssign
  | addressRequest _ => CapsuleType.addressRequest
  | routeAdvertisement _ => CapsuleType.routeAdvertisement

def encodeValue : IpCapsule → Except ConnectIpError (List UInt8)
  | addressAssign addresses => addresses.foldlM AssignedAddress.encodeInto []
  | addressRequest addresses =>
    if addresses.isEmpty then .error .emptyAddressRequest
    else addresses.foldlM RequestedAddress.encodeInto []
  | routeAdvertisement ranges => do
    checkRouteOrdering ranges
    ranges.foldlM IpAddressRange.encodeInto []

def toCapsule (capsule : IpCapsule) : Except ConnectIpError Capsule := do
  let value ← capsule.encodeValue
  return ⟨capsule.capsuleType, value⟩

/-- The match of `from_capsule`: what was parsed and the input left over, `none` for a foreign type. -/
def parse (kind : CapsuleType) (value : List UInt8) : Except ConnectIpError (Option (IpCapsule × List UInt8)) :=
  if kind = CapsuleType.addressAssign then do
    let (addresses, input) ← AssignedAddress.decodeAll value
    return some (.addressAssign addresses, input)
  else if kind = CapsuleType.addressRequest then do
    let (addresses, input) ← RequestedAddress.decodeAll value
    if addresses.isEmpty then .error .emptyAddressRequest
    else return some (.addressRequest addresses, input)
  else if kind = CapsuleType.routeAdvertisement then do
    let (ranges, input) ← IpAddressRange.decodeAll value
    checkRouteOrdering ranges
    return some (.routeAdvertisement ranges, input)
  else return none

def fromCapsule (capsule : Capsule) : Except ConnectIpError (Option IpCapsule) := do
  match ← parse capsule.kind capsule.value with
  | none => return none
  | some (parsed, input) =>
    if input.isEmpty then return some parsed
    else .error (.malformed "trailing bytes after the capsule value")

end IpCapsule

end Skimasque.Core
