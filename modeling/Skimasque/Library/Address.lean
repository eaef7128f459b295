import Mathlib.Data.List.Basic
import Mathlib.Tactic.Common
import Skimasque.Library.BigEndian

/-! IP addresses as the Rust standard library has them: two families of fixed width,
their octets and segments, the documented address classes and the text form. -/

set_option autoImplicit false

namespace Skimasque.Library.Address

inductive IpAddr where
  | v4 (bits : BitVec 32)
  | v6 (bits : BitVec 128)
  deriving DecidableEq, Repr

/-- The unit of `width` bits at `place`, counted from the least significant one. -/
def unitAt (width place value : Nat) : Nat := (value >>> (width * place)) % 2 ^ width

/-- `count` units of `width` bits, most significant first. -/
def units (width : Nat) : Nat → Nat → List Nat
  | 0, _ => []
  | count + 1, value => unitAt width count value :: units width count value

namespace IpAddr

def isIpv6 : IpAddr → Bool
  | v4 _ => false
  | v6 _ => true

/-- The width of the family, in bits. -/
def width : IpAddr → Nat
  | v4 _ => 32
  | v6 _ => 128

def value : IpAddr → Nat
  | v4 bits => bits.toNat
  | v6 bits => bits.toNat

def octets : IpAddr → List UInt8
  | v4 bits => (units 8 4 bits.toNat).map UInt8.ofNat
  | v6 bits => (units 8 16 bits.toNat).map UInt8.ofNat

end IpAddr

/-- Octets are the bytes of the value, most significant first. -/
theorem units_eq_put (count value : Nat) : (units 8 count value).map UInt8.ofNat = BigEndian.put count value := by
  induction count with
  | zero => rfl
  | succ count ih =>
    rw [units, List.map_cons, ih, BigEndian.put]
    congr 1
    rw [← UInt8.toNat_inj]
    simp [unitAt]

theorem shiftIn_octets (addr : IpAddr) : BigEndian.shiftIn 0 addr.octets = addr.value := by
  have read (count : Nat) {value : Nat} (less : value < 256 ^ count) :
      BigEndian.shiftIn 0 ((units 8 count value).map UInt8.ofNat) = value := by
    rw [units_eq_put, BigEndian.shiftIn_put, Nat.zero_mul, Nat.zero_add, Nat.mod_eq_of_lt less]
  cases addr with
  | v4 bits => exact read 4 (by have := bits.isLt; omega)
  | v6 bits => exact read 16 (by have := bits.isLt; omega)

theorem octets_length (addr : IpAddr) : addr.octets.length = addr.width / 8 := by
  cases addr with
  | v4 bits => simp [IpAddr.octets, IpAddr.width, units_eq_put]
  | v6 bits => simp [IpAddr.octets, IpAddr.width, units_eq_put]

def v4Octet (bits : BitVec 32) (index : Nat) : Nat := unitAt 8 (3 - index) bits.toNat

def v6Segment (bits : BitVec 128) (index : Nat) : Nat := unitAt 16 (7 - index) bits.toNat

def v4IsUnspecified (bits : BitVec 32) : Bool := bits == 0

def v4IsLoopback (bits : BitVec 32) : Bool := v4Octet bits 0 == 127

def v4IsLinkLocal (bits : BitVec 32) : Bool := v4Octet bits 0 == 169 && v4Octet bits 1 == 254

def v4IsMulticast (bits : BitVec 32) : Bool := 224 ≤ v4Octet bits 0 && v4Octet bits 0 ≤ 239

def v4IsBroadcast (bits : BitVec 32) : Bool := bits == BitVec.allOnes 32

def v4IsPrivate (bits : BitVec 32) : Bool :=
  v4Octet bits 0 == 10 ||
    (v4Octet bits 0 == 172 && 16 ≤ v4Octet bits 1 && v4Octet bits 1 ≤ 31) ||
    (v4Octet bits 0 == 192 && v4Octet bits 1 == 168)

def v6IsUnspecified (bits : BitVec 128) : Bool := bits == 0

def v6IsLoopback (bits : BitVec 128) : Bool := bits == 1

def v6IsMulticast (bits : BitVec 128) : Bool := v6Segment bits 0 &&& 0xff00 == 0xff00

/-- `::ffff:a.b.c.d` unwraps to `a.b.c.d`; every other address is not mapped. -/
def toIpv4Mapped (bits : BitVec 128) : Option (BitVec 32) :=
  if bits.toNat >>> 32 = 0xffff then some (BitVec.ofNat 32 bits.toNat) else none

/-- `Ipv4Addr::to_ipv6_mapped`. -/
def toIpv6Mapped (bits : BitVec 32) : BitVec 128 := BitVec.ofNat 128 (0xffff * 2 ^ 32 + bits.toNat)

theorem toIpv4Mapped_toIpv6Mapped (bits : BitVec 32) : toIpv4Mapped (toIpv6Mapped bits) = some bits := by
  have bound := bits.isLt
  have value : (toIpv6Mapped bits).toNat = 0xffff * 2 ^ 32 + bits.toNat := by
    rw [toIpv6Mapped, BitVec.toNat_ofNat, Nat.mod_eq_of_lt (by omega)]
  rw [toIpv4Mapped, value, Nat.shiftRight_eq_div_pow, if_pos (by omega), Option.some.injEq, ← BitVec.toNat_inj,
    BitVec.toNat_ofNat]
  omega

def hexText (value : Nat) : String := String.ofList (Nat.toDigits 16 value)

def joinText (separator : String) : List String → String
  | [] => ""
  | [only] => only
  | first :: rest => first ++ separator ++ joinText separator rest

def v4Text (bits : BitVec 32) : String := joinText "." ((units 8 4 bits.toNat).map toString)

structure Span where
  start : Nat
  len : Nat
  deriving DecidableEq, Repr

/-- The first longest run of zero segments. -/
def longestZeros : List Nat → Nat → Span → Span → Span
  | [], _, _, longest => longest
  | segment :: rest, index, current, longest =>
    if segment = 0 then
      let current := if current.len = 0 then ⟨index, 1⟩ else ⟨current.start, current.len + 1⟩
      longestZeros rest (index + 1) current (if current.len > longest.len then current else longest)
    else longestZeros rest (index + 1) ⟨0, 0⟩ longest

def v6Text (bits : BitVec 128) : String :=
  match toIpv4Mapped bits with
  | some inner => "::ffff:" ++ v4Text inner
  | none =>
    let segments := units 16 8 bits.toNat
    let zeros := longestZeros segments 0 ⟨0, 0⟩ ⟨0, 0⟩
    let render := fun part => joinText ":" (List.map hexText part)
    if zeros.len > 1 then
      render (segments.take zeros.start) ++ "::" ++ render (segments.drop (zeros.start + zeros.len))
    else render segments

/-- Bracketed for IPv6, as it stands before a port. -/
def IpAddr.hostText : IpAddr → String
  | .v4 bits => v4Text bits
  | .v6 bits => "[" ++ v6Text bits ++ "]"

structure SocketAddr where
  ip : IpAddr
  port : UInt16
  deriving DecidableEq, Repr

def SocketAddr.text (addr : SocketAddr) : String := addr.ip.hostText ++ ":" ++ toString addr.port.toNat

/-- A network of the `ipnet` crate: an address and a prefix length within its width. -/
structure IpNet where
  addr : IpAddr
  len : Nat
  bounded : len ≤ addr.width
  deriving Repr

instance : DecidableEq IpNet := fun net other =>
  decidable_of_iff (net.addr = other.addr ∧ net.len = other.len) (by
    cases net
    cases other
    simp only [IpNet.mk.injEq])

def IpNet.contains (net : IpNet) (ip : IpAddr) : Bool :=
  net.addr.isIpv6 == ip.isIpv6 &&
    net.addr.value / 2 ^ (net.addr.width - net.len) == ip.value / 2 ^ (net.addr.width - net.len)

example : v6Text 0x20010db8000000000000000000000001 = "2001:db8::1" := by decide

end Skimasque.Library.Address
