import Mathlib.Data.Finset.Basic
import Skimasque.Library.Address

/-! Which resolved addresses a proxy is willing to reach. -/

set_option autoImplicit false

namespace Skimasque.Gateway
open Library Library.Address

structure AddressPolicy where
  allowLoopback : Bool := false
  allowPrivate : Bool := false
  allowLinkLocal : Bool := false
  allowMulticast : Bool := false
  allowUnspecified : Bool := false
  /-- If set, the only ports permitted. -/
  allowedPorts : Option (Finset UInt16) := none
  deniedPorts : Finset UInt16 := ∅
  /-- Networks that are permitted whatever the flags say. -/
  allowedCidrs : List IpNet := []
  deriving DecidableEq

/-- RFC 6598 shared address space, `100.64.0.0/10`. -/
def isSharedV4 (bits : BitVec 32) : Bool :=
  v4Octet bits 0 == 100 && 64 ≤ v4Octet bits 1 && v4Octet bits 1 < 128

def isLinkLocalV6 (bits : BitVec 128) : Bool := v6Segment bits 0 &&& 0xffc0 == 0xfe80

def isUniqueLocalV6 (bits : BitVec 128) : Bool := v6Segment bits 0 &&& 0xfe00 == 0xfc00

/-- An IPv4-mapped IPv6 address is judged as the IPv4 address it wraps. -/
def unwrapMapped : IpAddr → IpAddr
  | .v4 bits => .v4 bits
  | .v6 bits =>
    match toIpv4Mapped bits with
    | some inner => .v4 inner
    | none => .v6 bits

namespace AddressPolicy

/-- A policy that permits everything. -/
def permissive : AddressPolicy where
  allowLoopback := true
  allowPrivate := true
  allowLinkLocal := true
  allowMulticast := true
  allowUnspecified := true

def permitsV4 (policy : AddressPolicy) (bits : BitVec 32) : Except String Unit :=
  if v4IsUnspecified bits && !policy.allowUnspecified then .error "destination is the unspecified address"
  else if v4IsLoopback bits && !policy.allowLoopback then .error "destination is a loopback address"
  else if v4IsLinkLocal bits && !policy.allowLinkLocal then .error "destination is a link-local address"
  else if (v4IsMulticast bits || v4IsBroadcast bits) && !policy.allowMulticast then
    .error "destination is a multicast or broadcast address"
  else if (v4IsPrivate bits || isSharedV4 bits) && !policy.allowPrivate then .error "destination is a private address"
  else .ok ()

def permitsV6 (policy : AddressPolicy) (bits : BitVec 128) : Except String Unit :=
  if v6IsUnspecified bits && !policy.allowUnspecified then .error "destination is the unspecified address"
  else if v6IsLoopback bits && !policy.allowLoopback then .error "destination is a loopback address"
  else if isLinkLocalV6 bits && !policy.allowLinkLocal then .error "destination is a link-local address"
  else if v6IsMulticast bits && !policy.allowMulticast then .error "destination is a multicast address"
  else if isUniqueLocalV6 bits && !policy.allowPrivate then .error "destination is a unique-local address"
  else .ok ()

/-- The port rules come first and no network overrides them. -/
def permits (policy : AddressPolicy) (addr : SocketAddr) : Except String Unit :=
  if policy.allowedPorts.any (addr.port ∉ ·) then .error "destination port is not in the allowed set"
  else if addr.port ∈ policy.deniedPorts then .error "destination port is denied"
  else
    let ip := unwrapMapped addr.ip
    if policy.allowedCidrs.any (·.contains ip) then .ok ()
    else
      match ip with
      | .v4 bits => policy.permitsV4 bits
      | .v6 bits => policy.permitsV6 bits

theorem permissive_permits (addr : SocketAddr) : permissive.permits addr = .ok () := by
  cases ip : unwrapMapped addr.ip with
  | v4 bits => simp [permits, permitsV4, permissive, ip]
  | v6 bits => simp [permits, permitsV6, permissive, ip]

/-- Wrapping an IPv4 address does not get it past the rules. -/
theorem permits_mapped (policy : AddressPolicy) {outer : BitVec 128} {inner : BitVec 32}
    (mapped : toIpv4Mapped outer = some inner) (port : UInt16) :
    policy.permits ⟨.v6 outer, port⟩ = policy.permits ⟨.v4 inner, port⟩ := by
  have same : unwrapMapped (.v6 outer) = unwrapMapped (.v4 inner) := by simp only [unwrapMapped, mapped]
  simp only [permits, same]

-- `::ffff:127.0.0.1` and the address of a cloud's metadata service.
example : permits {} ⟨.v6 0xffff7f000001, 53⟩ = .error "destination is a loopback address" := by decide

example : permits {} ⟨.v4 0xa9fea9fe, 80⟩ = .error "destination is a link-local address" := by decide

end AddressPolicy

end Skimasque.Gateway
