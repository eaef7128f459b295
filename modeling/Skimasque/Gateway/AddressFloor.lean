import Skimasque.Core.ConnectIp
import Skimasque.Gateway.AddressPolicy

/-! The floor under every destination, in terms of networks: which addresses a policy reaches. -/

set_option autoImplicit false

namespace Skimasque.Gateway
open Library Library.Address

/-- The classes of addresses, one for each flag of a policy. -/
inductive AddressClass where
  | unspecified
  | loopback
  | linkLocal
  | multicast
  | privateUse
  deriving DecidableEq, Repr

def v4Net (bits : BitVec 32) (len : Nat) (bounded : len ≤ 32) : IpNet := ⟨.v4 bits, len, bounded⟩

/-- A network of IPv6 whose bits are all in the first segment. -/
def v6Net (segment len : Nat) (bounded : len ≤ 128) : IpNet := ⟨.v6 (BitVec.ofNat 128 (segment * 2 ^ 112)), len, bounded⟩

def v6Single (bits : BitVec 128) : IpNet := ⟨.v6 bits, 128, Nat.le_refl 128⟩

def AddressClass.networks : AddressClass → List IpNet
  | .unspecified => [v4Net 0 32 (by decide), v6Single 0]
  | .loopback => [v4Net 0x7f000000 8 (by decide), v6Single 1]
  | .linkLocal => [v4Net 0xa9fe0000 16 (by decide), v6Net 0xfe80 10 (by decide)]
  | .multicast => [v4Net 0xe0000000 4 (by decide), v4Net 0xffffffff 32 (by decide), v6Net 0xff00 8 (by decide)]
  | .privateUse =>
    [v4Net 0x0a000000 8 (by decide), v4Net 0xac100000 12 (by decide), v4Net 0xc0a80000 16 (by decide),
      v4Net 0x64400000 10 (by decide), v6Net 0xfc00 7 (by decide)]

def AddressClass.contains (kind : AddressClass) (ip : IpAddr) : Bool := kind.networks.any (·.contains ip)

namespace AddressPolicy

def flag (policy : AddressPolicy) : AddressClass → Bool
  | .unspecified => policy.allowUnspecified
  | .loopback => policy.allowLoopback
  | .linkLocal => policy.allowLinkLocal
  | .multicast => policy.allowMulticast
  | .privateUse => policy.allowPrivate

def PortAllowed (policy : AddressPolicy) (port : UInt16) : Prop :=
  (∀ ports, policy.allowedPorts = some ports → port ∈ ports) ∧ port ∉ policy.deniedPorts

/-- The other policy has every flag and every network of this one, and the same ports. -/
structure Within (policy wider : AddressPolicy) : Prop where
  flags : ∀ kind, policy.flag kind = true → wider.flag kind = true
  cidrs : ∀ net ∈ policy.allowedCidrs, net ∈ wider.allowedCidrs
  allowedPorts : wider.allowedPorts = policy.allowedPorts
  deniedPorts : wider.deniedPorts = policy.deniedPorts

end AddressPolicy

/-! ## The predicates are the networks -/

theorem v4Octet_zero (bits : BitVec 32) : v4Octet bits 0 = bits.toNat / 2 ^ 24 := by
  have bound := bits.isLt
  simp only [v4Octet, unitAt, Nat.shiftRight_eq_div_pow]
  omega

theorem v4Octet_one (bits : BitVec 32) : v4Octet bits 1 = bits.toNat / 2 ^ 16 % 2 ^ 8 := by
  simp only [v4Octet, unitAt, Nat.shiftRight_eq_div_pow]

theorem v6Segment_zero (bits : BitVec 128) : v6Segment bits 0 = bits.toNat / 2 ^ 112 := by
  have bound := bits.isLt
  simp only [v6Segment, unitAt, Nat.shiftRight_eq_div_pow]
  omega

/-- To mask 16 bits by the first few is to clear the others. -/
theorem and_high_bits {segment : Nat} (small : segment < 2 ^ 16) (len : Nat) (some : 0 < len) (bounded : len ≤ 16) :
    segment &&& (BitVec.allOnes 16 <<< (16 - len)).toNat = segment / 2 ^ (16 - len) * 2 ^ (16 - len) := by
  have cleared := Core.maskedBits_eq (BitVec.ofNat 16 segment) bounded
  rw [Core.maskedBits, if_neg (Nat.ne_of_gt some)] at cleared
  have whole : (BitVec.ofNat 16 segment).toNat = segment := by rw [BitVec.toNat_ofNat, Nat.mod_eq_of_lt small]
  have fits : segment / 2 ^ (16 - len) * 2 ^ (16 - len) < 2 ^ 16 :=
    Nat.lt_of_le_of_lt (Nat.div_mul_le_self _ _) small
  calc segment &&& (BitVec.allOnes 16 <<< (16 - len)).toNat
      = (BitVec.ofNat 16 segment &&& BitVec.allOnes 16 <<< (16 - len)).toNat := by rw [BitVec.toNat_and, whole]
    _ = segment / 2 ^ (16 - len) * 2 ^ (16 - len) := by
      rw [cleared, BitVec.toNat_shiftLeft, BitVec.toNat_ushiftRight, whole, Nat.shiftRight_eq_div_pow,
        Nat.shiftLeft_eq, Nat.mod_eq_of_lt fits]

@[simp] theorem v4Net_contains_v4 {net : BitVec 32} {len : Nat} {bounded : len ≤ 32} (bits : BitVec 32) :
    (v4Net net len bounded).contains (.v4 bits) = true ↔ net.toNat / 2 ^ (32 - len) = bits.toNat / 2 ^ (32 - len) := by
  simp [IpNet.contains, v4Net, IpAddr.isIpv6, IpAddr.value, IpAddr.width]

@[simp] theorem v4Net_contains_v6 {net : BitVec 32} {len : Nat} {bounded : len ≤ 32} (bits : BitVec 128) :
    (v4Net net len bounded).contains (.v6 bits) = false := rfl

@[simp] theorem v6Net_contains_v4 {segment len : Nat} {bounded : len ≤ 128} (bits : BitVec 32) :
    (v6Net segment len bounded).contains (.v4 bits) = false := rfl

@[simp] theorem v6Net_contains_v6 {segment len : Nat} {bounded : len ≤ 128} (bits : BitVec 128) :
    (v6Net segment len bounded).contains (.v6 bits) = true ↔
      segment * 2 ^ 112 % 2 ^ 128 / 2 ^ (128 - len) = bits.toNat / 2 ^ (128 - len) := by
  simp [IpNet.contains, v6Net, IpAddr.isIpv6, IpAddr.value, IpAddr.width]

@[simp] theorem v6Single_contains_v4 {net : BitVec 128} (bits : BitVec 32) :
    (v6Single net).contains (.v4 bits) = false := rfl

@[simp] theorem v6Single_contains_v6 {net : BitVec 128} (bits : BitVec 128) :
    (v6Single net).contains (.v6 bits) = true ↔ net.toNat = bits.toNat := by
  simp [IpNet.contains, v6Single, IpAddr.isIpv6, IpAddr.value, IpAddr.width]

theorem contains_v4 (kind : AddressClass) (bits : BitVec 32) :
    kind.contains (.v4 bits) =
      match kind with
      | .unspecified => v4IsUnspecified bits
      | .loopback => v4IsLoopback bits
      | .linkLocal => v4IsLinkLocal bits
      | .multicast => v4IsMulticast bits || v4IsBroadcast bits
      | .privateUse => v4IsPrivate bits || isSharedV4 bits := by
  have bound := bits.isLt
  rw [Bool.eq_iff_iff]
  cases kind with
  | unspecified =>
    simp [AddressClass.contains, AddressClass.networks, v4IsUnspecified, ← BitVec.toNat_inj]
    omega
  | loopback =>
    simp [AddressClass.contains, AddressClass.networks, v4IsLoopback, v4Octet_zero]
    omega
  | linkLocal =>
    simp [AddressClass.contains, AddressClass.networks, v4IsLinkLocal, v4Octet_zero, v4Octet_one]
    omega
  | multicast =>
    simp [AddressClass.contains, AddressClass.networks, v4IsMulticast, v4IsBroadcast, v4Octet_zero, ← BitVec.toNat_inj]
    omega
  | privateUse =>
    simp [AddressClass.contains, AddressClass.networks, v4IsPrivate, isSharedV4, v4Octet_zero, v4Octet_one]
    omega

theorem contains_v6 (kind : AddressClass) (bits : BitVec 128) :
    kind.contains (.v6 bits) =
      match kind with
      | .unspecified => v6IsUnspecified bits
      | .loopback => v6IsLoopback bits
      | .linkLocal => isLinkLocalV6 bits
      | .multicast => v6IsMulticast bits
      | .privateUse => isUniqueLocalV6 bits := by
  have bound := bits.isLt
  have small : bits.toNat / 2 ^ 112 < 2 ^ 16 := by omega
  rw [Bool.eq_iff_iff]
  cases kind with
  | unspecified =>
    simp [AddressClass.contains, AddressClass.networks, v6IsUnspecified, ← BitVec.toNat_inj]
    omega
  | loopback =>
    simp [AddressClass.contains, AddressClass.networks, v6IsLoopback, ← BitVec.toNat_inj]
    omega
  | linkLocal =>
    have masked : bits.toNat / 2 ^ 112 &&& 0xffc0 = _ := and_high_bits small 10 (by decide) (by decide)
    simp only [isLinkLocalV6, v6Segment_zero, masked]
    simp [AddressClass.contains, AddressClass.networks]
    omega
  | multicast =>
    have masked : bits.toNat / 2 ^ 112 &&& 0xff00 = _ := and_high_bits small 8 (by decide) (by decide)
    simp only [v6IsMulticast, v6Segment_zero, masked]
    simp [AddressClass.contains, AddressClass.networks]
    omega
  | privateUse =>
    have masked : bits.toNat / 2 ^ 112 &&& 0xfe00 = _ := and_high_bits small 7 (by decide) (by decide)
    simp only [isUniqueLocalV6, v6Segment_zero, masked]
    simp [AddressClass.contains, AddressClass.networks]
    omega

/-! ## What is permitted -/

theorem AddressClass.forall_iff {holds : AddressClass → Prop} :
    (∀ kind, holds kind) ↔
      holds .unspecified ∧ holds .loopback ∧ holds .linkLocal ∧ holds .multicast ∧ holds .privateUse := by
  constructor
  · intro all
    exact ⟨all _, all _, all _, all _, all _⟩
  · intro all kind
    cases kind with
    | unspecified => exact all.1
    | loopback => exact all.2.1
    | linkLocal => exact all.2.2.1
    | multicast => exact all.2.2.2.1
    | privateUse => exact all.2.2.2.2

theorem unless_flag_eq_ok_iff {inside flag : Bool} {reason : String} {rest : Except String Unit} :
    (if inside && !flag then .error reason else rest) = .ok () ↔ (inside = true → flag = true) ∧ rest = .ok () := by
  cases inside with
  | false => simp
  | true => cases flag <;> simp

namespace AddressPolicy
variable {policy wider : AddressPolicy} {addr : SocketAddr}

theorem permitsV4_eq_ok_iff {bits : BitVec 32} :
    policy.permitsV4 bits = .ok () ↔
      ∀ kind : AddressClass, kind.contains (.v4 bits) = true → policy.flag kind = true := by
  simp only [permitsV4, unless_flag_eq_ok_iff, AddressClass.forall_iff, contains_v4, flag, and_true]

theorem permitsV6_eq_ok_iff {bits : BitVec 128} :
    policy.permitsV6 bits = .ok () ↔
      ∀ kind : AddressClass, kind.contains (.v6 bits) = true → policy.flag kind = true := by
  simp only [permitsV6, unless_flag_eq_ok_iff, AddressClass.forall_iff, contains_v6, flag, and_true]

theorem permits_of_not_portAllowed (refused : ¬policy.PortAllowed addr.port) : policy.permits addr ≠ .ok () := by
  intro permitted
  apply refused
  unfold permits at permitted
  split at permitted
  · cases permitted
  split at permitted
  · cases permitted
  · rename_i listed undenied
    refine ⟨fun ports found => ?_, undenied⟩
    simpa [found] using listed

theorem permits_of_portAllowed (allowed : policy.PortAllowed addr.port) :
    policy.permits addr = .ok () ↔
      (∃ net ∈ policy.allowedCidrs, net.contains (unwrapMapped addr.ip) = true) ∨
        ∀ kind : AddressClass, kind.contains (unwrapMapped addr.ip) = true → policy.flag kind = true := by
  have listed : ¬policy.allowedPorts.any (addr.port ∉ ·) = true := by
    cases ports : policy.allowedPorts with
    | none => simp
    | some set => simpa using allowed.1 set ports
  rw [permits, if_neg listed, if_neg allowed.2]
  by_cases named : policy.allowedCidrs.any (·.contains (unwrapMapped addr.ip)) = true
  · rw [if_pos named]
    exact ⟨fun _ => .inl (List.any_eq_true.mp named), fun _ => rfl⟩
  · rw [if_neg named, ← List.any_eq_true, or_iff_right named]
    cases unwrapMapped addr.ip with
    | v4 bits => exact permitsV4_eq_ok_iff
    | v6 bits => exact permitsV6_eq_ok_iff

theorem permits_eq_ok_iff :
    policy.permits addr = .ok () ↔
      policy.PortAllowed addr.port ∧
        ((∃ net ∈ policy.allowedCidrs, net.contains (unwrapMapped addr.ip) = true) ∨
          ∀ kind : AddressClass, kind.contains (unwrapMapped addr.ip) = true → policy.flag kind = true) := by
  by_cases allowed : policy.PortAllowed addr.port
  · rw [permits_of_portAllowed allowed, and_iff_right allowed]
  · simp only [permits_of_not_portAllowed allowed, allowed, false_and]

theorem Within.portAllowed (within : policy.Within wider) {port : UInt16} :
    wider.PortAllowed port ↔ policy.PortAllowed port := by
  simp only [PortAllowed, within.allowedPorts, within.deniedPorts]

theorem Within.permits (within : policy.Within wider) (permitted : policy.permits addr = .ok ()) :
    wider.permits addr = .ok () := by
  obtain ⟨port, reachable⟩ := permits_eq_ok_iff.mp permitted
  refine permits_eq_ok_iff.mpr ⟨within.portAllowed.mpr port, ?_⟩
  rcases reachable with ⟨net, member, inside⟩ | flags
  · exact .inl ⟨net, within.cidrs net member, inside⟩
  · exact .inr fun kind inside => within.flags kind (flags kind inside)

/-- The floor as a table: the port passes the port rules, and the address is in a network of the list or
every class that it is in has its flag. More flags or networks never refuse more; an IPv4 address and its mapped
form are judged alike; and no list of networks gets past the port rules. -/
theorem address_floor (policy : AddressPolicy) (addr : SocketAddr) :
    (policy.permits addr = .ok () ↔
      policy.PortAllowed addr.port ∧
        ((∃ net ∈ policy.allowedCidrs, net.contains (unwrapMapped addr.ip) = true) ∨
          ∀ kind : AddressClass, (∃ net ∈ kind.networks, net.contains (unwrapMapped addr.ip) = true) →
            policy.flag kind = true)) ∧
    (∀ wider, policy.Within wider → policy.permits addr = .ok () → wider.permits addr = .ok ()) ∧
    (∀ inner port, policy.permits ⟨.v6 (toIpv6Mapped inner), port⟩ = policy.permits ⟨.v4 inner, port⟩) ∧
    (¬policy.PortAllowed addr.port → ∀ cidrs, { policy with allowedCidrs := cidrs }.permits addr ≠ .ok ()) := by
  refine ⟨?_, fun wider within => within.permits, ?_, ?_⟩
  · simpa only [AddressClass.contains, List.any_eq_true] using permits_eq_ok_iff
  · intro inner port
    exact policy.permits_mapped (toIpv4Mapped_toIpv6Mapped inner) port
  · intro refused cidrs
    exact permits_of_not_portAllowed refused

end AddressPolicy

end Skimasque.Gateway
