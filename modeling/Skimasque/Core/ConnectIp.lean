import Skimasque.Library.Address

/-! IP prefixes of the CONNECT-IP capsules. -/

set_option autoImplicit false

namespace Skimasque.Core
open Library Library.Address

/-- What keeps an address and a length from being a prefix. -/
inductive PrefixError where
  | tooLong (len : UInt8) (bits : Nat)
  | hostBitsSet (addr : IpAddr) (len : UInt8)
  deriving DecidableEq, Repr

/-- The bits of a width without the last `width - len`. -/
def maskedBits {width : Nat} (bits : BitVec width) (len : Nat) : BitVec width :=
  let mask := if len = 0 then 0 else BitVec.allOnes width <<< (width - len)
  bits &&& mask

def masked (addr : IpAddr) (len : UInt8) : IpAddr :=
  match addr with
  | .v4 bits => .v4 (maskedBits bits len.toNat)
  | .v6 bits => .v6 (maskedBits bits len.toNat)

theorem maskedBits_eq {width len : Nat} (bits : BitVec width) (bounded : len ≤ width) :
    maskedBits bits len = (bits >>> (width - len)) <<< (width - len) := by
  unfold maskedBits
  by_cases empty : len = 0
  · subst empty
    simp
  · rw [if_neg empty]
    ext index inside
    simp only [BitVec.getElem_and, BitVec.getElem_shiftLeft, BitVec.getElem_allOnes]
    by_cases low : index < width - len
    · simp [low]
    · simp [low, Nat.add_sub_cancel' (Nat.le_of_not_lt low), BitVec.getLsbD_eq_getElem inside]

theorem dvd_of_masked {width len : Nat} {bits : BitVec width} (bounded : len ≤ width)
    (clear : maskedBits bits len = bits) : 2 ^ (width - len) ∣ bits.toNat := by
  rw [maskedBits_eq bits bounded] at clear
  rw [← clear, BitVec.toNat_shiftLeft, BitVec.toNat_ushiftRight, Nat.shiftLeft_eq]
  have whole : 2 ^ (width - len) ∣ 2 ^ width := Nat.pow_dvd_pow 2 (Nat.sub_le width len)
  exact (Nat.dvd_mod_iff whole).mpr (Nat.dvd_mul_left _ _)

/-- An address with a prefix length within its width and no bit set below the prefix. -/
structure IpPrefix where
  addr : IpAddr
  prefixLen : UInt8
  bounded : prefixLen.toNat ≤ addr.width
  aligned : 2 ^ (addr.width - prefixLen.toNat) ∣ addr.value
  deriving DecidableEq

theorem aligned_of_masked {addr : IpAddr} {len : UInt8} (bounded : len.toNat ≤ addr.width)
    (clear : masked addr len = addr) : 2 ^ (addr.width - len.toNat) ∣ addr.value := by
  cases addr with
  | v4 bits => exact dvd_of_masked bounded (IpAddr.v4.inj clear)
  | v6 bits => exact dvd_of_masked bounded (IpAddr.v6.inj clear)

def IpPrefix.new (addr : IpAddr) (len : UInt8) : Except PrefixError IpPrefix :=
  if bounded : len.toNat ≤ addr.width then
    if clear : masked addr len = addr then .ok ⟨addr, len, bounded, aligned_of_masked bounded clear⟩
    else .error (.hostBitsSet addr len)
  else .error (.tooLong len addr.width)

theorem IpPrefix.new_eq_ok {addr : IpAddr} {len : UInt8} {net : IpPrefix} (accepted : IpPrefix.new addr len = .ok net) :
    net.addr = addr ∧ net.prefixLen = len := by
  unfold IpPrefix.new at accepted
  split at accepted
  · split at accepted
    · cases accepted
      exact ⟨rfl, rfl⟩
    · cases accepted
  · cases accepted

theorem width_toNat (addr : IpAddr) : (UInt8.ofNat addr.width).toNat = addr.width := by
  cases addr with
  | v4 bits => rfl
  | v6 bits => rfl

/-- A single address. -/
def IpPrefix.host (addr : IpAddr) : IpPrefix where
  addr := addr
  prefixLen := UInt8.ofNat addr.width
  bounded := Nat.le_of_eq (width_toNat addr)
  aligned := by rw [width_toNat, Nat.sub_self, Nat.pow_zero]; exact Nat.one_dvd _

/-- The bits below the prefix. -/
def IpPrefix.hostBits (net : IpPrefix) : Nat := net.addr.width - net.prefixLen.toNat

/-- The last address of the prefix, as a number. -/
def IpPrefix.lastValue (net : IpPrefix) : Nat := net.addr.value + 2 ^ net.hostBits - 1

theorem value_lt (addr : IpAddr) : addr.value < 2 ^ addr.width := by
  cases addr with
  | v4 bits => exact bits.isLt
  | v6 bits => exact bits.isLt

/-- A prefix ends within its family. -/
theorem IpPrefix.lastValue_lt (net : IpPrefix) : net.lastValue < 2 ^ net.addr.width := by
  obtain ⟨count, base⟩ := net.aligned
  have inside := value_lt net.addr
  have split : 2 ^ net.addr.width = 2 ^ net.hostBits * 2 ^ net.prefixLen.toNat := by
    rw [← Nat.pow_add, IpPrefix.hostBits, Nat.sub_add_cancel net.bounded]
  have positive : 0 < 2 ^ net.hostBits := Nat.two_pow_pos _
  change net.addr.value = 2 ^ net.hostBits * count at base
  rw [base, split, Nat.mul_lt_mul_left positive] at inside
  have fits : 2 ^ net.hostBits * (count + 1) ≤ 2 ^ net.hostBits * 2 ^ net.prefixLen.toNat :=
    Nat.mul_le_mul_left _ inside
  rw [IpPrefix.lastValue, base, split]
  rw [Nat.mul_succ] at fits
  omega

end Skimasque.Core
