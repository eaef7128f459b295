import Skimasque.Core.IpCapsuleRoundTrip

/-! The order of advertised routes. Only neighbours are compared, which orders all of them because no range ends
before it starts. -/

set_option autoImplicit false

namespace Skimasque.Core
open Library Library.Address

namespace IpAddressRange

/-- In order by version and protocol. -/
def Sorted (a b : IpAddressRange) : Prop :=
  a.version < b.version ∨ a.version = b.version ∧ a.protocol ≤ b.protocol

/-- Of one version and protocol, the first ends before the second starts. -/
def Apart (a b : IpAddressRange) : Prop :=
  a.version = b.version → a.protocol = b.protocol → addrLess a.finish b.start = true

variable {a b : IpAddressRange}

theorem apart_iff : Apart a b ↔ (a.version = b.version → a.protocol = b.protocol → a.finish.value < b.start.value) := by
  unfold Apart
  constructor
  · intro apart version protocol
    exact (addrLess_iff (a.family.symm.trans (family_of_version version))).mp (apart version protocol)
  · intro apart version protocol
    exact (addrLess_iff (a.family.symm.trans (family_of_version version))).mpr (apart version protocol)

theorem before_iff : a.Before b ↔ Sorted a b ∧ Apart a b := by
  rw [apart_iff]
  unfold Before Sorted
  simp only [UInt8.lt_iff_toNat_lt, UInt8.le_iff_toNat_le, ← UInt8.toNat_inj]
  omega

/-- Routes are accepted exactly when they are in order by version and protocol, and of any two of one version and
protocol the first ends before the second starts; then no address lies in two of one protocol. -/
theorem neighbours_order_all_routes (ranges : List IpAddressRange) :
    (checkRouteOrdering ranges = .ok () ↔ ranges.Pairwise Sorted ∧ ranges.Pairwise Apart) ∧
      (checkRouteOrdering ranges = .ok () → ranges.Pairwise Disjoint) := by
  have accepted : checkRouteOrdering ranges = .ok () ↔ ranges.Pairwise Before := checkRouteOrdering_iff
  constructor
  · rw [accepted, ← List.pairwise_and_iff]
    constructor
    · intro ordered
      exact ordered.imp before_iff.mp
    · intro ordered
      exact ordered.imp before_iff.mpr
  · intro ordered
    exact (accepted.mp ordered).imp Before.disjoint

end IpAddressRange

end Skimasque.Core
