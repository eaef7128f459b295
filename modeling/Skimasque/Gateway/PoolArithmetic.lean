import Skimasque.Gateway.AddressPool

/-! The arithmetic of an address pool, in a build that stops where a sum or a difference leaves `u128`. -/

set_option autoImplicit false

namespace Skimasque.Gateway.AddressPool
open Library Library.Address Library.Scan Library.Transition Skimasque.Core

namespace Checked

def add (left right : Nat) : Option Nat := if left + right < 2 ^ 128 then some (left + right) else none

def sub (left right : Nat) : Option Nat := if right ≤ left then some (left - right) else none

/-- `base + size - 1`, from left to right. -/
def last (base size : Nat) : Option Nat := do sub (← add base size) 1

-- `bits - prefix_len` is a difference of `u8`, and a prefix is no longer than its family is wide.
def usableBounds (net : IpPrefix) : Option (Nat × Nat) := do
  let base := toInteger net.addr
  let last ← last base (shiftOne net.hostBits)
  match net.addr.isIpv6, net.hostBits with
  | _, 0 | _, 1 => return (base, last)
  | false, _ => return (← add base 1, ← sub last 1)
  | true, _ => return (← add base 1, last)

def new (net : IpPrefix) : Option PoolState := do
  let (firstUsable, lastUsable) ← usableBounds net
  let firstLease := saturatingSucc firstUsable
  return { net, firstLease, lastLease := lastUsable, cursor := firstLease, leased := ∅ }

def lease (pool : PoolState) : Option (Option IpLease × PoolState) :=
  if pool.lastLease < pool.firstLease then return (none, pool)
  else do
    let span ← add (← sub pool.lastLease pool.firstLease) 1
    match scan saturatingSucc (decide <| · ∈ pool.leased) pool.firstLease pool.lastLease span pool.cursor with
    | none => return (none, pool)
    | some candidate =>
      let address := fromInteger candidate pool.net.addr.isIpv6
      return (some ⟨candidate, .host address⟩,
        { pool with leased := insert candidate pool.leased, cursor := saturatingSucc candidate })

end Checked

/-- Nothing leaves the range of `u128`: the bounds are computed and lie in order within the prefix, the pool is built,
and after any sequence of leases and drops a lease is computed, and granted if an address is free. -/
structure Total (net : IpPrefix) : Prop where
  bounds : ∃ firstUsable lastUsable, Checked.usableBounds net = some (firstUsable, lastUsable) ∧
    net.addr.value ≤ firstUsable ∧ firstUsable ≤ lastUsable ∧ lastUsable ≤ net.lastValue
  built : Checked.new net = some (.new net)
  leases : ∀ events system, run step (start net) events = some system →
    Checked.lease system.pool = some system.pool.lease ∧
      ((∃ number, system.pool.firstLease ≤ number ∧ number ≤ system.pool.lastLease ∧ number ∉ system.pool.leased) →
        system.pool.lease.1 ≠ none)

section
variable {net : IpPrefix} {system : System}

theorem lastValue_room_iff : net.lastValue < maxU128 ↔ net.addr.value + 2 ^ net.hostBits ≠ 2 ^ 128 := by
  have wide : 2 ^ net.addr.width ≤ 2 ^ 128 := by
    apply Nat.pow_le_pow_right (by decide)
    cases net.addr with
    | v4 bits => exact (by decide : 32 ≤ 128)
    | v6 bits => exact Nat.le_refl 128
  have ends := net.lastValue_lt
  have positive : 0 < 2 ^ net.hostBits := Nat.two_pow_pos _
  simp only [IpPrefix.lastValue, maxU128] at *
  omega

theorem Checked.last_eq (room : net.lastValue < maxU128) :
    Checked.last net.addr.value (shiftOne net.hostBits) = some net.lastValue := by
  have positive : 0 < 2 ^ net.hostBits := Nat.two_pow_pos _
  have sum : net.addr.value + 2 ^ net.hostBits < 2 ^ 128 := by
    simp only [IpPrefix.lastValue, maxU128] at room
    omega
  have short : net.hostBits < 128 := (Nat.pow_lt_pow_iff_right (by decide : 1 < 2)).mp (by omega)
  simp only [Checked.last, Checked.add, Checked.sub, shiftOne, if_pos short, if_pos sum, IpPrefix.lastValue,
    Option.bind_eq_bind, Option.bind_some]
  rw [if_pos (by omega)]

/-- Either the sum is out of range, or there is nothing to take one from. -/
theorem Checked.last_eq_none (ends : net.addr.value + 2 ^ net.hostBits = 2 ^ 128) :
    Checked.last net.addr.value (shiftOne net.hostBits) = none := by
  unfold shiftOne
  by_cases short : net.hostBits < 128
  · rw [if_pos short, Checked.last, Checked.add, if_neg (by omega)]
    rfl
  · have whole : 2 ^ 128 ≤ 2 ^ net.hostBits := Nat.pow_le_pow_right (by decide) (by omega)
    have base : net.addr.value = 0 := by omega
    rw [if_neg short, base]
    rfl

theorem Checked.usableBounds_eq (room : net.lastValue < maxU128) :
    Checked.usableBounds net = some (AddressPool.usableBounds net) := by
  have last := Checked.last_eq room
  by_cases small : net.hostBits ≤ 1
  · rw [usableBounds_small room small]
    obtain zero | one : net.hostBits = 0 ∨ net.hostBits = 1 := by omega
    · rw [zero] at last
      simp only [Checked.usableBounds, toInteger, last, zero, Option.bind_eq_bind, Option.bind_some, Option.pure_def]
    · rw [one] at last
      simp only [Checked.usableBounds, toInteger, last, one, Option.bind_eq_bind, Option.bind_some, Option.pure_def]
  · have ends : net.lastValue = net.addr.value + 2 ^ net.hostBits - 1 := rfl
    have size : 2 ^ 2 ≤ 2 ^ net.hostBits := Nat.pow_le_pow_right (by decide) (by omega)
    have first : Checked.add net.addr.value 1 = some (net.addr.value + 1) := by
      simp only [maxU128] at room
      rw [Checked.add, if_pos (by omega)]
    have before : Checked.sub net.lastValue 1 = some (net.lastValue - 1) := by rw [Checked.sub, if_pos (by omega)]
    rw [usableBounds_large room (by omega)]
    obtain ⟨more, bits⟩ : ∃ more, net.hostBits = more + 2 := ⟨net.hostBits - 2, by omega⟩
    rw [bits] at last
    cases family : net.addr.isIpv6 with
    | false => simp [Checked.usableBounds, toInteger, last, bits, family, first, before]
    | true => simp [Checked.usableBounds, toInteger, last, bits, family, first]

theorem Checked.usableBounds_eq_none (ends : net.addr.value + 2 ^ net.hostBits = 2 ^ 128) :
    Checked.usableBounds net = none := by
  rw [Checked.usableBounds, toInteger, Checked.last_eq_none ends]
  rfl

theorem Checked.new_eq (room : net.lastValue < maxU128) : Checked.new net = some (.new net) := by
  rw [Checked.new, Checked.usableBounds_eq room]
  rfl

theorem Checked.lease_eq (valid : Valid net system) (room : net.lastValue < maxU128) :
    Checked.lease system.pool = some system.pool.lease := by
  unfold Checked.lease PoolState.lease
  by_cases empty : system.pool.lastLease < system.pool.firstLease
  · rw [if_pos empty, if_pos empty]
    rfl
  · have high := (usable room).high
    have below : system.pool.lastLease < maxU128 := by
      rw [valid.last_eq]
      omega
    have span : Checked.add (system.pool.lastLease - system.pool.firstLease) 1 =
        some (system.pool.lastLease - system.pool.firstLease + 1) := by
      simp only [maxU128] at below
      rw [Checked.add, if_pos (by omega)]
    rw [if_neg empty, if_neg empty, Checked.sub, if_pos (by omega)]
    simp only [Option.bind_eq_bind, Option.bind_some, span]
    cases scan saturatingSucc (decide <| · ∈ system.pool.leased) system.pool.firstLease system.pool.lastLease
        (system.pool.lastLease - system.pool.firstLease + 1) system.pool.cursor with
    | none => rfl
    | some candidate => rfl

theorem total (room : net.lastValue < maxU128) : Total net := by
  have range := usable room
  refine ⟨⟨_, _, Checked.usableBounds_eq room, range.low, range.ordered, range.high⟩, Checked.new_eq room, ?_⟩
  intro events system ran
  have valid : Valid net system :=
    run_invariant (Valid net) (fun _ event _ valid stepped => valid.step room event stepped) (valid_start room) ran
  refine ⟨Checked.lease_eq valid room, ?_⟩
  rintro ⟨number, above, below, free⟩ refused
  rcases valid.lease_cases room with ⟨-, full⟩ | ⟨key, -, -, -, granted⟩
  · exact free (full number above below)
  · rw [granted] at refused
    cases refused

end

/-- The arithmetic of a pool stays in its range exactly if the prefix does not end with the last of the IPv6
addresses. -/
theorem pool_arithmetic_total_iff (addr : IpAddr) (len : UInt8) (net : IpPrefix)
    (accepted : IpPrefix.new addr len = .ok net) :
    Total net ↔ addr.value + 2 ^ (addr.width - len.toNat) ≠ 2 ^ 128 := by
  obtain ⟨rfl, rfl⟩ := IpPrefix.new_eq_ok accepted
  rw [← IpPrefix.hostBits, ← lastValue_room_iff]
  constructor
  · intro every
    by_contra full
    obtain ⟨first, last, computed, -⟩ := every.bounds
    rw [lastValue_room_iff, not_not] at full
    rw [Checked.usableBounds_eq_none full] at computed
    cases computed
  · exact total

theorem documentation_prefix_total :
    IpPrefix.new (.v6 0x20010db8000000000000000000000000) 64 =
        .ok ⟨.v6 0x20010db8000000000000000000000000, 64, by decide, by decide⟩ ∧
      Total ⟨.v6 0x20010db8000000000000000000000000, 64, by decide, by decide⟩ := by
  have accepted : IpPrefix.new (.v6 0x20010db8000000000000000000000000) 64 =
      .ok ⟨.v6 0x20010db8000000000000000000000000, 64, by decide, by decide⟩ := by decide
  exact ⟨accepted, (pool_arithmetic_total_iff _ _ _ accepted).mpr (by decide)⟩

-- `::/0`, and the last four of all addresses.
def everyAddress : IpPrefix := ⟨.v6 0, 0, by decide, by decide⟩

def lastAddresses : IpPrefix := ⟨.v6 0xfffffffffffffffffffffffffffffffc, 126, by decide, by decide⟩

/-- A build that checks panics on the first. One that wraps can be run to where an address of the second is free and
the cursor, which cannot step past the last number, never comes to it. -/
theorem top_of_range_not_total :
    IpPrefix.new (.v6 0) 0 = .ok everyAddress ∧ Checked.usableBounds everyAddress = none ∧ ¬Total everyAddress ∧
    IpPrefix.new (.v6 0xfffffffffffffffffffffffffffffffc) 126 = .ok lastAddresses ∧
    ∃ system, run step (start lastAddresses) [.lease, .lease, .drop 0] = some system ∧
      system.pool.firstLease ∉ system.pool.leased ∧ system.pool.firstLease ≤ system.pool.lastLease ∧
      system.pool.lease.1 = none := by
  have nothing : Checked.usableBounds everyAddress = none := by decide
  refine ⟨by decide, nothing, ?_, by decide, _, by rfl, by decide, by decide, by decide⟩
  intro every
  obtain ⟨first, last, computed, -⟩ := every.bounds
  rw [nothing] at computed
  cases computed

end Skimasque.Gateway.AddressPool
