import Mathlib.Data.Finset.Card
import Mathlib.Order.Interval.Finset.Nat
import Skimasque.Core.ConnectIp
import Skimasque.Library.Scan
import Skimasque.Library.Transition

/-! The pool a CONNECT-IP proxy leases addresses from, and the leases that are live at any time. -/

set_option autoImplicit false

namespace Skimasque.Gateway.AddressPool
open Library Library.Address Library.Scan Library.Transition Skimasque.Core

/-! ## Arithmetic of `u128` -/

def maxU128 : Nat := 2 ^ 128 - 1

/-- `+` and `-` as a release build has them; a debug build panics where these wrap. -/
def addU128 (left right : Nat) : Nat := (left + right) % 2 ^ 128

def subU128 (left right : Nat) : Nat := (left + 2 ^ 128 - right) % 2 ^ 128

def saturatingSucc (value : Nat) : Nat := min (value + 1) maxU128

/-- `1u128.checked_shl(bits).unwrap_or(0)`. -/
def shiftOne (bits : Nat) : Nat := if bits < 128 then 2 ^ bits else 0

/-! ## The pool -/

/-- `from_integer`. An IPv4 address takes the low bits. -/
def fromInteger (value : Nat) (v6 : Bool) : IpAddr :=
  if v6 then .v6 (BitVec.ofNat 128 value) else .v4 (BitVec.ofNat 32 value)

def toInteger (addr : IpAddr) : Nat := addr.value

/-- The bounds, both inclusive, of what may be handed out. A single address and a link of two use
every address; otherwise the first of the prefix is left out, and the last of an IPv4 prefix too. -/
def usableBounds (net : IpPrefix) : Nat × Nat :=
  let base := toInteger net.addr
  let last := subU128 (addU128 base (shiftOne net.hostBits)) 1
  match net.addr.isIpv6, net.hostBits with
  | _, 0 | _, 1 => (base, last)
  | false, _ => (addU128 base 1, subU128 last 1)
  | true, _ => (addU128 base 1, last)

structure PoolState where
  net : IpPrefix
  firstLease : Nat
  lastLease : Nat
  cursor : Nat
  leased : Finset Nat

structure IpLease where
  key : Nat
  host : IpPrefix

def IpLease.address (lease : IpLease) : IpAddr := lease.host.addr

namespace PoolState

/-- The first usable address is the proxy's own. -/
def new (net : IpPrefix) : PoolState where
  net := net
  firstLease := saturatingSucc (usableBounds net).1
  lastLease := (usableBounds net).2
  cursor := saturatingSucc (usableBounds net).1
  leased := ∅

def proxyAddress (pool : PoolState) : IpAddr := fromInteger (usableBounds pool.net).1 pool.net.addr.isIpv6

def capacity (pool : PoolState) : Nat :=
  if pool.lastLease < pool.firstLease then 0 else pool.lastLease - pool.firstLease + 1

def leasedCount (pool : PoolState) : Nat := pool.leased.card

def lease (pool : PoolState) : Option IpLease × PoolState :=
  if pool.lastLease < pool.firstLease then (none, pool)
  else
    let span := pool.lastLease - pool.firstLease + 1
    match scan saturatingSucc (decide <| · ∈ pool.leased) pool.firstLease pool.lastLease span pool.cursor with
    | none => (none, pool)
    | some candidate =>
      let address := fromInteger candidate pool.net.addr.isIpv6
      (some ⟨candidate, .host address⟩,
        { pool with leased := insert candidate pool.leased, cursor := saturatingSucc candidate })

def release (pool : PoolState) (key : Nat) : PoolState := { pool with leased := pool.leased.erase key }

end PoolState

/-! ## Runs -/

/-- A pool, and the leases its callers hold. -/
structure System where
  pool : PoolState
  live : List IpLease

inductive Event where
  | lease
  | drop (index : Nat)
  deriving DecidableEq, Repr

/-- A caller can drop only a lease that is held. -/
def step (system : System) : Event → Option System
  | .lease =>
    match system.pool.lease with
    | (none, pool) => some { system with pool }
    | (some lease, pool) => some ⟨pool, system.live ++ [lease]⟩
  | .drop index =>
    match system.live[index]? with
    | none => none
    | some lease => some ⟨system.pool.release lease.key, system.live.eraseIdx index⟩

def start (net : IpPrefix) : System := ⟨.new net, []⟩

/-! ## The range -/

/-- What is handed out lies between the base and the last address, and before the last of an IPv4 prefix that has a
broadcast address. -/
structure Usable (net : IpPrefix) : Prop where
  low : net.addr.value ≤ (usableBounds net).1
  ordered : (usableBounds net).1 ≤ (usableBounds net).2
  high : (usableBounds net).2 ≤ net.lastValue
  broadcast : net.addr.isIpv6 = false → 2 ≤ net.hostBits → (usableBounds net).2 < net.lastValue

theorem last_eq {net : IpPrefix} (room : net.lastValue < maxU128) :
    subU128 (addU128 net.addr.value (shiftOne net.hostBits)) 1 = net.lastValue := by
  have positive : 0 < 2 ^ net.hostBits := Nat.two_pow_pos _
  have short : net.hostBits < 128 := by
    by_contra long
    have large : 2 ^ 128 ≤ 2 ^ net.hostBits := Nat.pow_le_pow_right (by decide) (by omega)
    simp only [IpPrefix.lastValue, maxU128] at room
    omega
  simp only [IpPrefix.lastValue, maxU128] at room
  simp only [subU128, addU128, shiftOne, if_pos short, IpPrefix.lastValue]
  omega

theorem usableBounds_small {net : IpPrefix} (room : net.lastValue < maxU128) (small : net.hostBits ≤ 1) :
    usableBounds net = (net.addr.value, net.lastValue) := by
  have last := last_eq room
  obtain none | one : net.hostBits = 0 ∨ net.hostBits = 1 := by omega
  · rw [none] at last
    simp only [usableBounds, toInteger, none, last]
  · rw [one] at last
    simp only [usableBounds, toInteger, one, last]

theorem usableBounds_large {net : IpPrefix} (room : net.lastValue < maxU128) (large : 2 ≤ net.hostBits) :
    usableBounds net =
      (net.addr.value + 1, if net.addr.isIpv6 then net.lastValue else net.lastValue - 1) := by
  have last := last_eq room
  have ends : net.lastValue = net.addr.value + 2 ^ net.hostBits - 1 := rfl
  have size : 2 ^ 2 ≤ 2 ^ net.hostBits := Nat.pow_le_pow_right (by decide) large
  have first : addU128 net.addr.value 1 = net.addr.value + 1 := by
    simp only [addU128, maxU128] at *
    omega
  have before : subU128 net.lastValue 1 = net.lastValue - 1 := by
    simp only [subU128, maxU128] at *
    omega
  obtain ⟨more, bits⟩ : ∃ more, net.hostBits = more + 2 := ⟨net.hostBits - 2, by omega⟩
  rw [bits] at last
  cases family : net.addr.isIpv6 with
  | false => simp [usableBounds, toInteger, bits, last, first, before, family]
  | true => simp [usableBounds, toInteger, bits, last, first, family]

theorem usable {net : IpPrefix} (room : net.lastValue < maxU128) : Usable net := by
  have ends : net.lastValue = net.addr.value + 2 ^ net.hostBits - 1 := rfl
  by_cases small : net.hostBits ≤ 1
  · have positive : 0 < 2 ^ net.hostBits := Nat.two_pow_pos _
    have bounds := usableBounds_small room small
    constructor <;> rw [bounds] <;> omega
  · have size : 2 ^ 2 ≤ 2 ^ net.hostBits := Nat.pow_le_pow_right (by decide) (by omega)
    have bounds := usableBounds_large room (by omega)
    cases family : net.addr.isIpv6 with
    | false =>
      rw [family, if_neg (by decide)] at bounds
      constructor <;> rw [bounds] <;> omega
    | true =>
      rw [family, if_pos rfl] at bounds
      refine ⟨?_, ?_, ?_, fun other => absurd (family.symm.trans other) (by decide)⟩ <;> rw [bounds] <;> omega

/-! ## What holds in every run -/

structure Valid (net : IpPrefix) (system : System) : Prop where
  net_eq : system.pool.net = net
  first_eq : system.pool.firstLease = (usableBounds net).1 + 1
  last_eq : system.pool.lastLease = (usableBounds net).2
  cursor_low : system.pool.firstLease ≤ system.pool.cursor
  cursor_high : system.pool.cursor ≤ system.pool.lastLease + 1
  keys_nodup : (system.live.map IpLease.key).Nodup
  keys_eq : (system.live.map IpLease.key).toFinset = system.pool.leased
  within : ∀ key ∈ system.pool.leased, system.pool.firstLease ≤ key ∧ key ≤ system.pool.lastLease
  addressed : ∀ lease ∈ system.live, lease.host = .host (fromInteger lease.key net.addr.isIpv6)

theorem saturatingSucc_eq {value : Nat} (room : value < maxU128) : saturatingSucc value = value + 1 :=
  Nat.min_eq_left room

section
variable {net : IpPrefix} {system after : System}

theorem valid_start (room : net.lastValue < maxU128) : Valid net (start net) := by
  have range := usable room
  have first : saturatingSucc (usableBounds net).1 = (usableBounds net).1 + 1 :=
    saturatingSucc_eq (by have := range.ordered; have := range.high; omega)
  have ordered := range.ordered
  refine ⟨rfl, first, rfl, le_rfl, ?_, List.nodup_nil, rfl, ?_, ?_⟩
  · simp only [start, PoolState.new, first]
    omega
  · intro key member
    exact absurd member (Finset.notMem_empty key)
  · intro lease member
    cases member

/-- Where the pool can lease at all, counting never saturates. -/
theorem Valid.counts (valid : Valid net system) (room : net.lastValue < maxU128) :
    ∀ number ≤ system.pool.lastLease, saturatingSucc number = number + 1 := by
  intro number below
  have high := (usable room).high
  rw [valid.last_eq] at below
  exact saturatingSucc_eq (by omega)

/-- A lease is refused exactly when every address of the range is taken; otherwise it takes a free one. -/
theorem Valid.lease_cases (valid : Valid net system) (room : net.lastValue < maxU128) :
    (system.pool.lease = (none, system.pool) ∧
      ∀ number, system.pool.firstLease ≤ number → number ≤ system.pool.lastLease → number ∈ system.pool.leased) ∨
    ∃ key, system.pool.firstLease ≤ key ∧ key ≤ system.pool.lastLease ∧ key ∉ system.pool.leased ∧
      system.pool.lease = (some ⟨key, .host (fromInteger key net.addr.isIpv6)⟩,
        { system.pool with leased := insert key system.pool.leased, cursor := key + 1 }) := by
  unfold PoolState.lease
  by_cases empty : system.pool.lastLease < system.pool.firstLease
  · rw [if_pos empty]
    exact .inl ⟨rfl, fun number above below => absurd empty (by omega)⟩
  · rw [if_neg empty]
    have ordered : system.pool.firstLease ≤ system.pool.lastLease := by omega
    have counts := valid.counts room
    cases scanned : scan saturatingSucc (decide <| · ∈ system.pool.leased) system.pool.firstLease
        system.pool.lastLease (system.pool.lastLease - system.pool.firstLease + 1) system.pool.cursor with
    | none =>
      have busy := (scan_range_eq_none_iff ordered counts valid.cursor_low valid.cursor_high).mp scanned
      refine .inl ⟨by simp only [scanned], fun number above below => ?_⟩
      simpa using busy number above below
    | some key =>
      obtain ⟨above, below, free⟩ := scan_eq_some ordered counts valid.cursor_low scanned
      refine .inr ⟨key, above, below, by simpa using free, ?_⟩
      simp only [scanned, valid.net_eq, counts key below]

theorem Valid.lease (valid : Valid net system) (room : net.lastValue < maxU128)
    (stepped : step system .lease = some after) : Valid net after := by
  rcases valid.lease_cases room with ⟨refused, -⟩ | ⟨key, above, below, free, granted⟩
  · simp only [step, refused] at stepped
    cases stepped
    exact valid
  · simp only [step, granted] at stepped
    cases stepped
    have fresh : key ∉ system.live.map IpLease.key := by
      intro member
      exact free (valid.keys_eq ▸ List.mem_toFinset.mpr member)
    refine ⟨valid.net_eq, valid.first_eq, valid.last_eq, ?_, ?_, ?_, ?_, ?_, ?_⟩
    · simp only
      omega
    · simp only
      omega
    · rw [List.map_append, List.map_singleton, List.nodup_append_comm, List.singleton_append, List.nodup_cons]
      exact ⟨fresh, valid.keys_nodup⟩
    · rw [List.map_append, List.toFinset_append, valid.keys_eq, Finset.union_comm]
      rfl
    · intro number member
      rcases Finset.mem_insert.mp member with rfl | old
      · exact ⟨above, below⟩
      · exact valid.within number old
    · intro lease member
      rcases List.mem_append.mp member with old | new
      · exact valid.addressed lease old
      · cases List.mem_singleton.mp new
        rfl

theorem Valid.drop (valid : Valid net system) {index : Nat} (stepped : step system (.drop index) = some after) :
    Valid net after := by
  simp only [step] at stepped
  split at stepped
  · cases stepped
  · rename_i lease present
    cases stepped
    obtain ⟨bound, rfl⟩ := List.getElem?_eq_some_iff.mp present
    -- Keys are distinct, so to erase the position is to erase the key.
    have erased : (system.live.eraseIdx index).map IpLease.key =
        (system.live.map IpLease.key).erase system.live[index].key := by
      have place := valid.keys_nodup.erase_getElem index (by simpa using bound)
      rw [List.getElem_map] at place
      rw [place, List.eraseIdx_map]
    refine ⟨valid.net_eq, valid.first_eq, valid.last_eq, valid.cursor_low, valid.cursor_high, ?_, ?_, ?_, ?_⟩
    · rw [erased]
      exact valid.keys_nodup.erase _
    · ext number
      rw [erased, List.mem_toFinset, valid.keys_nodup.mem_erase_iff, PoolState.release, Finset.mem_erase,
        ← valid.keys_eq, List.mem_toFinset]
    · intro number member
      exact valid.within number (Finset.mem_of_mem_erase member)
    · intro lease member
      exact valid.addressed lease (List.mem_of_mem_eraseIdx member)

theorem Valid.step (room : net.lastValue < maxU128) (event : Event) (valid : Valid net system)
    (stepped : AddressPool.step system event = some after) : Valid net after := by
  cases event with
  | lease => exact valid.lease room stepped
  | drop index => exact valid.drop stepped

theorem Valid.card (valid : Valid net system) : system.pool.leasedCount = system.live.length := by
  rw [PoolState.leasedCount, ← valid.keys_eq, List.toFinset_card_of_nodup valid.keys_nodup, List.length_map]

theorem Valid.subset (valid : Valid net system) :
    system.pool.leased ⊆ Finset.Icc system.pool.firstLease system.pool.lastLease := by
  intro key member
  exact Finset.mem_Icc.mpr (valid.within key member)

theorem capacity_eq (pool : PoolState) :
    pool.capacity = (Finset.Icc pool.firstLease pool.lastLease).card := by
  rw [PoolState.capacity, Nat.card_Icc]
  split <;> omega

/-- Nothing is leased exactly when as many are leased as there are: the leased ones are then all of the range. -/
theorem Valid.lease_eq_none_iff (valid : Valid net system) (room : net.lastValue < maxU128) :
    system.pool.lease.1 = none ↔ system.pool.leasedCount = system.pool.capacity := by
  rw [capacity_eq, PoolState.leasedCount]
  rcases valid.lease_cases room with ⟨refused, full⟩ | ⟨key, above, below, free, granted⟩
  · have all : system.pool.leased = Finset.Icc system.pool.firstLease system.pool.lastLease := by
      apply Finset.Subset.antisymm valid.subset
      intro number member
      obtain ⟨above, below⟩ := Finset.mem_Icc.mp member
      exact full number above below
    rw [refused, all]
    simp
  · rw [granted]
    simp only [reduceCtorEq, false_iff]
    intro same
    have all := Finset.eq_of_subset_of_card_le valid.subset (Nat.le_of_eq same.symm)
    exact free (all ▸ Finset.mem_Icc.mpr ⟨above, below⟩)

theorem fromInteger_family (value : Nat) (v6 : Bool) : (fromInteger value v6).isIpv6 = v6 := by
  cases v6 with
  | false => rfl
  | true => rfl

theorem fromInteger_value {value : Nat} {addr : IpAddr} (fits : value < 2 ^ addr.width) :
    (fromInteger value addr.isIpv6).value = value := by
  cases addr with
  | v4 bits => exact Nat.mod_eq_of_lt fits
  | v6 bits => exact Nat.mod_eq_of_lt fits

/-- A live lease has the address its key stands for, beyond the proxy's own and within the usable range. -/
theorem Valid.address (valid : Valid net system) (room : net.lastValue < maxU128) {lease : IpLease}
    (member : lease ∈ system.live) :
    lease.address.isIpv6 = net.addr.isIpv6 ∧ lease.address.value = lease.key ∧
      (usableBounds net).1 < lease.key ∧ lease.key ≤ (usableBounds net).2 := by
  have held : lease.key ∈ system.pool.leased := by
    rw [← valid.keys_eq, List.mem_toFinset]
    exact List.mem_map_of_mem member
  have within := valid.within lease.key held
  rw [valid.first_eq, valid.last_eq] at within
  have fits : lease.key < 2 ^ net.addr.width := by
    have high := (usable room).high
    have ends := net.lastValue_lt
    omega
  have shown : lease.address = fromInteger lease.key net.addr.isIpv6 := by
    rw [IpLease.address, valid.addressed lease member]
    rfl
  refine ⟨?_, ?_, within.1, within.2⟩
  · rw [shown, fromInteger_family]
  · rw [shown, fromInteger_value fits]

theorem proxyAddress_value (valid : Valid net system) (room : net.lastValue < maxU128) :
    system.pool.proxyAddress.value = (usableBounds net).1 := by
  rw [PoolState.proxyAddress, valid.net_eq]
  apply fromInteger_value
  have ordered := (usable room).ordered
  have high := (usable room).high
  have ends := net.lastValue_lt
  omega

end

theorem hostBits_of_short {net : IpPrefix} (v4 : net.addr.isIpv6 = false) (short : net.prefixLen < 31) :
    2 ≤ net.hostBits := by
  have wide : net.addr.width = 32 := by
    cases address : net.addr with
    | v4 bits => rfl
    | v6 bits => simp [address, IpAddr.isIpv6] at v4
  have short : net.prefixLen.toNat < 31 := UInt8.lt_iff_toNat_lt.mp short
  rw [IpPrefix.hostBits, wide]
  omega

/-- After any sequence of leases and drops the live leases are distinct addresses of the prefix, none of them the
proxy's own or one that is kept back; as many are leased as are live; and a lease is refused exactly when as many
are leased as the pool has. -/
theorem pool_runs_sound (addr : IpAddr) (len : UInt8) (net : IpPrefix) (accepted : IpPrefix.new addr len = .ok net)
    (room : net.lastValue < 2 ^ 128 - 1) (events : List Event) (system : System)
    (ran : run step (start net) events = some system) :
    (system.live.map IpLease.address).Nodup ∧
    (∀ lease ∈ system.live,
      lease.address.isIpv6 = addr.isIpv6 ∧ addr.value ≤ lease.address.value ∧ lease.address.value ≤ net.lastValue ∧
      lease.address ≠ system.pool.proxyAddress ∧
      (addr.isIpv6 = false → len < 31 → lease.address ≠ addr ∧ lease.address.value ≠ net.lastValue) ∧
      (addr.isIpv6 = true → len < 127 → lease.address ≠ addr)) ∧
    system.pool.leasedCount = system.live.length ∧ system.pool.leasedCount ≤ system.pool.capacity ∧
    (system.pool.lease.1 = none ↔ system.pool.leasedCount = system.pool.capacity) := by
  have valid : Valid net system :=
    run_invariant (Valid net) (fun _ event _ valid stepped => valid.step room event stepped) (valid_start room) ran
  have range := usable room
  obtain ⟨rfl, rfl⟩ := IpPrefix.new_eq_ok accepted
  refine ⟨?_, ?_, valid.card, ?_, valid.lease_eq_none_iff room⟩
  · apply List.Nodup.of_map IpAddr.value
    have keys : (system.live.map IpLease.address).map IpAddr.value = system.live.map IpLease.key := by
      rw [List.map_map]
      exact List.map_congr_left fun lease member => (valid.address room member).2.1
    rw [keys]
    exact valid.keys_nodup
  · intro lease member
    obtain ⟨family, value, above, below⟩ := valid.address room member
    have low := range.low
    have high := range.high
    have notBase : lease.address ≠ net.addr := by
      intro same
      rw [same] at value
      omega
    refine ⟨family, by omega, by omega, ?_, ?_, fun _ _ => notBase⟩
    · intro same
      rw [same, proxyAddress_value valid room] at value
      omega
    · intro v4 short
      have inside := range.broadcast v4 (hostBits_of_short v4 short)
      exact ⟨notBase, by omega⟩
  · rw [capacity_eq]
    exact Finset.card_le_card valid.subset


-- A prefix of eight addresses that leases all five, gives one in the middle back and leases it again.
def sampleNet : IpPrefix := ⟨.v4 0xc0000200, 29, by decide, by decide⟩

def sampleEvents : List Event := [.lease, .lease, .lease, .lease, .lease, .lease, .drop 2, .lease]

theorem sample_pool_is_full :
    IpPrefix.new (.v4 0xc0000200) 29 = .ok sampleNet ∧
      ∃ system, run step (start sampleNet) sampleEvents = some system ∧
        system.live.map (·.address.value % 256) = [2, 3, 5, 6, 4] ∧ system.pool.leasedCount = 5 ∧
        (system.pool.lease.1 = none ↔ system.pool.leasedCount = system.pool.capacity) := by
  have accepted : IpPrefix.new (.v4 0xc0000200) 29 = .ok sampleNet := by decide
  refine ⟨accepted, _, rfl, by decide, by decide, ?_⟩
  exact (pool_runs_sound (.v4 0xc0000200) 29 sampleNet accepted (by decide) sampleEvents _ rfl).2.2.2.2

end Skimasque.Gateway.AddressPool
