import Skimasque.Library.Refill
import Mathlib.Algebra.Order.Field.Rat

/-! The token bucket that all tunnels of a policy share, and the calls that wait for it.
Token counts are exact rationals, and a time is a number of seconds. -/

set_option autoImplicit false

namespace Skimasque.Gateway.RateLimit
open Library

inductive Kind where
  | bandwidth
  | packets
  deriving DecidableEq, Repr

structure RateLimiter where
  kind : Kind
  unitsPerSec : ℚ
  capacity : ℚ
  tokens : ℚ
  last : ℚ
  deriving DecidableEq, Repr

namespace RateLimiter

def new (kind : Kind) (unitsPerSec minCapacity now : ℚ) : RateLimiter :=
  let capacity := max unitsPerSec minCapacity
  ⟨kind, unitsPerSec, capacity, capacity, now⟩

def bandwidth (bitsPerSec : UInt64) (now : ℚ) : RateLimiter :=
  new .bandwidth (max (bitsPerSec.toNat / 8) 1) (64 * 1024) now

def packets (packetsPerSec : UInt64) (now : ℚ) : RateLimiter := new .packets (max packetsPerSec.toNat 1) 64 now

def need (limiter : RateLimiter) (units : Nat) : ℚ := min units limiter.capacity

/-- One turn of the loop of `consume`, under the lock: how long to nap, or nothing once `need` is spent. -/
def check (limiter : RateLimiter) (need now : ℚ) : Option ℚ × RateLimiter :=
  let elapsed := max (now - limiter.last) 0
  let tokens := min (limiter.tokens + elapsed * limiter.unitsPerSec) limiter.capacity
  if need ≤ tokens then (none, { limiter with tokens := tokens - need, last := now })
  else
    let wait := (need - tokens) / limiter.unitsPerSec
    (some (min wait 1), { limiter with tokens, last := now })

end RateLimiter

/-! ## The relays -/

/-- `TCP_RELAY_BUFFER`. -/
def tcpRelayBuffer : Nat := 64 * 1024

/-- `MAX_UDP_PAYLOAD`. -/
def maxUdpPayload : Nat := 65535

/-- What a relay moves at a time. What comes from the target is read into a buffer; what comes from the client has
the size it was received with. -/
inductive Chunk where
  | fromClient (length : Nat)
  | fromTarget (length : Fin (tcpRelayBuffer + 1))
  | payloadFromClient (length : Nat)
  | payloadFromTarget (length : Fin (maxUdpPayload + 1))
  deriving DecidableEq, Repr

/-- The units a relay asks of a limiter for a chunk; a stream is not metered in packets. -/
def Chunk.units : Chunk → Kind → Option Nat
  | .fromClient length, .bandwidth => some length
  | .fromTarget length, .bandwidth => some length.val
  | .payloadFromClient length, .bandwidth => some length
  | .payloadFromTarget length, .bandwidth => some length.val
  | .fromClient _, .packets => none
  | .fromTarget _, .packets => none
  | .payloadFromClient _, .packets => some 1
  | .payloadFromTarget _, .packets => some 1

abbrev Tunnel := Nat

/-- A call of `consume` that naps. -/
structure Waiting where
  units : Nat
  wake : ℚ
  deriving DecidableEq, Repr

/-- The limiter and the call that each tunnel waits in, if it does. -/
structure Shared where
  limiter : RateLimiter
  waiting : Tunnel → Option Waiting

/-- A tunnel calls `consume`, has napped, or is torn down. -/
inductive Event where
  | consume (now : ℚ) (tunnel : Tunnel) (chunk : Chunk)
  | recheck (now : ℚ) (tunnel : Tunnel)
  | abandon (now : ℚ) (tunnel : Tunnel)
  deriving DecidableEq, Repr

def Event.now : Event → ℚ
  | .consume now _ _ => now
  | .recheck now _ => now
  | .abandon now _ => now

namespace Shared

def new (limiter : RateLimiter) : Shared := ⟨limiter, fun _ => none⟩

/-- The units that the call of this event asks for, if there is a call that can go on. -/
def asks (shared : Shared) : Event → Option Nat
  | .consume _ tunnel chunk =>
    match shared.waiting tunnel with
    | some _ => none
    | none => chunk.units shared.limiter.kind
  | .recheck now tunnel =>
    match shared.waiting tunnel with
    | some call => if call.wake ≤ now then some call.units else none
    | none => none
  | .abandon _ _ => none

def attempt (shared : Shared) (now : ℚ) (tunnel : Tunnel) (units : Nat) : Shared :=
  let checked := shared.limiter.check (shared.limiter.need units) now
  ⟨checked.2, Function.update shared.waiting tunnel (checked.1.map fun nap => ⟨units, now + nap⟩)⟩

def step (shared : Shared) (event : Event) : Option Shared :=
  match event with
  | .consume now tunnel _ => (shared.asks event).map (shared.attempt now tunnel)
  | .recheck now tunnel => (shared.asks event).map (shared.attempt now tunnel)
  | .abandon _ tunnel => some { shared with waiting := Function.update shared.waiting tunnel none }

/-- The units whose `consume` returns at this event. -/
def returned (shared : Shared) (event : Event) : Nat :=
  match shared.asks event with
  | some units => if (shared.limiter.check (shared.limiter.need units) event.now).1 = none then units else 0
  | none => 0

/-- What that return takes out of the bucket. -/
def debited (shared : Shared) (event : Event) : ℚ := shared.limiter.need (shared.returned event)

end Shared

/-! ## The bucket -/

/-- The tokens of the bucket if it were refilled at `now`. -/
def RateLimiter.level (limiter : RateLimiter) (now : ℚ) : ℚ :=
  Refill.level limiter.capacity limiter.unitsPerSec limiter.tokens limiter.last now

/-- The burst allowance that each kind of limiter has at least. -/
def Kind.floor : Kind → ℚ
  | .bandwidth => 64 * 1024
  | .packets => 64

/-- What a limiter is made with. -/
structure RateLimiter.Configured (limiter : RateLimiter) : Prop where
  growing : 0 ≤ limiter.unitsPerSec
  room : 0 ≤ limiter.capacity
  floor : limiter.kind.floor ≤ limiter.capacity

/-- A later state of the limiter: as it was made, with tokens that fit. -/
structure RateLimiter.Later (limiter later : RateLimiter) : Prop where
  kind : later.kind = limiter.kind
  unitsPerSec : later.unitsPerSec = limiter.unitsPerSec
  capacity : later.capacity = limiter.capacity
  filled : 0 ≤ later.tokens
  bounded : later.tokens ≤ later.capacity

namespace RateLimiter

variable {made limiter : RateLimiter} {units : Nat} {now : ℚ}

theorem need_nonneg (configured : limiter.Configured) : 0 ≤ limiter.need units :=
  le_min (Nat.cast_nonneg units) configured.room

theorem need_zero (configured : limiter.Configured) : limiter.need 0 = 0 := by
  rw [need, Nat.cast_zero]
  exact min_eq_left configured.room

theorem need_eq (fits : (units : ℚ) ≤ limiter.capacity) : limiter.need units = units := min_eq_left fits

theorem level_nonneg (configured : made.Configured) (later : made.Later limiter) : 0 ≤ limiter.level now := by
  unfold level
  rw [later.capacity, later.unitsPerSec]
  exact Refill.level_nonneg configured.growing later.filled configured.room

theorem check_of_le {need : ℚ} (enough : need ≤ limiter.level now) :
    limiter.check need now = (none, { limiter with tokens := limiter.level now - need, last := now }) :=
  if_pos enough

theorem check_of_not_le {need : ℚ} (dry : ¬need ≤ limiter.level now) :
    limiter.check need now = (some (min ((need - limiter.level now) / limiter.unitsPerSec) 1),
      { limiter with tokens := limiter.level now, last := now }) :=
  if_neg dry

theorem later_check (configured : made.Configured) (later : made.Later limiter) {need : ℚ} (asked : 0 ≤ need) :
    made.Later (limiter.check need now).2 := by
  have filled : 0 ≤ limiter.level now := level_nonneg configured later
  have bounded : limiter.level now ≤ limiter.capacity := Refill.level_le_capacity
  by_cases enough : need ≤ limiter.level now
  · rw [check_of_le enough]
    exact ⟨later.kind, later.unitsPerSec, later.capacity, by linarith, by linarith⟩
  · rw [check_of_not_le enough]
    exact ⟨later.kind, later.unitsPerSec, later.capacity, filled, bounded⟩

/-- A check that lets its call return pays for it out of the bucket. -/
theorem check_pays (need : ℚ) :
    (if (limiter.check need now).1 = none then need else 0) + (limiter.check need now).2.level now ≤
      limiter.level now := by
  by_cases enough : need ≤ limiter.level now
  · rw [check_of_le enough, if_pos rfl]
    have left : Refill.level limiter.capacity limiter.unitsPerSec (limiter.level now - need) now now ≤
      limiter.level now - need := Refill.level_self_le
    unfold level at left ⊢
    linarith
  · rw [check_of_not_le enough, if_neg (Option.some_ne_none _), zero_add]
    exact Refill.level_self_le

theorem configured_new {kind : Kind} {unitsPerSec : ℚ} (growing : 0 ≤ unitsPerSec) (opened : ℚ) :
    (new kind unitsPerSec kind.floor opened).Configured := by
  constructor
  case growing => exact growing
  case room => exact le_max_of_le_left growing
  case floor => exact le_max_right _ _

end RateLimiter

/-- The limits of a policy. -/
inductive Limit where
  | bandwidth (bitsPerSec : UInt64)
  | packets (packetsPerSec : UInt64)
  deriving DecidableEq, Repr

def Limit.limiter (opened : ℚ) : Limit → RateLimiter
  | .bandwidth bitsPerSec => .bandwidth bitsPerSec opened
  | .packets packetsPerSec => .packets packetsPerSec opened

theorem Limit.configured (limit : Limit) (opened : ℚ) : (limit.limiter opened).Configured := by
  cases limit with
  | bandwidth bitsPerSec => exact RateLimiter.configured_new (le_max_of_le_right zero_le_one) opened
  | packets packetsPerSec => exact RateLimiter.configured_new (le_max_of_le_right zero_le_one) opened

theorem Limit.later (limit : Limit) (opened : ℚ) : (limit.limiter opened).Later (limit.limiter opened) := by
  have room := (limit.configured opened).room
  cases limit with
  | bandwidth bitsPerSec => exact ⟨rfl, rfl, rfl, room, le_rfl⟩
  | packets packetsPerSec => exact ⟨rfl, rfl, rfl, room, le_rfl⟩

/-! ## The calls -/

namespace Shared

variable {made : RateLimiter} {shared shared' : Shared} {event : Event}

/-- A step is a check of the call that the event is about, or leaves the limiter alone. -/
theorem step_cases (stepped : shared.step event = some shared') :
    (∃ tunnel units, shared.asks event = some units ∧ shared' = shared.attempt event.now tunnel units) ∨
      ∃ tunnel, shared.asks event = none ∧
        shared' = { shared with waiting := Function.update shared.waiting tunnel none } := by
  cases event with
  | consume now tunnel chunk =>
    obtain ⟨units, asked, same⟩ := Option.map_eq_some_iff.mp stepped
    exact Or.inl ⟨tunnel, units, asked, same.symm⟩
  | recheck now tunnel =>
    obtain ⟨units, asked, same⟩ := Option.map_eq_some_iff.mp stepped
    exact Or.inl ⟨tunnel, units, asked, same.symm⟩
  | abandon now tunnel =>
    cases stepped
    exact Or.inr ⟨tunnel, rfl, rfl⟩

theorem limiter_attempt (shared : Shared) (now : ℚ) (tunnel : Tunnel) (units : Nat) :
    (shared.attempt now tunnel units).limiter = (shared.limiter.check (shared.limiter.need units) now).2 := rfl

/-- A call that waits after an attempt waited before or is the one that was made. -/
theorem waiting_attempt {now : ℚ} {tunnel other : Tunnel} {units : Nat} {call : Waiting}
    (waits : (shared.attempt now tunnel units).waiting other = some call) :
    call.units = units ∨ shared.waiting other = some call := by
  by_cases same : other = tunnel
  · simp only [attempt, same, Function.update_self, Option.map_eq_some_iff] at waits
    obtain ⟨nap, _, made⟩ := waits
    exact Or.inl (congrArg Waiting.units made.symm)
  · simp only [attempt, Function.update_of_ne same] at waits
    exact Or.inr waits

theorem later_step (configured : made.Configured) (shared : Shared) (event : Event) (shared' : Shared)
    (later : made.Later shared.limiter) (stepped : shared.step event = some shared') : made.Later shared'.limiter := by
  cases step_cases stepped with
  | inl checked =>
    obtain ⟨tunnel, units, _, rfl⟩ := checked
    rw [limiter_attempt]
    have asked : 0 ≤ shared.limiter.need units := by
      rw [RateLimiter.need, later.capacity]
      exact RateLimiter.need_nonneg configured
    exact RateLimiter.later_check configured later asked
  | inr idle =>
    obtain ⟨tunnel, _, rfl⟩ := idle
    exact later

/-- What is debited at a step is paid for by the bucket. -/
theorem debited_pays (configured : made.Configured) (later : made.Later shared.limiter)
    (stepped : shared.step event = some shared') :
    shared.debited event + shared'.limiter.level event.now ≤ shared.limiter.level event.now := by
  have none : shared.limiter.need 0 = 0 := by
    rw [RateLimiter.need, later.capacity]
    exact RateLimiter.need_zero configured
  cases step_cases stepped with
  | inl checked =>
    obtain ⟨tunnel, units, asked, rfl⟩ := checked
    have pays := @RateLimiter.check_pays shared.limiter event.now (shared.limiter.need units)
    rw [limiter_attempt, debited, returned, asked]
    dsimp only
    rw [apply_ite shared.limiter.need, none]
    exact pays
  | inr idle =>
    obtain ⟨tunnel, asked, rfl⟩ := idle
    rw [debited, returned, asked]
    dsimp only
    rw [none, zero_add]

theorem debits (configured : made.Configured) :
    Refill.Accounts step Event.now (fun shared => made.Later shared.limiter) (fun _ _ => True) debited
      (fun shared => shared.limiter.level) made.unitsPerSec := by
  constructor
  case keeps =>
    intro shared event shared' later _
    exact later_step configured shared event shared' later
  case growth =>
    intro shared now after later onward
    have growing := configured.growing
    rw [← later.unitsPerSec] at growing ⊢
    exact Refill.level_growth growing onward
  case pays =>
    intro shared event shared' later _ stepped
    exact debited_pays configured later stepped

/-- No chunk from a client is longer than the burst allowance in bytes. -/
def Fits (shared : Shared) : Event → Prop
  | .consume _ _ (.fromClient length) => shared.limiter.kind = .bandwidth → (length : ℚ) ≤ shared.limiter.capacity
  | .consume _ _ (.payloadFromClient length) =>
    shared.limiter.kind = .bandwidth → (length : ℚ) ≤ shared.limiter.capacity
  | _ => True

/-- A chunk read into a buffer fits, and so does a datagram. -/
theorem units_le_capacity {now : ℚ} {tunnel : Tunnel} {chunk : Chunk} {units : Nat}
    (floor : shared.limiter.kind.floor ≤ shared.limiter.capacity) (fits : shared.Fits (.consume now tunnel chunk))
    (asked : chunk.units shared.limiter.kind = some units) : (units : ℚ) ≤ shared.limiter.capacity := by
  cases metered : shared.limiter.kind with
  | bandwidth =>
    rw [metered] at floor asked
    have buffered (length : Nat) (short : length ≤ 64 * 1024) : (length : ℚ) ≤ shared.limiter.capacity := by
      have cast : (length : ℚ) ≤ 64 * 1024 := by exact_mod_cast short
      exact cast.trans floor
    cases chunk with
    | fromClient length =>
      cases asked
      exact fits metered
    | fromTarget length =>
      cases asked
      exact buffered length.val (Nat.le_of_lt_succ length.isLt)
    | payloadFromClient length =>
      cases asked
      exact fits metered
    | payloadFromTarget length =>
      cases asked
      exact buffered length.val (Nat.le_of_lt (Nat.lt_of_lt_of_le length.isLt (Nat.le_refl _)))
  | packets =>
    rw [metered] at floor asked
    have one : ((1 : Nat) : ℚ) ≤ shared.limiter.capacity := le_trans (by norm_num [Kind.floor]) floor
    cases chunk with
    | fromClient length => cases asked
    | fromTarget length => cases asked
    | payloadFromClient length =>
      cases asked
      exact one
    | payloadFromTarget length =>
      cases asked
      exact one

/-- The limiter as it was made, later, and no call that waits asks for more than it ever holds. -/
structure Calm (made : RateLimiter) (shared : Shared) : Prop where
  later : made.Later shared.limiter
  waiting : ∀ tunnel call, shared.waiting tunnel = some call → (call.units : ℚ) ≤ made.capacity

theorem asks_le (configured : made.Configured) (calm : Calm made shared) (fits : shared.Fits event) {units : Nat}
    (asked : shared.asks event = some units) : (units : ℚ) ≤ made.capacity := by
  have floor := configured.floor
  rw [← calm.later.kind, ← calm.later.capacity] at floor
  cases event with
  | consume now tunnel chunk =>
    simp only [asks] at asked
    split at asked
    · cases asked
    · rw [← calm.later.capacity]
      exact units_le_capacity floor fits asked
  | recheck now tunnel =>
    simp only [asks] at asked
    split at asked
    · rename_i call waits
      split at asked
      · cases asked
        exact calm.waiting tunnel call waits
      · cases asked
    · cases asked
  | abandon now tunnel => cases asked

theorem calm_new (later : made.Later made) : Calm made (new made) := by
  constructor
  case later => exact later
  case waiting =>
    intro tunnel call waits
    cases waits

theorem calm_step (configured : made.Configured) (calm : Calm made shared) (fits : shared.Fits event)
    (stepped : shared.step event = some shared') : Calm made shared' := by
  constructor
  case later => exact later_step configured shared event shared' calm.later stepped
  case waiting =>
    intro other call waits
    cases step_cases stepped with
    | inl checked =>
      obtain ⟨tunnel, units, asked, rfl⟩ := checked
      cases waiting_attempt waits with
      | inl same =>
        rw [same]
        exact asks_le configured calm fits asked
      | inr before => exact calm.waiting other call before
    | inr idle =>
      obtain ⟨tunnel, _, rfl⟩ := idle
      by_cases same : other = tunnel
      · simp [same] at waits
      · simp only [Function.update_of_ne same] at waits
        exact calm.waiting other call waits

/-- Where what is asked for fits, all of it is debited. -/
theorem debited_eq_returned (configured : made.Configured) (calm : Calm made shared) (fits : shared.Fits event) :
    shared.debited event = shared.returned event := by
  apply RateLimiter.need_eq
  rw [calm.later.capacity, returned]
  split
  · rename_i units asked
    split
    · exact asks_le configured calm fits asked
    · exact configured.room
  · exact configured.room

theorem returns (configured : made.Configured) :
    Refill.Accounts step Event.now (Calm made) Fits (fun shared event => (shared.returned event : ℚ))
      (fun shared => shared.limiter.level) made.unitsPerSec := by
  constructor
  case keeps =>
    intro shared event shared' calm fits stepped
    exact calm_step configured calm fits stepped
  case growth =>
    intro shared now after calm onward
    exact (debits configured).growth shared now after calm.later onward
  case pays =>
    intro shared event shared' calm fits stepped
    rw [← debited_eq_returned configured calm fits]
    exact debited_pays configured calm.later stepped

theorem level_le (later : made.Later shared.limiter) (now : ℚ) : shared.limiter.level now ≤ made.capacity := by
  rw [← later.capacity]
  exact Refill.level_le_capacity

end Shared

/-- The tokens stay within the bucket, what is debited in a window is bounded, and so are the units that are let
through, if no chunk that a client sends is longer than the burst allowance. -/
theorem limiter_bounds_what_returns (limit : Limit) (opened : ℚ) (before : List Event) (shared : Shared)
    (ran : Transition.run Shared.step (Shared.new (limit.limiter opened)) before = some shared) :
    (0 ≤ shared.limiter.tokens ∧ shared.limiter.tokens ≤ shared.limiter.capacity) ∧
      ∀ window after start finish, Refill.Timed Event.now start window finish →
        Transition.run Shared.step shared window = some after →
          Refill.total Shared.step Shared.debited shared window ≤
            shared.limiter.capacity + shared.limiter.unitsPerSec * (finish - start) ∧
          (Transition.Along Shared.step Shared.Fits (Shared.new (limit.limiter opened)) (before ++ window) →
            Refill.total Shared.step (fun shared event => (shared.returned event : ℚ)) shared window ≤
              shared.limiter.capacity + shared.limiter.unitsPerSec * (finish - start)) := by
  have configured := limit.configured opened
  have later := Transition.run_invariant (fun shared => (limit.limiter opened).Later shared.limiter)
    (Shared.later_step configured) (limit.later opened) ran
  refine ⟨⟨later.filled, later.bounded⟩, ?_⟩
  intro window after start finish timed ranOn
  have held := Shared.level_le later start
  have left := Transition.run_invariant (fun shared => (limit.limiter opened).Later shared.limiter)
    (Shared.later_step configured) later ranOn
  have kept : 0 ≤ after.limiter.level finish := RateLimiter.level_nonneg configured left
  rw [mul_comm, later.capacity, later.unitsPerSec]
  constructor
  · have paid := (Shared.debits configured).total_le later timed
      (Transition.along_of_forall (fun _ _ _ => trivial) shared) ranOn
    linarith
  · intro fits
    have both := Transition.along_append fits ran
    have calm := Transition.run_invariant_along (Shared.Calm (limit.limiter opened))
      (fun _ _ _ => Shared.calm_step configured) (Shared.calm_new (limit.later opened)) both.1 ran
    have paid := (Shared.returns configured).total_le calm timed both.2 ranOn
    linarith

/-- Two tunnels that each send a chunk of the whole burst allowance at once. -/
theorem second_burst_waits :
    let made := (Limit.bandwidth 8).limiter 0
    let window : List Event := [.consume 0 0 (.fromClient 65536), .consume 0 1 (.fromClient 65536)]
    Refill.total Shared.step (fun shared event => (shared.returned event : ℚ)) (Shared.new made) window ≤
      made.capacity + made.unitsPerSec * (0 - 0) := by
  let window : List Event := [.consume 0 0 (.fromClient 65536), .consume 0 1 (.fromClient 65536)]
  have ran : (Transition.run Shared.step (Shared.new ((Limit.bandwidth 8).limiter 0)) window).isSome := by decide +kernel
  obtain ⟨after, ran⟩ := Option.isSome_iff_exists.mp ran
  apply ((limiter_bounds_what_returns (.bandwidth 8) 0 [] _ rfl).2 window after 0 0 ⟨le_rfl, le_rfl, le_rfl⟩ ran).2
  refine ⟨fun _ => by decide +kernel, fun _ first => ?_⟩
  cases first
  exact ⟨fun _ => by decide +kernel, fun _ _ => trivial⟩

/-- A chunk of sixteen times the burst allowance is let through at once. -/
theorem long_chunk_returns_at_once :
    let made := (Limit.bandwidth 8).limiter 0
    let window : List Event := [.consume 0 0 (.fromClient 1048576)]
    Refill.Timed Event.now 0 window 0 ∧ (∃ after, Transition.run Shared.step (Shared.new made) window = some after) ∧
      ¬Refill.total Shared.step (fun shared event => (shared.returned event : ℚ)) (Shared.new made) window ≤
        made.capacity + made.unitsPerSec * (0 - 0) := by
  refine ⟨⟨le_rfl, le_rfl⟩, ⟨_, rfl⟩, ?_⟩
  decide +kernel

/-- One second of rate is let through at once, and the next has to be earned back. -/
example : (((RateLimiter.bandwidth 1000000 0).check 125000 0).2.check 125000 0).1 = some 1 := by decide +kernel

end Skimasque.Gateway.RateLimit
