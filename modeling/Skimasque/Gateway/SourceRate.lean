import Skimasque.Library.Address
import Skimasque.Library.Map
import Skimasque.Library.Refill
import Skimasque.Library.Selection
import Mathlib.Algebra.Order.Ring.Rat

/-! The rate of new connections per source address: one token bucket a source, in a map of bounded size.
Token counts are exact rationals, and a time is a number of seconds. -/

set_option autoImplicit false

namespace Skimasque.Gateway.SourceRate
open Library Library.Address

structure ConnectionRate where
  perSecond : UInt32
  burst : UInt32
  deriving DecidableEq, Repr

structure TokenBucket where
  tokens : ℚ
  capacity : ℚ
  refillPerSec : ℚ
  last : ℚ
  deriving DecidableEq, Repr

/-- `f64::from(rate.burst.max(1))`. -/
def ConnectionRate.capacity (rate : ConnectionRate) : ℚ := max rate.burst.toNat 1

def ConnectionRate.refillPerSec (rate : ConnectionRate) : ℚ := max rate.perSecond.toNat 0

namespace TokenBucket

def new (rate : ConnectionRate) (now : ℚ) : TokenBucket := ⟨rate.capacity, rate.capacity, rate.refillPerSec, now⟩

/-- The seconds since `last`, none if the clock went back. -/
def elapsed (bucket : TokenBucket) (now : ℚ) : ℚ := max (now - bucket.last) 0

/-- Take one token if the bucket has one. -/
def tryTake (bucket : TokenBucket) (now : ℚ) : Bool × TokenBucket :=
  let tokens := min (bucket.tokens + bucket.elapsed now * bucket.refillPerSec) bucket.capacity
  if 1 ≤ tokens then (true, { bucket with tokens := tokens - 1, last := now })
  else (false, { bucket with tokens, last := now })

/-- Would the bucket be back at capacity if checked now? -/
def isFull (bucket : TokenBucket) (now : ℚ) : Bool :=
  bucket.capacity ≤ bucket.tokens + bucket.elapsed now * bucket.refillPerSec

end TokenBucket

abbrev Buckets := AList (fun _ : IpAddr => TokenBucket)

abbrev Entry := Sigma (fun _ : IpAddr => TokenBucket)

structure PerSourceRate where
  rate : ConnectionRate
  buckets : Buckets

/-- The most distinct sources tracked at once. -/
def maxSources : Nat := 4096

/-- One `try_take`: when, for whom, and in which order the hash map is walked if it comes to that. -/
structure Arrival where
  time : ℚ
  source : IpAddr
  walk : List Entry → List Entry
  permutes : ∀ entries, (walk entries).Perm entries

/-- What one `try_take` does: the answer, the source it evicted if any, and the limiter after it. -/
structure Outcome where
  granted : Bool
  evicted : Option IpAddr
  limiter : PerSourceRate

namespace PerSourceRate

def new (rate : ConnectionRate) : PerSourceRate := ⟨rate, ∅⟩

/-- `min_by_key(|bucket| bucket.last)`: the first of the least recently seen. -/
def oldest (entries : List Entry) : Option IpAddr :=
  (Selection.maxBy? (fun best next => decide (next.2.last < best.2.last)) entries).map Sigma.fst

/-- Drop every idle bucket, then, if still full, the least recently seen source, which is returned. -/
def makeRoom (limiter : PerSourceRate) (now : ℚ) (walk : List Entry → List Entry) : PerSourceRate × Option IpAddr :=
  let kept := Map.retain (fun bucket => !bucket.isFull now) limiter.buckets
  if kept.keys.length < maxSources then ({ limiter with buckets := kept }, none)
  else
    match oldest (walk kept.entries) with
    | some source => ({ limiter with buckets := kept.erase source }, some source)
    | none => ({ limiter with buckets := kept }, none)

/-- A new source needs room in a full map. -/
def withRoom (limiter : PerSourceRate) (arrival : Arrival) : PerSourceRate × Option IpAddr :=
  if limiter.buckets.lookup arrival.source = none ∧ maxSources ≤ limiter.buckets.keys.length then
    limiter.makeRoom arrival.time arrival.walk
  else (limiter, none)

/-- Take a token from the source's bucket. -/
def tryTake (limiter : PerSourceRate) (arrival : Arrival) : Outcome :=
  let (limiter, evicted) := limiter.withRoom arrival
  let bucket := (limiter.buckets.lookup arrival.source).getD (TokenBucket.new limiter.rate arrival.time)
  let (granted, bucket) := bucket.tryTake arrival.time
  ⟨granted, evicted, { limiter with buckets := limiter.buckets.insert arrival.source bucket }⟩

def step (limiter : PerSourceRate) (arrival : Arrival) : Option PerSourceRate := some (limiter.tryTake arrival).limiter

/-- The answers to the arrivals, one after the other. -/
def answers : PerSourceRate → List Arrival → List Bool
  | _, [] => []
  | limiter, arrival :: rest => (limiter.tryTake arrival).granted :: answers (limiter.tryTake arrival).limiter rest

end PerSourceRate

/-! ## One bucket for each source, kept for ever -/

/-- Every source's own bucket, from its first arrival on. -/
structure Unbounded where
  rate : ConnectionRate
  buckets : IpAddr → Option TokenBucket

namespace Unbounded

def new (rate : ConnectionRate) : Unbounded := ⟨rate, fun _ => none⟩

def tryTake (limiter : Unbounded) (time : ℚ) (source : IpAddr) : Bool × Unbounded :=
  let bucket := (limiter.buckets source).getD (TokenBucket.new limiter.rate time)
  let (granted, bucket) := bucket.tryTake time
  (granted, { limiter with buckets := Function.update limiter.buckets source (some bucket) })

def answers : Unbounded → List Arrival → List Bool
  | _, [] => []
  | limiter, arrival :: rest =>
    let (granted, limiter) := limiter.tryTake arrival.time arrival.source
    granted :: answers limiter rest

end Unbounded

/-! ## Levels -/

theorem ConnectionRate.capacity_nonneg (rate : ConnectionRate) : 0 ≤ rate.capacity :=
  le_trans zero_le_one (le_max_right _ _)

theorem ConnectionRate.refillPerSec_nonneg (rate : ConnectionRate) : 0 ≤ rate.refillPerSec := le_max_right _ _

theorem ConnectionRate.capacity_eq (rate : ConnectionRate) : rate.capacity = (max rate.burst.toNat 1 : Nat) := by
  rw [capacity, Nat.cast_max, Nat.cast_one]

theorem ConnectionRate.refillPerSec_eq (rate : ConnectionRate) : rate.refillPerSec = rate.perSecond.toNat :=
  max_eq_left (Nat.cast_nonneg _)

/-- The tokens of a bucket if it were refilled at `now`. -/
def TokenBucket.level (bucket : TokenBucket) (now : ℚ) : ℚ :=
  Refill.level bucket.capacity bucket.refillPerSec bucket.tokens bucket.last now

/-- The bucket is one for this rate. -/
structure TokenBucket.MadeFor (rate : ConnectionRate) (bucket : TokenBucket) : Prop where
  capacity : bucket.capacity = rate.capacity
  refillPerSec : bucket.refillPerSec = rate.refillPerSec
  filled : 0 ≤ bucket.tokens

namespace TokenBucket

theorem level_new (rate : ConnectionRate) (now : ℚ) : (new rate now).level now = rate.capacity :=
  Refill.level_self le_rfl

theorem madeFor_new (rate : ConnectionRate) (now : ℚ) : (new rate now).MadeFor rate :=
  ⟨rfl, rfl, rate.capacity_nonneg⟩

theorem MadeFor.level_nonneg {rate : ConnectionRate} {bucket : TokenBucket} (made : bucket.MadeFor rate) (now : ℚ) :
    0 ≤ bucket.level now := by
  unfold level
  rw [made.capacity, made.refillPerSec]
  exact Refill.level_nonneg rate.refillPerSec_nonneg made.filled rate.capacity_nonneg

theorem madeFor_tryTake {rate : ConnectionRate} {bucket : TokenBucket} (made : bucket.MadeFor rate) (now : ℚ) :
    (bucket.tryTake now).2.MadeFor rate := by
  have filled := made.level_nonneg now
  unfold tryTake
  dsimp only
  split
  · rename_i enough
    exact ⟨made.capacity, made.refillPerSec, by linarith⟩
  · exact ⟨made.capacity, made.refillPerSec, filled⟩

theorem tryTake_granted (bucket : TokenBucket) (now : ℚ) : (bucket.tryTake now).1 = decide (1 ≤ bucket.level now) := by
  unfold tryTake
  by_cases filled : 1 ≤ bucket.level now
  · rw [decide_eq_true filled]
    exact congrArg Prod.fst (if_pos filled)
  · rw [decide_eq_false filled]
    exact congrArg Prod.fst (if_neg filled)

/-- The level that a level leaves at a later time, once a token was taken if there was one. -/
def spend (rate : ConnectionRate) (held now later : ℚ) : ℚ :=
  Refill.level rate.capacity rate.refillPerSec (if 1 ≤ held then held - 1 else held) now later

theorem level_tryTake {rate : ConnectionRate} {bucket : TokenBucket} (made : bucket.MadeFor rate) (now later : ℚ) :
    (bucket.tryTake now).2.level later = spend rate (bucket.level now) now later := by
  unfold spend
  rw [← made.capacity, ← made.refillPerSec]
  unfold tryTake
  by_cases filled : 1 ≤ bucket.level now
  · rw [if_pos filled]
    exact congrArg (fun taken : Bool × TokenBucket => taken.2.level later) (if_pos filled)
  · rw [if_neg filled]
    exact congrArg (fun taken : Bool × TokenBucket => taken.2.level later) (if_neg filled)

end TokenBucket

/-- The bucket of every source that has one. -/
abbrev Find := IpAddr → Option TokenBucket

/-- The tokens of a source at `now`; a source without a bucket has a full one. -/
def levelOf (rate : ConnectionRate) (find : Find) (source : IpAddr) (now : ℚ) : ℚ :=
  match find source with
  | some bucket => bucket.level now
  | none => rate.capacity

def MadeFor (rate : ConnectionRate) (find : Find) : Prop :=
  ∀ source bucket, find source = some bucket → bucket.MadeFor rate

/-- One take from a source's bucket, or from a new one. -/
def take (rate : ConnectionRate) (find : Find) (source : IpAddr) (now : ℚ) : Bool × Find :=
  let taken := ((find source).getD (TokenBucket.new rate now)).tryTake now
  (taken.1, Function.update find source (some taken.2))

section take

variable {rate : ConnectionRate} {find : Find} {source other : IpAddr} {now later : ℚ}

theorem level_getD : ((find source).getD (TokenBucket.new rate now)).level now = levelOf rate find source now := by
  unfold levelOf
  cases find source with
  | none => exact TokenBucket.level_new rate now
  | some bucket => rfl

theorem madeFor_getD (made : MadeFor rate find) : ((find source).getD (TokenBucket.new rate now)).MadeFor rate := by
  cases found : find source with
  | none => exact TokenBucket.madeFor_new rate now
  | some bucket => exact made source bucket found

theorem take_granted : (take rate find source now).1 = decide (1 ≤ levelOf rate find source now) := by
  rw [← level_getD]
  exact TokenBucket.tryTake_granted _ now

theorem madeFor_take (made : MadeFor rate find) : MadeFor rate (take rate find source now).2 := by
  intro holder bucket found
  by_cases same : holder = source
  · subst same
    simp only [take, Function.update_self, Option.some.injEq] at found
    rw [← found]
    exact TokenBucket.madeFor_tryTake (madeFor_getD made) now
  · simp only [take, Function.update_of_ne same] at found
    exact made holder bucket found

theorem levelOf_take_self (made : MadeFor rate find) :
    levelOf rate (take rate find source now).2 source later =
      TokenBucket.spend rate (levelOf rate find source now) now later := by
  have held : ((find source).getD (TokenBucket.new rate now)).level now = levelOf rate find source now := level_getD
  rw [← held, ← TokenBucket.level_tryTake (madeFor_getD made)]
  simp only [levelOf, take, Function.update_self]

theorem levelOf_take_of_ne (different : other ≠ source) :
    levelOf rate (take rate find source now).2 other later = levelOf rate find other later := by
  simp only [levelOf, take, Function.update_of_ne different]

theorem levelOf_le_capacity (made : MadeFor rate find) : levelOf rate find source now ≤ rate.capacity := by
  unfold levelOf
  split
  · rename_i bucket found
    rw [← (made source bucket found).capacity]
    exact Refill.level_le_capacity
  · exact le_rfl

theorem levelOf_nonneg (made : MadeFor rate find) : 0 ≤ levelOf rate find source now := by
  unfold levelOf
  split
  · rename_i bucket found
    exact (made source bucket found).level_nonneg now
  · exact rate.capacity_nonneg

theorem levelOf_growth (made : MadeFor rate find) (onward : now ≤ later) :
    levelOf rate find source later ≤ levelOf rate find source now + (later - now) * rate.refillPerSec := by
  have growing := rate.refillPerSec_nonneg
  unfold levelOf
  split
  · rename_i bucket found
    have same := (made source bucket found).refillPerSec
    rw [← same] at growing ⊢
    exact Refill.level_growth growing onward
  · have waited : 0 ≤ (later - now) * rate.refillPerSec := mul_nonneg (by linarith) growing
    linarith

end take

/-! ## The bounded map -/

namespace PerSourceRate

variable {limiter : PerSourceRate} {arrival : Arrival} {source : IpAddr} {now later : ℚ}

def find (limiter : PerSourceRate) : Find := fun source => limiter.buckets.lookup source

def level (limiter : PerSourceRate) (source : IpAddr) (now : ℚ) : ℚ := levelOf limiter.rate limiter.find source now

/-- What the map holds: buckets for this rate, and not too many. -/
structure Sound (limiter : PerSourceRate) : Prop where
  madeFor : MadeFor limiter.rate limiter.find
  bounded : limiter.buckets.keys.length ≤ maxSources

theorem oldest_mem {entries : List Entry} (found : oldest entries = some source) : source ∈ entries.map Sigma.fst := by
  obtain ⟨entry, chosen, same⟩ := Option.map_eq_some_iff.mp found
  rw [← same]
  exact List.mem_map_of_mem (Selection.maxBy?_mem chosen)

theorem oldest_eq_none {entries : List Entry} (absent : oldest entries = none) : entries = [] := by
  cases entries with
  | nil => rfl
  | cons first rest => cases absent

/-- Dropping a full bucket changes no level from then on. -/
theorem level_retain (made : MadeFor limiter.rate limiter.find) (onward : now ≤ later) :
    level { limiter with buckets := Map.retain (fun bucket => !bucket.isFull now) limiter.buckets } source later =
      limiter.level source later := by
  unfold level levelOf find
  dsimp only
  rw [Map.lookup_retain]
  cases found : limiter.buckets.lookup source with
  | none => rfl
  | some bucket =>
    cases full : bucket.isFull now with
    | false => simp [Option.filter, full]
    | true =>
      have bounds := made source bucket found
      have growing := limiter.rate.refillPerSec_nonneg
      rw [← bounds.refillPerSec] at growing
      have stays : bucket.level later = bucket.capacity :=
        Refill.level_full growing (of_decide_eq_true full) onward
      simp [Option.filter, full, stays, bounds.capacity]

/-- What making room does to a full map. -/
structure MadeRoom (limiter : PerSourceRate) (now : ℚ) (made : PerSourceRate × Option IpAddr) : Prop where
  rate : made.1.rate = limiter.rate
  madeFor : MadeFor limiter.rate made.1.find
  room : made.1.buckets.keys.length < maxSources
  held : ∀ source, made.2 = some source → limiter.find source ≠ none
  absent : ∀ source, limiter.find source = none → made.1.find source = none
  level : ∀ source, made.2 ≠ some source → ∀ later, now ≤ later → made.1.level source later = limiter.level source later

/-- A limiter with some of the buckets, none of which is missed from `now` on. -/
structure Swept (limiter : PerSourceRate) (now : ℚ) (swept : PerSourceRate) : Prop where
  rate : swept.rate = limiter.rate
  within : ∀ source bucket, swept.find source = some bucket → limiter.find source = some bucket
  bounded : swept.buckets.keys.length ≤ maxSources
  level : ∀ source later, now ≤ later → swept.level source later = limiter.level source later

theorem swept_retain (sound : limiter.Sound) (now : ℚ) :
    Swept limiter now { limiter with buckets := Map.retain (fun bucket => !bucket.isFull now) limiter.buckets } := by
  constructor
  case rate => rfl
  case within =>
    intro source bucket found
    unfold find at found
    rw [Map.lookup_retain, Option.filter_eq_some_iff] at found
    exact found.1
  case bounded => exact (Map.keys_retain_length _ _).trans sound.bounded
  case level =>
    intro source later onward
    exact level_retain sound.madeFor onward

section swept

variable {swept : PerSourceRate} {victim : IpAddr}

theorem Swept.madeFor (kept : Swept limiter now swept) (sound : limiter.Sound) : MadeFor limiter.rate swept.find := by
  intro source bucket found
  exact sound.madeFor source bucket (kept.within source bucket found)

theorem Swept.absent (kept : Swept limiter now swept) (missing : limiter.find source = none) :
    swept.find source = none := by
  rw [Option.eq_none_iff_forall_ne_some]
  intro bucket found
  rw [kept.within source bucket found] at missing
  cases missing

theorem find_erase : find { swept with buckets := swept.buckets.erase victim } source =
    if source = victim then none else swept.find source := by
  unfold find
  by_cases same : source = victim
  · rw [if_pos same, same, AList.lookup_erase]
  · rw [if_neg same, AList.lookup_erase_ne same]

theorem Swept.room (kept : Swept limiter now swept) (sound : limiter.Sound)
    (short : swept.buckets.keys.length < maxSources) : MadeRoom limiter now (swept, none) := by
  constructor
  case rate => exact kept.rate
  case madeFor => exact kept.madeFor sound
  case room => exact short
  case held =>
    intro source evicted
    cases evicted
  case absent =>
    intro source missing
    exact kept.absent missing
  case level =>
    intro source _
    exact kept.level source

theorem Swept.evict (kept : Swept limiter now swept) (sound : limiter.Sound) (member : victim ∈ swept.buckets) :
    MadeRoom limiter now ({ swept with buckets := swept.buckets.erase victim }, some victim) := by
  constructor
  case rate => exact kept.rate
  case madeFor =>
    intro source bucket found
    rw [find_erase] at found
    split at found
    · cases found
    · exact kept.madeFor sound source bucket found
  case room =>
    have filled := List.length_pos_of_mem (AList.mem_keys.mp member)
    have bounded := kept.bounded
    dsimp only
    rw [AList.keys_erase, List.length_erase_of_mem (AList.mem_keys.mp member)]
    omega
  case held =>
    intro source evicted
    cases evicted
    obtain ⟨bucket, inside⟩ := Option.isSome_iff_exists.mp (AList.lookup_isSome.mpr member)
    rw [kept.within victim bucket inside]
    exact Option.some_ne_none bucket
  case absent =>
    intro source missing
    rw [find_erase, kept.absent missing, ite_self]
  case level =>
    intro source different later onward
    have other : source ≠ victim := fun same => different (congrArg some same.symm)
    have found : find { swept with buckets := swept.buckets.erase victim } source = swept.find source := by
      rw [find_erase, if_neg other]
    rw [← kept.level source later onward]
    unfold PerSourceRate.level levelOf
    rw [found]

end swept

/-- A walk of a map that is not empty finds the oldest source in it. -/
theorem oldest_mem_of_pos {buckets : Buckets} {walk : List Entry → List Entry}
    (permutes : ∀ entries, (walk entries).Perm entries) (filled : 0 < buckets.keys.length) :
    ∃ victim, oldest (walk buckets.entries) = some victim ∧ victim ∈ buckets := by
  cases chosen : oldest (walk buckets.entries) with
  | some victim => exact ⟨victim, rfl, ((permutes buckets.entries).map Sigma.fst).mem_iff.mp (oldest_mem chosen)⟩
  | none =>
    have empty := (permutes buckets.entries).length_eq
    rw [oldest_eq_none chosen, List.length_nil] at empty
    rw [AList.keys, List.keys, List.length_map, ← empty] at filled
    exact absurd filled (Nat.lt_irrefl 0)

theorem makeRoom_spec (sound : limiter.Sound) (walk : List Entry → List Entry)
    (permutes : ∀ entries, (walk entries).Perm entries) (now : ℚ) :
    MadeRoom limiter now (limiter.makeRoom now walk) := by
  have kept := swept_retain sound now
  unfold makeRoom
  generalize Map.retain (fun bucket => !bucket.isFull now) limiter.buckets = remaining at kept ⊢
  dsimp only
  split
  · rename_i short
    exact kept.room sound short
  · rename_i full
    have filled : 0 < remaining.keys.length := Nat.lt_of_lt_of_le (Nat.zero_lt_succ _) (not_lt.mp full)
    obtain ⟨victim, chosen, member⟩ := oldest_mem_of_pos permutes filled
    rw [chosen]
    exact kept.evict sound member

/-- The limiter with room for the source of the arrival. -/
structure Ready (limiter : PerSourceRate) (arrival : Arrival) (ready : PerSourceRate × Option IpAddr) : Prop where
  rate : ready.1.rate = limiter.rate
  madeFor : MadeFor limiter.rate ready.1.find
  bounded : ready.1.buckets.keys.length ≤ maxSources
  room : ready.1.buckets.keys.length < maxSources ∨ arrival.source ∈ ready.1.buckets
  keeps : ready.2 ≠ some arrival.source
  level : ∀ source, ready.2 ≠ some source → ∀ later, arrival.time ≤ later →
    ready.1.level source later = limiter.level source later

theorem withRoom_spec (sound : limiter.Sound) (arrival : Arrival) : Ready limiter arrival (limiter.withRoom arrival) := by
  unfold withRoom
  split
  · rename_i full
    have made := makeRoom_spec sound arrival.walk arrival.permutes arrival.time
    exact ⟨made.rate, made.madeFor, made.room.le, Or.inl made.room,
      fun evicted => made.held arrival.source evicted full.1, made.level⟩
  · rename_i notFull
    have room : limiter.buckets.keys.length < maxSources ∨ arrival.source ∈ limiter.buckets := by
      by_cases short : limiter.buckets.keys.length < maxSources
      · exact Or.inl short
      · have present : limiter.buckets.lookup arrival.source ≠ none := fun absent => notFull ⟨absent, not_lt.mp short⟩
        exact Or.inr (AList.lookup_isSome.mp (Option.isSome_iff_ne_none.mpr present))
    exact ⟨rfl, sound.madeFor, sound.bounded, room, nofun, fun _ _ _ _ => rfl⟩

/-- What one `tryTake` does. -/
structure Took (limiter : PerSourceRate) (arrival : Arrival) (outcome : Outcome) : Prop where
  rate : outcome.limiter.rate = limiter.rate
  sound : outcome.limiter.Sound
  granted : outcome.granted = decide (1 ≤ limiter.level arrival.source arrival.time)
  own : ∀ later, outcome.limiter.level arrival.source later =
    TokenBucket.spend limiter.rate (limiter.level arrival.source arrival.time) arrival.time later
  others : ∀ source, source ≠ arrival.source → outcome.evicted ≠ some source → ∀ later, arrival.time ≤ later →
    outcome.limiter.level source later = limiter.level source later

theorem find_insert {buckets : Buckets} {bucket : TokenBucket} {rate : ConnectionRate} :
    find ⟨rate, buckets.insert source bucket⟩ = Function.update (find ⟨rate, buckets⟩) source (some bucket) := by
  funext other
  by_cases same : other = source
  · rw [same, Function.update_self]
    exact AList.lookup_insert buckets
  · rw [Function.update_of_ne same]
    exact AList.lookup_insert_ne same

theorem tryTake_eq_take (limiter : PerSourceRate) (arrival : Arrival) :
    let ready := limiter.withRoom arrival
    let taken := take ready.1.rate ready.1.find arrival.source arrival.time
    (limiter.tryTake arrival).granted = taken.1 ∧ (limiter.tryTake arrival).limiter.find = taken.2 := by
  unfold tryTake take
  generalize limiter.withRoom arrival = ready
  dsimp only [find]
  generalize ((ready.1.buckets.lookup arrival.source).getD (TokenBucket.new ready.1.rate arrival.time)).tryTake
    arrival.time = taken
  exact ⟨rfl, find_insert⟩

theorem tryTake_spec (sound : limiter.Sound) (arrival : Arrival) : Took limiter arrival (limiter.tryTake arrival) := by
  have ready := withRoom_spec sound arrival
  have taken := tryTake_eq_take limiter arrival
  dsimp only at taken
  have rate : (limiter.tryTake arrival).limiter.rate = limiter.rate := ready.rate
  have held := ready.level arrival.source ready.keeps arrival.time le_rfl
  unfold level at held
  rw [ready.rate] at held taken
  constructor
  case rate => exact rate
  case sound =>
    constructor
    · rw [rate, taken.2]
      exact madeFor_take ready.madeFor
    · exact Map.keys_insert_length ready.room ready.bounded
  case granted =>
    rw [taken.1, take_granted, held]
    rfl
  case own =>
    intro later
    unfold level
    rw [rate, taken.2, levelOf_take_self ready.madeFor, held]
  case others =>
    intro source different stays later onward
    have same := ready.level source stays later onward
    unfold level at same ⊢
    rw [rate, taken.2, levelOf_take_of_ne different, ← same, ready.rate]

theorem sound_new (rate : ConnectionRate) : (new rate).Sound := by
  constructor
  · intro source bucket found
    cases found
  · exact Nat.zero_le _

/-- The map is sound, for this rate. -/
def SoundFor (rate : ConnectionRate) (limiter : PerSourceRate) : Prop := limiter.rate = rate ∧ limiter.Sound

theorem soundFor_step {rate : ConnectionRate} (limiter : PerSourceRate) (arrival : Arrival) (limiter' : PerSourceRate)
    (holds : limiter.SoundFor rate) (stepped : limiter.step arrival = some limiter') : limiter'.SoundFor rate := by
  cases stepped
  have took := tryTake_spec holds.2 arrival
  exact ⟨took.rate.trans holds.1, took.sound⟩

theorem soundFor_run {rate : ConnectionRate} {limiter : PerSourceRate} {arrivals : List Arrival}
    (ran : Transition.run step (new rate) arrivals = some limiter) : limiter.SoundFor rate :=
  Transition.run_invariant (SoundFor rate) soundFor_step ⟨rfl, sound_new rate⟩ ran

end PerSourceRate

/-! ## Against the unbounded limiter -/

namespace Unbounded

def level (limiter : Unbounded) (source : IpAddr) (now : ℚ) : ℚ := levelOf limiter.rate limiter.buckets source now

theorem tryTake_eq_take (limiter : Unbounded) (time : ℚ) (source : IpAddr) :
    limiter.tryTake time source = ((take limiter.rate limiter.buckets source time).1,
      { limiter with buckets := (take limiter.rate limiter.buckets source time).2 }) := by
  unfold tryTake take
  dsimp only

end Unbounded

/-- Both limiters hold the same tokens from `now` on. -/
structure Simulates (limiter : PerSourceRate) (unbounded : Unbounded) (now : ℚ) : Prop where
  sound : limiter.Sound
  rate : unbounded.rate = limiter.rate
  madeFor : MadeFor unbounded.rate unbounded.buckets
  level : ∀ source later, now ≤ later → limiter.level source later = unbounded.level source later

def NoneEvicted (limiter : PerSourceRate) (arrival : Arrival) : Prop := (limiter.tryTake arrival).evicted = none

section simulation

variable {limiter : PerSourceRate} {unbounded : Unbounded} {arrival : Arrival} {now : ℚ}

/-- While nothing is evicted an arrival gets the same answer from both, and they stay alike. -/
theorem Simulates.step (alike : Simulates limiter unbounded now) (onward : now ≤ arrival.time)
    (kept : NoneEvicted limiter arrival) :
    (limiter.tryTake arrival).granted = (unbounded.tryTake arrival.time arrival.source).1 ∧
      Simulates (limiter.tryTake arrival).limiter (unbounded.tryTake arrival.time arrival.source).2 arrival.time := by
  have took := PerSourceRate.tryTake_spec alike.sound arrival
  have same := alike.level arrival.source arrival.time onward
  rw [Unbounded.tryTake_eq_take]
  constructor
  · rw [took.granted, take_granted, same]
    rfl
  · constructor
    case sound => exact took.sound
    case rate => exact alike.rate.trans took.rate.symm
    case madeFor => exact madeFor_take alike.madeFor
    case level =>
      intro source later after
      by_cases own : source = arrival.source
      · rw [own, took.own, same, ← alike.rate]
        exact (levelOf_take_self alike.madeFor).symm
      · have stays : (limiter.tryTake arrival).evicted ≠ some source := by
          rw [kept]
          nofun
        rw [took.others source own stays later after, alike.level source later (onward.trans after)]
        exact (levelOf_take_of_ne own).symm

theorem Simulates.answers {arrivals : List Arrival} {finish : ℚ} (alike : Simulates limiter unbounded now)
    (timed : Refill.Timed Arrival.time now arrivals finish)
    (kept : Transition.Along PerSourceRate.step NoneEvicted limiter arrivals) :
    limiter.answers arrivals = unbounded.answers arrivals := by
  induction arrivals generalizing limiter unbounded now with
  | nil => rfl
  | cons arrival rest ih =>
    have stepped := alike.step timed.1 kept.1
    have later := ih stepped.2 timed.2 (kept.2 _ rfl)
    rw [PerSourceRate.answers, Unbounded.answers, stepped.1, later]

theorem simulates_new (rate : ConnectionRate) (now : ℚ) : Simulates (PerSourceRate.new rate) (Unbounded.new rate) now := by
  constructor
  case sound => exact PerSourceRate.sound_new rate
  case rate => rfl
  case madeFor =>
    intro source bucket found
    cases found
  case level =>
    intro source later _
    rfl

end simulation

/-! ## What a window of time lets through -/

/-- The source keeps its bucket at this arrival. -/
def Keeps (source : IpAddr) (limiter : PerSourceRate) (arrival : Arrival) : Prop :=
  (limiter.tryTake arrival).evicted ≠ some source

/-- The connections of a source that are granted. -/
def PerSourceRate.grants (source : IpAddr) : PerSourceRate → List Arrival → Nat
  | _, [] => 0
  | limiter, arrival :: rest =>
    (if arrival.source = source ∧ (limiter.tryTake arrival).granted then 1 else 0) +
      grants source (limiter.tryTake arrival).limiter rest

namespace PerSourceRate

/-- What an arrival takes from the bucket of a source. -/
def spent (source : IpAddr) (limiter : PerSourceRate) (arrival : Arrival) : ℚ :=
  if arrival.source = source ∧ (limiter.tryTake arrival).granted then 1 else 0

variable {limiter : PerSourceRate} {arrival : Arrival} {source : IpAddr}

theorem grants_eq_total (arrivals : List Arrival) :
    (limiter.grants source arrivals : ℚ) = Refill.total step (spent source) limiter arrivals := by
  induction arrivals generalizing limiter with
  | nil => rfl
  | cons arrival rest ih =>
    rw [grants, Refill.total, Nat.cast_add, ih]
    dsimp only [step]
    rw [spent, Nat.cast_ite, Nat.cast_one, Nat.cast_zero]

/-- A grant is paid for by the source's own level. -/
theorem spent_le (sound : limiter.Sound) (keeps : Keeps source limiter arrival) :
    spent source limiter arrival + (limiter.tryTake arrival).limiter.level source arrival.time ≤
      limiter.level source arrival.time := by
  have took := tryTake_spec sound arrival
  by_cases own : arrival.source = source
  · subst own
    rw [spent, took.own, took.granted, TokenBucket.spend]
    by_cases filled : 1 ≤ limiter.level arrival.source arrival.time
    · simp only [filled, decide_true, and_self, if_true]
      have left : Refill.level limiter.rate.capacity limiter.rate.refillPerSec
        (limiter.level arrival.source arrival.time - 1) arrival.time arrival.time ≤
        limiter.level arrival.source arrival.time - 1 := Refill.level_self_le
      linarith
    · simp only [filled, decide_false, Bool.false_eq_true, and_false, if_false, zero_add]
      exact Refill.level_self_le
  · rw [spent, if_neg fun granted => own granted.1, zero_add]
    exact (took.others source (fun same => own same.symm) keeps arrival.time le_rfl).le

theorem accounts (rate : ConnectionRate) (source : IpAddr) :
    Refill.Accounts step Arrival.time (SoundFor rate) (Keeps source) (spent source)
      (fun limiter => limiter.level source) rate.refillPerSec := by
  constructor
  case keeps =>
    intro limiter arrival limiter' holds _
    exact soundFor_step limiter arrival limiter' holds
  case growth =>
    intro limiter now later holds onward
    rw [← holds.1]
    exact levelOf_growth holds.2.madeFor onward
  case pays =>
    intro limiter arrival limiter' holds keeps stepped
    cases stepped
    exact spent_le holds.2 keeps

theorem run_step (limiter : PerSourceRate) (arrivals : List Arrival) :
    ∃ limiter', Transition.run step limiter arrivals = some limiter' := by
  induction arrivals generalizing limiter with
  | nil => exact ⟨limiter, rfl⟩
  | cons arrival rest ih => exact ih (limiter.tryTake arrival).limiter

/-- A source that keeps its bucket is granted its capacity and what is refilled in the window. -/
theorem grants_le {rate : ConnectionRate} {window : List Arrival} {start finish : ℚ} (holds : limiter.SoundFor rate)
    (timed : Refill.Timed Arrival.time start window finish)
    (keeps : Transition.Along step (Keeps source) limiter window) :
    (limiter.grants source window : ℚ) ≤ rate.capacity + (finish - start) * rate.refillPerSec := by
  obtain ⟨limiter', ran⟩ := run_step limiter window
  have paid := (accounts rate source).total_le holds timed keeps ran
  have after := Transition.run_invariant (SoundFor rate) soundFor_step holds ran
  have left : 0 ≤ limiter'.level source finish := levelOf_nonneg after.2.madeFor
  have first : limiter.level source start ≤ limiter.rate.capacity := levelOf_le_capacity holds.2.madeFor
  rw [holds.1] at first
  rw [grants_eq_total]
  linarith

end PerSourceRate

/-- The map stays bounded; while nothing is evicted each answer is the one of the source's own bucket; a source
that keeps its bucket through a window is granted at most its burst, at least one, and the refill. -/
theorem each_source_has_its_rate (rate : ConnectionRate) (arrivals : List Arrival) (limiter : PerSourceRate)
    (ran : Transition.run PerSourceRate.step (PerSourceRate.new rate) arrivals = some limiter) :
    limiter.buckets.keys.length ≤ maxSources ∧
      (∀ start finish, Refill.Timed Arrival.time start arrivals finish →
        Transition.Along PerSourceRate.step NoneEvicted (PerSourceRate.new rate) arrivals →
        (PerSourceRate.new rate).answers arrivals = (Unbounded.new rate).answers arrivals) ∧
      ∀ source window start finish, Refill.Timed Arrival.time start window finish →
        Transition.Along PerSourceRate.step (Keeps source) limiter window →
        (limiter.grants source window : ℚ) ≤ (max rate.burst.toNat 1 : Nat) + rate.perSecond.toNat * (finish - start) := by
  have holds := PerSourceRate.soundFor_run ran
  refine ⟨holds.2.bounded, ?_, ?_⟩
  · intro start finish timed kept
    exact (simulates_new rate start).answers timed kept
  · intro source window start finish timed keeps
    have granted := PerSourceRate.grants_le holds timed keeps
    rw [mul_comm, rate.refillPerSec_eq, rate.capacity_eq] at granted
    exact granted

def arrivalAtOnce (source : IpAddr) : Arrival := ⟨0, source, id, fun _ => List.Perm.refl _⟩

/-- A source that may make two connections at once makes three. -/
theorem three_at_once_are_answered_alike :
    let three := List.replicate 3 (arrivalAtOnce (.v4 0))
    (PerSourceRate.new ⟨1, 2⟩).answers three = (Unbounded.new ⟨1, 2⟩).answers three :=
  (each_source_has_its_rate ⟨1, 2⟩ (List.replicate 3 (arrivalAtOnce (.v4 0))) _ rfl).2.1 0 0
    ⟨le_rfl, le_rfl, le_rfl, le_rfl⟩
    ⟨rfl, fun _ first => by
      cases first
      exact ⟨rfl, fun _ second => by
        cases second
        exact ⟨rfl, fun _ _ => trivial⟩⟩⟩

/-- A burst of zero lets one connection through. -/
theorem zero_burst_grants_one :
    let rate : ConnectionRate := ⟨0, 0⟩
    let window := [arrivalAtOnce (.v4 0)]
    Refill.Timed Arrival.time 0 window 0 ∧
      Transition.Along PerSourceRate.step (Keeps (.v4 0)) (PerSourceRate.new rate) window ∧
      ¬((PerSourceRate.new rate).grants (.v4 0) window : ℚ) ≤ rate.burst.toNat + rate.perSecond.toNat * (0 - 0) := by
  refine ⟨⟨le_rfl, le_rfl⟩, ⟨nofun, fun _ _ => trivial⟩, ?_⟩
  decide +kernel

end Skimasque.Gateway.SourceRate
