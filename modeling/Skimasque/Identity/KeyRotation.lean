import Skimasque.Library.Transition

/-! Verifying a token with an issuer's published keys, which are cached and may have been rotated.

Calls run side by side over one cache. What the issuer publishes changes with time, and a fetch answers with what it published
at some moment while the fetch was under way.
-/

set_option autoImplicit false

namespace Skimasque.Identity
open Library Library.Transition

inductive Error where
  | malformed (reason : String)
  | unsupportedAlgorithm (name : String)
  | unknownKey
  | verification (reason : String)
  | discovery (reason : String)
  | jwks (reason : String)
  deriving DecidableEq, Repr

/-- What `fetch` fails with. -/
inductive FetchError where
  | discovery (reason : String)
  | jwks (reason : String)
  deriving DecidableEq, Repr

def FetchError.toError : FetchError → Error
  | .discovery reason => .discovery reason
  | .jwks reason => .jwks reason

structure Header where
  alg : String
  kid : Option String
  deriving DecidableEq, Repr

structure Validation where
  issuer : String
  leeway : Nat
  /-- `None` where the audience is not validated. -/
  audience : Option (List String)
  deriving DecidableEq, Repr

/-- What is taken of the `jsonwebtoken` crate: key sets, keys of a set, keys to decode with, and claims. -/
structure Jsonwebtoken (JwkSet Jwk DecodingKey Claims : Type) where
  decodeHeader : String → Except String Header
  find : JwkSet → String → Option Jwk
  fromJwk : Jwk → Except String DecodingKey
  decode : String → DecodingKey → Validation → Except String Claims

structure Verifier where
  issuer : String
  audiences : List String
  leewaySecs : Nat := 60
  deriving DecidableEq, Repr

def Verifier.withAudience (verifier : Verifier) (audience : String) : Verifier := { verifier with audiences := [audience] }

variable {JwkSet Jwk DecodingKey Claims : Type}

def Verifier.verify (jwt : Jsonwebtoken JwkSet Jwk DecodingKey Claims) (verifier : Verifier) (token : String)
    (keys : JwkSet) : Except Error Claims := do
  let header ← (jwt.decodeHeader token).mapError .malformed
  if header.alg ≠ "RS256" then throw (.unsupportedAlgorithm header.alg)
  let kid ← header.kid.elim (.error (.malformed "the token header carries no key id")) .ok
  let jwk ← (jwt.find keys kid).elim (.error .unknownKey) .ok
  let key ← (jwt.fromJwk jwk).mapError fun reason => .verification ("unusable signing key: " ++ reason)
  let audience := if verifier.audiences = [] then none else some verifier.audiences
  (jwt.decode token key ⟨verifier.issuer, verifier.leewaySecs, audience⟩).mapError .verification

/-- `verify` answers `UnknownKey` for one reason: the token is for RS256 and names a key that is not in the set. -/
theorem Verifier.verify_unknownKey (jwt : Jsonwebtoken JwkSet Jwk DecodingKey Claims) (verifier : Verifier) (token : String)
    (keys : JwkSet) : verifier.verify jwt token keys = .error .unknownKey ↔
      ∃ kid, jwt.decodeHeader token = .ok ⟨"RS256", some kid⟩ ∧ jwt.find keys kid = none := by
  unfold Verifier.verify
  cases decoded : jwt.decodeHeader token with
  | error reason => simp [Except.mapError, bind, Except.bind]
  | ok header =>
    obtain ⟨alg, kid⟩ := header
    by_cases rs256 : alg = "RS256"
    · subst rs256
      cases kid with
      | none => simp [Except.mapError, bind, Except.bind]
      | some kid =>
        cases found : jwt.find keys kid with
        | none => simp [Except.mapError, bind, Except.bind, found]
        | some jwk =>
          cases usable : jwt.fromJwk jwk with
          | error reason => simp [Except.mapError, bind, Except.bind, found, usable]
          | ok key =>
            cases claims : jwt.decode token key ⟨verifier.issuer, verifier.leewaySecs,
                if verifier.audiences = [] then none else some verifier.audiences⟩ with
            | error reason => simp [Except.mapError, bind, Except.bind, found, usable, claims]
            | ok claims => simp [Except.mapError, bind, Except.bind, found, usable, claims]
    · simp [Except.mapError, bind, Except.bind, rs256, throw, throwThe, MonadExceptOf.throw]

/-! ## Calls over one cache -/

/-- A fetch that has answered: when it began, when the issuer had published what it answers with, and when it was done. -/
structure Fetched where
  began : Nat
  published : Nat
  done : Nat
  deriving DecidableEq, Repr

inductive Phase (Claims : Type) where
  /-- Before the cache is read. -/
  | reading
  /-- In `refresh`, for the second time if the key was unknown. -/
  | fetching (again : Bool) (began : Nat)
  /-- The keys are there and wait for the lock to be stored. -/
  | storing (again : Bool) (fetched : Fetched)
  | answered (result : Except Error Claims)

structure Call (Claims : Type) where
  verifier : Verifier
  token : String
  began : Nat
  phase : Phase Claims
  fetches : Nat := 0

structure State (Claims : Type) where
  now : Nat := 0
  cached : Option Fetched := none
  calls : List (Call Claims) := []

inductive Event where
  | tick
  | begin (verifier : Verifier) (token : String)
  | read (call : Nat)
  | fetched (call published : Nat)
  | fails (call : Nat) (error : FetchError)
  | stored (call : Nat)
  deriving DecidableEq, Repr

section
variable (jwt : Jsonwebtoken JwkSet Jwk DecodingKey Claims) (published : Nat → JwkSet) (ttl : Nat)

/-- `verify_claims` with the keys it has, and `verify_claims_for_audience`, which differs by its verifier. -/
def look (now : Nat) (call : Call Claims) (again : Bool) (keys : JwkSet) : Call Claims :=
  match call.verifier.verify jwt call.token keys with
  | .error .unknownKey =>
    if again then { call with phase := .answered (.error .unknownKey) }
    else { call with phase := .fetching true now, fetches := call.fetches + 1 }
  | other => { call with phase := .answered other }

/-- `JwksCache::keys` as far as the cache goes. -/
def fresh (now : Nat) (cached : Option Fetched) : Option Fetched := cached.filter fun entry => now - entry.done < ttl

def stepCall (state : State Claims) (call : Call Claims) : Event → Option (Call Claims × Option Fetched)
  | .read _ =>
    match call.phase with
    | .reading =>
      match fresh ttl state.now state.cached with
      | some entry => some (look jwt state.now call false (published entry.published), state.cached)
      | none => some ({ call with phase := .fetching false state.now, fetches := call.fetches + 1 }, state.cached)
    | _ => none
  | .fetched _ at_ =>
    match call.phase with
    | .fetching again began =>
      if began ≤ at_ ∧ at_ ≤ state.now then
        some ({ call with phase := .storing again ⟨began, at_, state.now⟩ }, state.cached)
      else none
    | _ => none
  | .fails _ error =>
    match call.phase with
    | .fetching _ _ => some ({ call with phase := .answered (.error error.toError) }, state.cached)
    | _ => none
  | .stored _ =>
    match call.phase with
    | .storing again fetched => some (look jwt state.now call again (published fetched.published), some fetched)
    | _ => none
  | _ => none

def onCall (state : State Claims) (index : Nat) (event : Event) : Option (State Claims) :=
  state.calls[index]?.bind fun call => (stepCall jwt published ttl state call event).map fun (call, cached) =>
    { state with calls := state.calls.set index call, cached }

def step (state : State Claims) (event : Event) : Option (State Claims) :=
  match event with
  | .tick => some { state with now := state.now + 1 }
  | .begin verifier token =>
    some { state with calls := state.calls ++ [⟨verifier, token, state.now, .reading, 0⟩] }
  | .read index => onCall jwt published ttl state index event
  | .fetched index _ => onCall jwt published ttl state index event
  | .fails index _ => onCall jwt published ttl state index event
  | .stored index => onCall jwt published ttl state index event

def start : State Claims := {}

/-! ## What an answer rests on -/

/-- It answered with what was published while it was under way, and is over by now. -/
structure Fetched.Over (fetched : Fetched) (now : Nat) : Prop where
  began : fetched.began ≤ fetched.published
  published : fetched.published ≤ fetched.done
  done : fetched.done ≤ now

theorem Fetched.Over.later {fetched : Fetched} {now : Nat} (past : fetched.Over now) : fetched.Over (now + 1) :=
  { past with done := Nat.le_succ_of_le past.done }

/-- The whole fetch fell into the call. -/
structure During (call : Call Claims) (now : Nat) (fetched : Fetched) : Prop extends fetched.Over now where
  within : call.began ≤ fetched.began

/-- The fetch fell into the call, or was not older than the lifetime of the cache when the call began. -/
structure Recent (call : Call Claims) (now : Nat) (fetched : Fetched) : Prop extends fetched.Over now where
  fresh : call.began < fetched.done + ttl ∨ call.began ≤ fetched.began

def verified (call : Call Claims) (fetched : Fetched) : Except Error Claims :=
  call.verifier.verify jwt call.token (published fetched.published)

/-- Claims and refusals rest on keys that are recent, and only a fetch within the call makes a key unknown. -/
def Justified (call : Call Claims) (now : Nat) (result : Except Error Claims) : Prop :=
  (∃ error : FetchError, result = .error error.toError) ∨
  (∃ fetched, Recent ttl call now fetched ∧ result = verified jwt published call fetched ∧ result ≠ .error .unknownKey) ∨
  ∃ fetched, During call now fetched ∧ result = verified jwt published call fetched

def PhaseSound (call : Call Claims) (now : Nat) : Phase Claims → Prop
  | .reading => call.fetches = 0
  | .fetching again began => call.began ≤ began ∧ began ≤ now ∧ call.fetches ≤ (if again then 2 else 1)
  | .storing again fetched => During call now fetched ∧ call.fetches ≤ (if again then 2 else 1)
  | .answered result => Justified jwt published ttl call now result ∧ call.fetches ≤ 2

structure CallSound (call : Call Claims) (now : Nat) : Prop where
  began : call.began ≤ now
  phase : PhaseSound jwt published ttl call now call.phase

structure Sound (state : State Claims) : Prop where
  cached : ∀ entry, state.cached = some entry → entry.Over state.now
  calls : ∀ call ∈ state.calls, CallSound jwt published ttl call state.now

variable {jwt published ttl} {state : State Claims} {call : Call Claims} {now : Nat}

theorem CallSound.later (sound : CallSound jwt published ttl call now) : CallSound jwt published ttl call (now + 1) := by
  refine ⟨Nat.le_succ_of_le sound.began, ?_⟩
  have phase := sound.phase
  cases at_ : call.phase with
  | reading =>
    rw [at_] at phase
    exact phase
  | fetching again began =>
    rw [at_] at phase
    exact ⟨phase.1, Nat.le_succ_of_le phase.2.1, phase.2.2⟩
  | storing again fetched =>
    rw [at_] at phase
    exact ⟨{ phase.1 with toOver := phase.1.toOver.later }, phase.2⟩
  | answered result =>
    rw [at_] at phase
    refine ⟨?_, phase.2⟩
    rcases phase.1 with failed | ⟨fetched, recent, verified⟩ | ⟨fetched, during, verified⟩
    · exact Or.inl failed
    · exact Or.inr (Or.inl ⟨fetched, { recent with toOver := recent.toOver.later }, verified⟩)
    · exact Or.inr (Or.inr ⟨fetched, { during with toOver := during.toOver.later }, verified⟩)

/-- The call goes on with keys that are recent, and the second time with keys fetched for it. -/
theorem look_sound (began : call.began ≤ now) {again : Bool} {fetched : Fetched} (recent : Recent ttl call now fetched)
    (during : again = true → During call now fetched) (fetches : call.fetches ≤ if again then 2 else 1) :
    CallSound jwt published ttl (look jwt now call again (published fetched.published)) now := by
  unfold look
  split
  next unknown =>
    split
    next second =>
      refine ⟨began, Or.inr (Or.inr ⟨fetched, ?_, unknown.symm⟩), ?_⟩
      · exact { during second with }
      · simpa [second] using fetches
    next first =>
      refine ⟨began, began, Nat.le_refl now, ?_⟩
      simpa [first] using fetches
  next known =>
    refine ⟨began, Or.inr (Or.inl ⟨fetched, { recent with }, rfl, fun unknown => known unknown⟩), ?_⟩
    cases again
    · exact Nat.le_succ_of_le fetches
    · exact fetches

theorem stepCall_sound (sound : Sound jwt published ttl state) (member : call ∈ state.calls) {event : Event}
    {call' : Call Claims} {cached : Option Fetched}
    (stepped : stepCall jwt published ttl state call event = some (call', cached)) :
    CallSound jwt published ttl call' state.now ∧ ∀ entry, cached = some entry → entry.Over state.now := by
  have began := (sound.calls call member).began
  have phase := (sound.calls call member).phase
  cases event with
  | tick => cases stepped
  | begin verifier token => cases stepped
  | read index =>
    cases at_ : call.phase with
    | reading =>
      have none_yet : call.fetches = 0 := by
        rw [at_] at phase
        exact phase
      simp only [stepCall, at_] at stepped
      cases found : fresh ttl state.now state.cached with
      | none =>
        simp only [found, Option.some.injEq, Prod.mk.injEq] at stepped
        obtain ⟨rfl, rfl⟩ := stepped
        exact ⟨⟨began, began, Nat.le_refl _, by simp [none_yet]⟩, sound.cached⟩
      | some entry =>
        simp only [found, Option.some.injEq, Prod.mk.injEq] at stepped
        obtain ⟨rfl, rfl⟩ := stepped
        obtain ⟨there, young⟩ := Option.filter_eq_some_iff.mp found
        have past := sound.cached entry there
        refine ⟨look_sound began ⟨past, Or.inl ?_⟩ (fun never => nomatch never) (by simp [none_yet]),
          sound.cached⟩
        have := of_decide_eq_true young
        omega
    | fetching again since => simp [stepCall, at_] at stepped
    | storing again fetched => simp [stepCall, at_] at stepped
    | answered result => simp [stepCall, at_] at stepped
  | fetched index published_ =>
    cases at_ : call.phase with
    | fetching again since =>
      rw [at_] at phase
      simp only [stepCall, at_, Option.ite_none_right_eq_some, Option.some.injEq, Prod.mk.injEq] at stepped
      obtain ⟨⟨after, before⟩, rfl, rfl⟩ := stepped
      exact ⟨⟨began, ⟨⟨after, before, Nat.le_refl _⟩, phase.1⟩, phase.2.2⟩, sound.cached⟩
    | reading => simp [stepCall, at_] at stepped
    | storing again fetched => simp [stepCall, at_] at stepped
    | answered result => simp [stepCall, at_] at stepped
  | fails index error =>
    cases at_ : call.phase with
    | fetching again since =>
      rw [at_] at phase
      simp only [stepCall, at_, Option.some.injEq, Prod.mk.injEq] at stepped
      obtain ⟨rfl, rfl⟩ := stepped
      refine ⟨⟨began, Or.inl ⟨error, rfl⟩, ?_⟩, sound.cached⟩
      exact Nat.le_trans phase.2.2 (by split <;> omega)
    | reading => simp [stepCall, at_] at stepped
    | storing again fetched => simp [stepCall, at_] at stepped
    | answered result => simp [stepCall, at_] at stepped
  | stored index =>
    cases at_ : call.phase with
    | storing again fetched =>
      rw [at_] at phase
      simp only [stepCall, at_, Option.some.injEq, Prod.mk.injEq] at stepped
      obtain ⟨rfl, rfl⟩ := stepped
      refine ⟨look_sound began ⟨phase.1.toOver, Or.inr phase.1.within⟩ (fun _ => phase.1) phase.2, ?_⟩
      rintro entry ⟨⟩
      exact phase.1.toOver
    | reading => simp [stepCall, at_] at stepped
    | fetching again since => simp [stepCall, at_] at stepped
    | answered result => simp [stepCall, at_] at stepped

theorem onCall_sound (sound : Sound jwt published ttl state) {index : Nat} {event : Event} {state' : State Claims}
    (stepped : onCall jwt published ttl state index event = some state') : Sound jwt published ttl state' := by
  simp only [onCall, Option.bind_eq_some_iff, Option.map_eq_some_iff] at stepped
  obtain ⟨call, there, ⟨call', cached⟩, went, rfl⟩ := stepped
  obtain ⟨callSound, cachedSound⟩ := stepCall_sound sound (List.mem_of_getElem? there) went
  refine ⟨cachedSound, fun other member => ?_⟩
  rcases List.mem_or_eq_of_mem_set member with before | rfl
  · exact sound.calls other before
  · exact callSound

theorem step_sound {event : Event} {state' : State Claims} (sound : Sound jwt published ttl state)
    (stepped : step jwt published ttl state event = some state') : Sound jwt published ttl state' := by
  cases event with
  | tick =>
    cases stepped
    exact ⟨fun entry there => (sound.cached entry there).later, fun call member => (sound.calls call member).later⟩
  | begin verifier token =>
    cases stepped
    refine ⟨sound.cached, fun call member => ?_⟩
    rcases List.mem_append.mp member with before | new
    · exact sound.calls call before
    · rw [List.mem_singleton.mp new]
      exact ⟨Nat.le_refl _, rfl⟩
  | read index => exact onCall_sound sound stepped
  | fetched index published_ => exact onCall_sound sound stepped
  | fails index error => exact onCall_sound sound stepped
  | stored index => exact onCall_sound sound stepped

theorem start_sound : Sound jwt published ttl (start : State Claims) := by
  constructor <;> simp [start]

theorem run_sound {events : List Event} (ran : run (step jwt published ttl) start events = some state) :
    Sound jwt published ttl state :=
  run_invariant (Sound jwt published ttl) (fun _ _ _ sound stepped => step_sound sound stepped) start_sound ran

/-- Whatever the other calls do: a call accepts by keys that were fetched for it or within the lifetime of the cache, calls a
key unknown only after it has asked the issuer itself, so that a key published throughout is never unknown, and asks twice at
most. -/
theorem calls_are_justified {jwt : Jsonwebtoken JwkSet Jwk DecodingKey Claims} {published : Nat → JwkSet} {ttl : Nat}
    {events : List Event} {state : State Claims} (ran : run (step jwt published ttl) start events = some state)
    {call : Call Claims} (member : call ∈ state.calls) {result : Except Error Claims}
    (answered : call.phase = .answered result) :
    call.fetches ≤ 2 ∧
    (∀ claims, result = .ok claims → ∃ fetched, Recent ttl call state.now fetched ∧
      call.verifier.verify jwt call.token (published fetched.published) = .ok claims) ∧
    (result = .error .unknownKey → ∃ fetched kid, During call state.now fetched ∧
      jwt.decodeHeader call.token = .ok ⟨"RS256", some kid⟩ ∧ jwt.find (published fetched.published) kid = none) ∧
    ∀ kid, jwt.decodeHeader call.token = .ok ⟨"RS256", some kid⟩ →
      (∀ time, call.began ≤ time → time ≤ state.now → jwt.find (published time) kid ≠ none) →
      result ≠ .error .unknownKey := by
  have sound := ((run_sound ran).calls call member).phase
  rw [answered] at sound
  obtain ⟨justified, fetches⟩ := sound
  have asked : result = .error .unknownKey → ∃ fetched kid, During call state.now fetched ∧
      jwt.decodeHeader call.token = .ok ⟨"RS256", some kid⟩ ∧ jwt.find (published fetched.published) kid = none := by
    rintro rfl
    rcases justified with ⟨error, failed⟩ | ⟨_, _, _, known⟩ | ⟨fetched, during, unknown⟩
    · cases error <;> cases failed
    · exact absurd rfl known
    · obtain ⟨kid, header, missing⟩ := (Verifier.verify_unknownKey ..).mp unknown.symm
      exact ⟨fetched, kid, during, header, missing⟩
  refine ⟨fetches, ?_, asked, ?_⟩
  · rintro claims rfl
    rcases justified with ⟨error, failed⟩ | ⟨fetched, recent, checked, -⟩ | ⟨fetched, during, checked⟩
    · cases failed
    · exact ⟨fetched, recent, checked.symm⟩
    · exact ⟨fetched, ⟨during.toOver, Or.inr during.within⟩, checked.symm⟩
  · intro kid header always unknown
    obtain ⟨fetched, other, during, decoded, missing⟩ := asked unknown
    rw [header] at decoded
    cases decoded
    exact always fetched.published (Nat.le_trans during.within during.began) (Nat.le_trans during.published during.done)
      missing

/-- Sets of one key, and tokens that are the name of their key. -/
def singleKey : Jsonwebtoken String String String String where
  decodeHeader token := .ok ⟨"RS256", some token⟩
  find keys kid := if kid = keys then some keys else none
  fromJwk jwk := .ok jwk
  decode token _ _ := .ok token

/-- The issuer's key is another from the second tick of the clock on. -/
def rotating (time : Nat) : String := if time = 0 then "old" else "new"

/-- The first call fetches the old key. The second finds it in the cache and asks again for its own. -/
def rotation : List Event :=
  [.begin ⟨"issuer", [], 60⟩ "old", .read 0, .fetched 0 0, .stored 0, .tick, .begin ⟨"issuer", [], 60⟩ "new", .read 1,
    .fetched 1 1, .stored 1]

def rotated : Call String := ⟨⟨"issuer", [], 60⟩, "new", 1, .answered (.ok "new"), 1⟩

theorem calls_are_justified_rotated :
    ∃ state, run (step singleKey rotating 3600) start rotation = some state ∧ rotated ∈ state.calls ∧
      ∃ fetched, Recent 3600 rotated state.now fetched ∧
        rotated.verifier.verify singleKey "new" (rotating fetched.published) = .ok "new" := by
  have ran : ∃ state, run (step singleKey rotating 3600) start rotation = some state ∧ rotated ∈ state.calls :=
    ⟨_, rfl, List.mem_cons_of_mem _ (List.mem_cons_self ..)⟩
  obtain ⟨state, ran, member⟩ := ran
  exact ⟨state, ran, member, (calls_are_justified ran member rfl).2.1 "new" rfl⟩

end

end Skimasque.Identity
