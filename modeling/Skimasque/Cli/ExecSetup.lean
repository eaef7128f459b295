import Skimasque.Cli.Exec

/-! What justifies each action of `skimasque exec`, and its setup: the headers, the preflight and the listeners. -/

set_option autoImplicit false

namespace Skimasque.Cli.Exec
open Library Library.Address Library.Effects Engine Gateway

/-! ## What justifies an action -/

/-- An action of the setup: no session ended, no command started, no file written that has to be removed. -/
def Action.setup : Action → Bool
  | .endSession .. | .spawn .. | .writeSettings .. | .removeSettings .. => false
  | _ => true

/-- An action of the setup that nothing later rests on. -/
def Action.plain : Action → Bool
  | .sessionStarted .. | .openSession .. | .simulated .. => false
  | action => action.setup

def Action.simulation : Action → Option (String × SimulateResult)
  | .simulated destination result => some (destination, result)
  | _ => none

/-- The answers of the preflight, in order. -/
def simulations (log : List Action) : List (String × SimulateResult) := log.filterMap Action.simulation

def NotEnded (log : List Action) : Prop := ∀ controlPlane token org id, Action.endSession controlPlane token org id ∉ log

def NotSpawned (log : List Action) : Prop := ∀ program arguments vars, Action.spawn program arguments vars ∉ log

/-- A header that carries a text. -/
def Carries (headers : HeaderMap) (name text : String) : Prop :=
  ∃ value, HeaderValue.fromStr text = some value ∧ headers.get name = some value

/-- What every tunnel of a session is sent with. -/
structure Presents (args : ExecArgs) (before : List Action) (headers : HeaderMap) : Prop where
  credential : args.agent → ∃ id credential, .sessionStarted id credential ∈ before ∧
    Carries headers "proxy-authorization" ("Bearer " ++ credential)
  application : Carries headers "x-masque-application" (args.app.getD (defaultApp args.program))
  pin : ∀ pin, args.policy = some pin → Carries headers "x-masque-policy" pin

/-- The command runs inside a sandbox that was seen to block, and whose only way out is the listener. -/
structure Sandboxed (args : ExecArgs) (answers : Answers) (before : List Action) (program file : String)
    (doc : Json) : Prop where
  located : Sandbox.locate "srt" answers.searchPath answers.pathext answers.isFile = some program
  written : .writeSettings file doc ∈ before
  kept : .removeSettings file ∉ before
  settings : ∃ base parent, answers.httpListener = .ready parent ∧
    Sandbox.settings base (args.allowDomains.map (·.domain)) parent answers.credentialsDir.toList = .ok doc
  checked : ∃ exe target, .check program (probeArguments file exe target)
    (childVars answers.inherited Sandbox.scrubbedEnv []) ∈ before
  blocked : ∃ stdout stderr, answers.check = .finished stdout stderr true ∧
    Text.trim (Sandbox.lastLine stdout) = Sandbox.probeBlocked

def credentialNames : List String := ["SKIMASQUE_TOKEN", "SKIMASQUE_TOKEN_FILE", "SKIMASQUE_OIDC_TOKEN"]

/-- What was settled before the command is started. -/
structure Confined (args : ExecArgs) (answers : Answers) (before : List Action) (program : String)
    (arguments : List String) (vars : Vars) : Prop where
  valid : validate args = .ok ()
  first : NotSpawned before
  opened : ∃ gateway tls headers, .openSession gateway tls headers ∈ before
  /-- Where every destination was simulated, the pin is what was selected and some destination is allowed. -/
  preflight : (simulations before).length = (destinations args).length →
    (∀ pin, args.policy = some pin → (simulations before).head?.bind (·.2.policy) = some pin) ∧
      (args.forwards ≠ [] → ∃ probe ∈ simulations before, probe.2.outcome = "allow")
  plain : args.sandbox = none → program = args.program ∧ arguments = args.arguments
  sandboxed : args.sandbox = some .srt → ∃ file doc, Sandboxed args answers before program file doc ∧
    arguments = Sandbox.argv file (args.program :: args.arguments)
  /-- No credential, and no proxy of the caller's own. -/
  scrubbed : args.agent ∨ args.sandbox.isSome → ∀ name ∈ credentialNames, vars.lookup name = none
  enclosed : args.sandbox.isSome → ∀ name ∈ Sandbox.scrubbedEnv, vars.lookup name = none
  proxied : args.sandbox = none → ∃ http socks, .listen http ∈ before ∧ .listen socks ∈ before ∧
    ∀ entry ∈ proxyEnv http socks, vars.lookup entry.1 = some entry.2

/-- When an action may come after those before it. -/
def Justified (args : ExecArgs) (answers : Answers) (before : List Action) : Action → Prop
  | .say _ => True
  | .sessionStarted _ _ => args.agent ∧ NotEnded before ∧ ∀ id credential, .sessionStarted id credential ∉ before
  | .openSession _ _ headers => Presents args before headers ∧ NotEnded before
  | .spawn program arguments vars => Confined args answers before program arguments vars ∧ NotEnded before
  | .endSession _ _ _ id => (∃ credential, .sessionStarted id credential ∈ before) ∧ NotEnded before
  | _ => NotEnded before

/-! ## The setup -/

section
variable {args : ExecArgs} {answers : Answers} {log before added : List Action} {action : Action}

theorem setup_of_plain (plain : action.plain) : action.setup := by
  cases action <;> simp_all [Action.plain, Action.setup]

theorem justified_of_plain (plain : action.plain) (running : NotEnded before) : Justified args answers before action := by
  cases action <;> simp_all [Action.plain, Action.setup, Justified]

theorem simulation_of_plain (plain : action.plain) : action.simulation = none := by
  cases action <;> simp_all [Action.plain, Action.simulation]

/-- A log of the setup, each of its actions justified. -/
structure Setup (args : ExecArgs) (answers : Answers) (log : List Action) : Prop where
  guarded : Guarded (Justified args answers) log
  each : ∀ action ∈ log, action.setup

namespace Setup

theorem notEnded (setup : Setup args answers log) : NotEnded log := by
  intro controlPlane token org id member
  cases setup.each _ member

theorem notSpawned (setup : Setup args answers log) : NotSpawned log := by
  intro program arguments vars member
  cases setup.each _ member

theorem nil : Setup args answers [] := ⟨guarded_nil, List.forall_mem_nil _⟩

theorem snoc (setup : Setup args answers log) (fine : action.setup) (justified : Justified args answers log action) :
    Setup args answers (log ++ [action]) where
  guarded := guarded_snoc setup.guarded justified
  each := by
    intro found member
    cases List.mem_append.mp member with
    | inl early => exact setup.each found early
    | inr last => exact List.mem_singleton.mp last ▸ fine

theorem snoc_plain (setup : Setup args answers log) (plain : action.plain) : Setup args answers (log ++ [action]) :=
  setup.snoc (setup_of_plain plain) (justified_of_plain plain setup.notEnded)

theorem append_plain (setup : Setup args answers log) (plain : ∀ action ∈ added, action.plain) :
    Setup args answers (log ++ added) := by
  induction added generalizing log with
  | nil => rwa [List.append_nil]
  | cons action rest ih =>
    have later := ih (setup.snoc_plain (plain action (List.mem_cons_self ..)))
      fun other member => plain other (List.mem_cons_of_mem _ member)
    rwa [List.append_assoc] at later

end Setup

theorem simulations_append_plain (plain : ∀ action ∈ added, action.plain) :
    simulations (log ++ added) = simulations log := by
  have none : simulations added = [] :=
    List.filterMap_eq_nil_iff.mpr fun action member => simulation_of_plain (plain action member)
  rw [simulations, List.filterMap_append]
  exact (congrArg (simulations log ++ ·) none).trans (List.append_nil _)

/-- What the actions so far have come to, for what comes next. -/
structure Kept (args : ExecArgs) (answers : Answers) (facts : List Action) (sims : List (String × SimulateResult))
    (log : List Action) : Prop extends Setup args answers log where
  sims : simulations log = sims
  facts : ∀ action ∈ facts, action ∈ log

variable {facts : List Action} {sims : List (String × SimulateResult)}

namespace Kept

theorem append_plain (kept : Kept args answers facts sims log) (plain : ∀ action ∈ added, action.plain) :
    Kept args answers facts sims (log ++ added) where
  toSetup := kept.toSetup.append_plain plain
  sims := (simulations_append_plain plain).trans kept.sims
  facts action member := List.mem_append_left _ (kept.facts action member)

theorem snoc_plain (kept : Kept args answers facts sims log) (plain : action.plain) :
    Kept args answers (action :: facts) sims (log ++ [action]) where
  toSetup := kept.toSetup.snoc_plain plain
  sims := (simulations_append_plain (by simpa using plain)).trans kept.sims
  facts := by
    intro found member
    cases member with
    | head => exact List.mem_append_right _ (List.mem_singleton_self _)
    | tail _ early => exact List.mem_append_left _ (kept.facts found early)

end Kept

/-- A failure of the setup: of `exec` itself, or by a signal. -/
def Expected (failure : Failure) : Prop := failure.code = exitFailed ∨ ∃ signal, failure.code = 128 + signal

/-- A program whose actions are all plain. -/
abbrev Plain {α : Type} (program : Program α) : Prop := Emits (fun action => action.plain = true) Expected program

section
variable {α β : Type} {post : β → List Action → Prop} {program : Program α} {next : α → Program β}

end

/-! ## Plain programs -/

theorem plain_forwardSignals {signals : List Int} : Plain (forwardSignals signals) := by
  induction signals with
  | nil => exact emits_pure
  | cons signal rest ih => exact emits_bind (emits_given (emits_emit rfl)) fun _ => ih

/-! ## Headers -/

theorem Carries.congr {headers sent : HeaderMap} {name text : String} (carries : Carries headers name text)
    (same : sent.get name = headers.get name) : Carries sent name text := by
  obtain ⟨value, encoded, found⟩ := carries
  exact ⟨value, encoded, same.trans found⟩

section
variable {credential : Option String}

end

/-! ## The preflight -/

end

end Skimasque.Cli.Exec
