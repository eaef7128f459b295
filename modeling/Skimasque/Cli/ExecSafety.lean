import Skimasque.Cli.ExecSetup

/-! What `skimasque exec` never does, and what it always does before it is over. -/

set_option autoImplicit false

namespace Skimasque.Cli.Exec
open Library Library.Address Library.Effects Engine Gateway

section
variable {args : ExecArgs} {answers : Answers} {log before added : List Action} {action : Action} {facts : List Action}

/-! ## The sandbox -/

/-- The probe ran under the settings, and said that it was blocked. -/
def Blocked (answers : Answers) (srt file : String) (log : List Action) : Prop :=
  (∃ exe target, .check srt (probeArguments file exe target) (childVars answers.inherited Sandbox.scrubbedEnv []) ∈ log) ∧
    ∃ stdout stderr, answers.check = .finished stdout stderr true ∧
      Text.trim (Sandbox.lastLine stdout) = Sandbox.probeBlocked

/-- Every file that was written has been removed. -/
def Cleaned (log : List Action) : Prop := ∀ file doc, Action.writeSettings file doc ∈ log → .removeSettings file ∈ log

/-- What `exec` leaves where it goes no further: each action justified, no session ended, no file left behind. -/
structure Stopped (args : ExecArgs) (answers : Answers) (log : List Action) : Prop where
  guarded : Guarded (Justified args answers) log
  notEnded : NotEnded log
  cleaned : Cleaned log

theorem Setup.stopped (setup : Setup args answers log) : Stopped args answers log where
  guarded := setup.guarded
  notEnded := setup.notEnded
  cleaned file doc member := by cases setup.each _ member

theorem NotSpawned.snoc (fresh : NotSpawned log) (other : ∀ program arguments vars, action ≠ .spawn program arguments vars) :
    NotSpawned (log ++ [action]) := by
  intro program arguments vars member
  cases List.mem_append.mp member with
  | inl early => exact fresh _ _ _ early
  | inr last => exact other _ _ _ (List.mem_singleton.mp last).symm

/-- What stops before the command is started. -/
abbrev StoppedShort (args : ExecArgs) (answers : Answers) (failure : Failure) (log : List Action) : Prop :=
  Expected failure ∧ Stopped args answers log ∧ NotSpawned log

/-- The exit status of `exec` once it has come to start the command. -/
def commandStatus (answers : Answers) : Int :=
  match answers.spawned, answers.waited with
  | .error error, _ => spawnErrorCode error
  | .ok (), .ok status => statusCode status
  | .ok (), .error _ => exitFailed

/-- What `exec` leaves where the command was started, or could not be. -/
structure Done (args : ExecArgs) (answers : Answers) (code : Int) (log : List Action) : Prop
    extends Stopped args answers log where
  status : code = commandStatus answers
  started : ∃ program arguments vars, .spawn program arguments vars ∈ log
  aborted : .abortTasks ∈ log
  closed : .closeSession ∈ log

/-- A log of plain actions only. -/
def AllPlain (log : List Action) : Prop := ∀ action ∈ log, action.plain

theorem AllPlain.append (plain : AllPlain log) (fine : ∀ action ∈ added, action.plain) : AllPlain (log ++ added) := by
  intro action member
  cases List.mem_append.mp member with
  | inl early => exact plain action early
  | inr late => exact fine action late

theorem AllPlain.kept (plain : AllPlain log) : Kept args answers [] [] log where
  toSetup := by simpa using Setup.nil.append_plain plain
  sims := List.filterMap_eq_nil_iff.mpr fun action member => simulation_of_plain (plain action member)
  facts := List.forall_mem_nil _

theorem AllPlain.unstarted (plain : AllPlain log) (id credential : String) : .sessionStarted id credential ∉ log := by
  intro member
  cases plain _ member

/-- Every session that this process heard of is ended, and every file it wrote is removed. -/
structure PutBack (log : List Action) : Prop where
  sessions : ∀ id credential, .sessionStarted id credential ∈ log → ∃ controlPlane token org,
    .endSession controlPlane token org id ∈ log
  files : Cleaned log

/-- How a run ends that has come to start the command, and how one that has not. -/
structure Ended (answers : Answers) (log : List Action) (code : Int) : Prop where
  started : (∃ program arguments vars, .spawn program arguments vars ∈ log) →
    code = commandStatus answers ∧ .abortTasks ∈ log ∧ .closeSession ∈ log
  stopped : NotSpawned log → code = exitFailed ∨ ∃ signal, code = 128 + signal

theorem Done.ended {code : Int} (done : Done args answers code log) : Ended answers log code where
  started _ := ⟨done.status, done.aborted, done.closed⟩
  stopped fresh := by
    obtain ⟨program, arguments, vars, member⟩ := done.started
    exact absurd member (fresh program arguments vars)

theorem StoppedShort.ended {failure : Failure} (short : StoppedShort args answers failure log) :
    Ended answers log failure.code where
  started spawned := by
    obtain ⟨program, arguments, vars, member⟩ := spawned
    exact absurd member (short.2.2 program arguments vars)
  stopped _ := short.1

/-- A run starts one session at most. -/
theorem session_unique (guarded : Guarded (Justified args answers) log) {id other credential otherCredential : String}
    (first : .sessionStarted id credential ∈ log) (second : .sessionStarted other otherCredential ∈ log) : other = id := by
  obtain ⟨before, later, rfl⟩ := List.append_of_mem first
  have alone := (guarded before _ later rfl).2.2
  rcases List.mem_append.mp second with early | late
  · exact absurd early (alone other otherCredential)
  · cases late with
    | head => rfl
    | tail _ late =>
      obtain ⟨between, rest, rfl⟩ := List.append_of_mem late
      have justified := guarded (before ++ .sessionStarted id credential :: between)
        (.sessionStarted other otherCredential) rest (by simp)
      exact absurd (by simp) (justified.2.2 id credential)

/-- What holds of a whole run. -/
structure Whole (args : ExecArgs) (answers : Answers) (code : Int) (log : List Action) : Prop where
  guarded : Guarded (Justified args answers) log
  putBack : PutBack log
  ended : Ended answers log code

theorem Setup.whole {failure : Failure} (setup : Setup args answers log) (expected : Expected failure)
    (unstarted : ∀ id credential, .sessionStarted id credential ∉ log) : Whole args answers failure.code log where
  guarded := setup.guarded
  putBack := ⟨fun id credential member => absurd member (unstarted id credential), setup.stopped.cleaned⟩
  ended := StoppedShort.ended ⟨expected, setup.stopped, setup.notSpawned⟩

theorem mem_of_append_say {text : String} (member : action ∈ log ++ [.say text]) (other : ∀ text, action ≠ .say text) :
    action ∈ log := by
  cases List.mem_append.mp member with
  | inl early => exact early
  | inr last => exact absurd (List.mem_singleton.mp last) (other text)

/-- A message at the end changes nothing of this. -/
theorem Whole.say {code : Int} (whole : Whole args answers code log) (text : String) :
    Whole args answers code (log ++ [.say text]) where
  guarded := guarded_snoc whole.guarded trivial
  putBack := by
    refine ⟨fun id credential member => ?_, fun file doc member => ?_⟩
    · obtain ⟨controlPlane, token, org, there⟩ :=
        whole.putBack.sessions id credential (mem_of_append_say member fun _ => nofun)
      exact ⟨controlPlane, token, org, List.mem_append_left _ there⟩
    · exact List.mem_append_left _ (whole.putBack.files file doc (mem_of_append_say member fun _ => nofun))
  ended := by
    constructor
    · rintro ⟨program, arguments, vars, member⟩
      obtain ⟨status, aborted, closed⟩ :=
        whole.ended.started ⟨program, arguments, vars, mem_of_append_say member fun _ => nofun⟩
      exact ⟨status, List.mem_append_left _ aborted, List.mem_append_left _ closed⟩
    · intro fresh
      exact whole.ended.stopped fun program arguments vars member =>
        fresh program arguments vars (List.mem_append_left _ member)

/-- The lease is given up after everything else. -/
theorem Whole.finish {code : Int} {lease : AgentLease} (stopped : Stopped args answers log) (ended : Ended answers log code)
    (started : .sessionStarted lease.sessionId lease.credential ∈ log) :
    Whole args answers code (log ++ [.endSession lease.controlPlane lease.loginToken lease.org lease.sessionId]) := by
  have justified : Justified args answers log
      (.endSession lease.controlPlane lease.loginToken lease.org lease.sessionId) :=
    ⟨⟨lease.credential, started⟩, stopped.notEnded⟩
  have early {action : Action} (member : action ∈ log ++ [.endSession lease.controlPlane lease.loginToken lease.org
      lease.sessionId]) (other : ∀ controlPlane token org id, action ≠ .endSession controlPlane token org id) :
      action ∈ log := by
    cases List.mem_append.mp member with
    | inl early => exact early
    | inr last => exact absurd (List.mem_singleton.mp last) (other _ _ _ _)
  refine ⟨guarded_snoc stopped.guarded justified, ⟨fun id credential member => ?_, fun file doc member => ?_⟩, ?_, ?_⟩
  · have same : id = lease.sessionId := session_unique stopped.guarded started (early member fun _ _ _ _ => nofun)
    rw [same]
    exact ⟨_, _, _, List.mem_append_right _ (List.mem_singleton_self _)⟩
  · exact List.mem_append_left _ (stopped.cleaned file doc (early member fun _ _ _ _ => nofun))
  · rintro ⟨program, arguments, vars, member⟩
    obtain ⟨status, aborted, closed⟩ := ended.started ⟨program, arguments, vars, early member fun _ _ _ _ => nofun⟩
    exact ⟨status, List.mem_append_left _ aborted, List.mem_append_left _ closed⟩
  · intro fresh
    exact ended.stopped fun program arguments vars member => fresh program arguments vars (List.mem_append_left _ member)

end

/-- An agent's command under the sandbox. -/
def agentArgs : ExecArgs where
  policy := some "coding"
  app := none
  gateway := none
  controlPlane := none
  forwards := []
  agent := true
  ttl := some "45m"
  runtime := none
  runId := none
  parent := none
  sandbox := some .srt
  allowDomains := [⟨"*.acme.dev", " *.acme.dev", by decide⟩]
  sandboxSettings := none
  unsandboxed := false
  quiet := true
  tls := ⟨none, none, none, false⟩
  auth := ⟨none, none, false, none, none, none⟩
  program := "claude"
  arguments := ["-p"]

def aliceLogin : Credentials := ⟨cloudControlPlane, "session", "alice", "usr_1"⟩

/-- Everything works, a signal is passed on, and the command exits with 7. -/
def smooth : Answers where
  debug := id
  register := .ok ()
  leaseTurn := .ready ()
  loginForLease := .ok (some aliceLogin)
  api _ := .ok ()
  orgsForLease := .ready [⟨"org_1", "acme"⟩]
  startSession := .ready ⟨"sess_1", "token"⟩
  endSession := .ok ()
  prepareTurn := .ready ()
  loginForPrepare := .ok (some aliceLogin)
  resolved := .ready ()
  connected := .ready ()
  loginForBearer := .ok (some aliceLogin)
  tokenFile _ := .error "missing"
  exchange := .failed "none"
  orgsForBearer := .ready []
  minted := .failed "none"
  peek _ := none
  simulate _ := .failed "none"
  httpListener := .ready ⟨.v4 0x7f000001, 41234⟩
  socksListener := .ready ⟨.v4 0x7f000001, 41235⟩
  forwardListener _ := .failed "none"
  searchPath := some "/usr/bin"
  pathext := none
  isFile path := path == "/usr/bin/srt"
  readFile _ := .error "missing"
  parseJson _ := .error "not JSON"
  credentialsDir := some "/home/alice/.config/skimasque"
  createSettings := .ok "/tmp/settings.json"
  probeTarget := .ok ⟨.v4 0xc6336405, 40000⟩
  currentExe := .ok "/usr/bin/skimasque"
  check := .finished "banner\nblocked\n" "" true
  inherited := (∅ : Vars).insert "SKIMASQUE_TOKEN" "mine"
  spawned := .ok ()
  during := [15]
  waited := .ok (.exited 7)

def commands (log : List Action) : List (String × List String) := log.filterMap fun
  | .spawn program arguments _ => some (program, arguments)
  | _ => none

example : commands (run agentArgs smooth).1 =
    [("/usr/bin/srt", ["--settings", "/tmp/settings.json", "--", "claude", "-p"])] := by decide

end Skimasque.Cli.Exec
