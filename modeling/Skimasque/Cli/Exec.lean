import Skimasque.Cli.ExecPlan
import Skimasque.Engine.Units
import Skimasque.Gateway.ProxyStatus
import Skimasque.Library.Effects
import Skimasque.Library.Map

/-! `skimasque exec` from its first step to its exit status: what it does outside, in order.

What it reads, what the control plane, the gateway and the sandbox runtime answer, and when a signal arrives,
are fixed in advance and arbitrary.
-/

set_option autoImplicit false

namespace Skimasque.Cli.Exec
open Library Library.Address Library.Effects Engine Gateway

/-! ## Actions -/

/-- Environment variables. -/
abbrev Vars := AList (fun _ : String => String)

structure AgentSessionRequest where
  ttlSeconds : Option Nat
  runId : Option String
  runtime : Option String
  parent : Option String
  deriving DecidableEq, Repr

inductive Task where
  | refresh
  | forward (target : Core.Target)
  | http
  | socks
  deriving DecidableEq, Repr

inductive Action where
  /-- A line on standard error. -/
  | say (text : String)
  | startSession (controlPlane token org : String) (request : AgentSessionRequest)
  | sessionStarted (id credential : String)
  | endSession (controlPlane token org id : String)
  /-- A session with the gateway that sends these headers on every tunnel. -/
  | openSession (gateway : String) (tls : TlsArgs) (headers : HeaderMap)
  | simulate (controlPlane token org destination application : String) (identity : WorkloadIdentity)
  | simulated (destination : String) (result : SimulateResult)
  | listen (addr : SocketAddr)
  | task (task : Task)
  | writeSettings (file : String) (doc : Json)
  | removeSettings (file : String)
  /-- A command that is waited for before the one that was asked for. -/
  | check (program : String) (arguments : List String) (vars : Vars)
  | spawn (program : String) (arguments : List String) (vars : Vars)
  | forwardSignal (signal : Int)
  | kill
  | abortTasks
  | closeSession

structure Failure where
  code : Int
  message : String
  deriving DecidableEq, Repr

abbrev Program := Logged Action Failure

def failed (message : String) : Failure := ⟨exitFailed, message⟩

def interrupted (signal : Int) : Failure := ⟨128 + signal, "interrupted before the command started"⟩

/-! ## Answers -/

/-- How an awaited call ends during the setup, where a signal may come first. -/
inductive Await (α : Type) where
  | ready (value : α)
  | failed (message : String)
  | interrupted (signal : Int)

def awaiting {α : Type} (context : String → String) : Await α → Program α
  | .ready value => pure value
  | .failed message => fail (failed (context message))
  | .interrupted signal => fail (interrupted signal)

inductive CheckAnswer where
  | timedOut
  | failed (message : String)
  | finished (stdout stderr : String) (success : Bool)

structure OrgView where
  id : String
  name : String

structure AgentSessionResponse where
  sessionId : String
  credential : String

structure Answers where
  /-- The `{:?}` form of a text. -/
  debug : String → String
  register : Except String Unit
  -- Starting the agent session.
  leaseTurn : Await Unit
  loginForLease : Except String (Option Credentials)
  /-- A client for a control plane. -/
  api : String → Except String Unit
  orgsForLease : Await (List OrgView)
  startSession : Await AgentSessionResponse
  endSession : Except String Unit
  -- Setting up.
  prepareTurn : Await Unit
  loginForPrepare : Except String (Option Credentials)
  resolved : Await Unit
  connected : Await Unit
  loginForBearer : Except String (Option Credentials)
  tokenFile : String → Except String String
  exchange : Await String
  orgsForBearer : Await (List OrgView)
  minted : Await String
  peek : String → Option WorkloadIdentity
  simulate : Nat → Await SimulateResult
  httpListener : Await SocketAddr
  socksListener : Await SocketAddr
  forwardListener : Nat → Await SocketAddr
  -- The sandbox.
  searchPath : Option String
  pathext : Option String
  isFile : String → Bool
  readFile : String → Except String String
  parseJson : String → Except String Json
  credentialsDir : Option String
  createSettings : Except String String
  probeTarget : Except String SocketAddr
  currentExe : Except String String
  check : CheckAnswer
  -- The command.
  inherited : Vars
  spawned : Except SpawnError Unit
  /-- The signals that arrive before the command ends. -/
  during : List Int
  waited : Except String ExitStatus

/-! ## The agent session -/

def resolveOrg (orgs : Await (List OrgView)) (creds : Credentials) : Option String → Program String
  | some org => pure org
  | none => do
    match ← awaiting id orgs with
    | [only] => pure only.id
    | [] =>
      fail (failed ("you are not a member of any organisation on " ++ creds.controlPlane ++
        " -- `skimasque org create <name>`"))
    | many => do
      emit (.say (many.foldl (fun out org => out ++ "  " ++ org.id ++ "  " ++ org.name ++ "\n")
        "you belong to several organisations -- pass --org <id>:\n"))
      fail (failed "--org is required")

/-- An agent session this process started, and ends. -/
structure AgentLease where
  controlPlane : String
  loginToken : String
  org : String
  sessionId : String
  credential : String

/-- The message of the error; `debug` is the `{:?}` form of a text. -/
def unitMessage (debug : String → String) : ParseUnitError → String
  | .empty value => debug value ++ " is empty"
  | .malformed kind value reason => debug value ++ " is not a " ++ kind ++ ": " ++ reason
  | .overflow value => debug value ++ " overflows"

def ttlSeconds (debug : String → String) : Option String → Except Failure (Option Nat)
  | none => .ok none
  | some ttl =>
    match parseDuration ttl with
    | .ok span => .ok (some (span / nanosPerSec))
    | .error error => .error (failed ("--ttl: " ++ unitMessage debug error))

def AgentLease.start (args : ExecArgs) (answers : Answers) : Program AgentLease := do
  awaiting id answers.leaseTurn
  match ← ofExcept (answers.loginForLease.mapError failed) with
  | none => fail (failed "--agent needs a SkiMasque login to start the session: run `skimasque login`")
  | some creds => do
    ofExcept ((answers.api creds.controlPlane).mapError failed)
    let org ← resolveOrg answers.orgsForLease creds args.auth.org
    let ttl ← ofExcept (ttlSeconds answers.debug args.ttl)
    emit (.startSession creds.controlPlane creds.sessionToken org
      ⟨ttl, args.runId, some (args.runtime.getD (defaultApp args.program)), args.parent⟩)
    -- A signal in here leaves a session that this process never hears of.
    let started ← awaiting ("starting the agent session: " ++ ·) answers.startSession
    emit (.sessionStarted started.sessionId started.credential)
    return ⟨creds.controlPlane, creds.sessionToken, org, started.sessionId, started.credential⟩

def AgentLease.finish (lease : AgentLease) (answers : Answers) : Program Unit := do
  emit (.endSession lease.controlPlane lease.loginToken lease.org lease.sessionId)
  match answers.endSession with
  | .ok () => pure ()
  | .error error =>
    emit (.say ("skimasque exec: could not end agent session " ++ lease.sessionId ++ ": " ++ error ++
      ". End it with: skimasque agent-session end " ++ lease.sessionId))

/-! ## The session with the gateway -/

inductive AuthMode where
  | oidc
  | static
  | session
  | none
  deriving DecidableEq, Repr

def authMode (auth : AuthArgs) (hasSession : Bool) : AuthMode :=
  if auth.githubOidc || auth.oidcToken.isSome then .oidc
  else if auth.authToken.isSome || auth.authTokenFile.isSome then .static
  else if hasSession then .session
  else .none

def staticToken (auth : AuthArgs) (tokenFile : String → Except String String) : Except Failure (Option String) :=
  match auth.authTokenFile with
  | none => .ok auth.authToken
  | some path =>
    match tokenFile path with
    | .error error => .error (failed ("reading the token file " ++ path ++ ": " ++ error))
    | .ok text =>
      if Text.isEmpty (Text.trim text) then .error (failed ("the token file " ++ path ++ " is empty"))
      else .ok (some (Text.trim text))

/-- The login session that a credential was minted from. -/
structure Login where
  creds : Credentials
  org : String

structure Bearer where
  header : Option String
  /-- Whether the credential is replaced before it expires. -/
  refresh : Bool
  login : Option Login

def resolveBearer (auth : AuthArgs) (answers : Answers) : Program Bearer := do
  let creds ← ofExcept (answers.loginForBearer.mapError failed)
  match authMode auth creds.isSome, creds with
  | .oidc, _ =>
    if auth.oidcAudience.isNone then
      fail (failed ("--github-oidc / --oidc-token also need --oidc-audience (the value the gateway expects)"))
    else do
      let token ← awaiting id answers.exchange
      return ⟨some token, true, none⟩
  | .static, _ => do
    let header ← ofExcept (staticToken auth answers.tokenFile)
    return ⟨header, false, none⟩
  | .session, some creds => do
    ofExcept ((answers.api creds.controlPlane).mapError failed)
    let org ← resolveOrg answers.orgsForBearer creds auth.org
    let token ← awaiting id answers.minted
    return ⟨some token, true, some ⟨creds, org⟩⟩
  | _, _ =>
    fail (failed "not authenticated: run `skimasque login`, or pass --github-oidc/--oidc-token/--auth-token")

/-- A header whose text has to be one that a header can carry. -/
def withHeader (headers : HeaderMap) (name text complaint : String) : Except Failure HeaderMap :=
  match HeaderValue.fromStr text with
  | some value => .ok (headers.insert name value)
  | none => .error (failed complaint)

def withBearer (headers : HeaderMap) : Option String → Except Failure HeaderMap
  | none => .ok headers
  | some token =>
    withHeader headers "proxy-authorization" ("Bearer " ++ token)
      "the credential contains characters a header cannot carry"

def openSession (gateway : String) (tls : TlsArgs) (auth : AuthArgs) (headers : HeaderMap) (answers : Answers) :
    Program Bearer := do
  awaiting id answers.resolved
  given (tls.ca.isNone ∧ tls.insecure) (emit (.say "warning: --insecure disables certificate verification"))
  awaiting id answers.connected
  let bearer ← resolveBearer auth answers
  let headers ← ofExcept (withBearer headers bearer.header)
  emit (.openSession gateway tls headers)
  return bearer

/-! ## The preflight -/

/-- Simulate each destination in turn; an error of any of them is the error of all. -/
def preflightFrom (login : Login) (identity : WorkloadIdentity) (app : String) (answers : Answers) :
    Nat → List String → Program (Except String (List (String × SimulateResult)))
  | _, [] => pure (.ok [])
  | index, destination :: rest => do
    emit (.simulate login.creds.controlPlane login.creds.sessionToken login.org destination app identity)
    match answers.simulate index with
    | .interrupted signal => fail (interrupted signal)
    | .failed message => pure (.error message)
    | .ready result => do
      emit (.simulated destination result)
      let later ← preflightFrom login identity app answers (index + 1) rest
      return later.map ((destination, result) :: ·)

def preflight (login : Login) (identity : WorkloadIdentity) (app : String) (destinations : List String)
    (answers : Answers) : Program (Except String (List (String × SimulateResult))) :=
  match answers.api login.creds.controlPlane with
  | .error error => pure (.error error)
  | .ok () => preflightFrom login identity app answers 0 destinations

def destinations (args : ExecArgs) : List String :=
  if args.forwards.isEmpty then [preflightPlaceholder] else args.forwards.map (·.target.text)

/-- The preflight, only with a login session on this control plane. -/
def checkAccess (args : ExecArgs) (controlPlane app who : String) (identity : WorkloadIdentity) (login : Option Login)
    (answers : Answers) : Program (Option Checked) :=
  match login.filter fun login => normalizeBaseUrl login.creds.controlPlane == controlPlane with
  | none => pure none
  | some login => do
    match ← preflight login identity app (destinations args) answers with
    | .ok probes => do
      let checked ← ofExcept ((judge args.policy who probes args.forwards.length).mapError failed)
      return some checked
    | .error error => do
      emit (.say ("skimasque exec: could not check access in advance (" ++ error ++ "); the gateway still enforces"))
      return none

/-! ## Setting up -/

/-- One listener for each forward, from this one on. -/
def bindForwards (answers : Answers) : Nat → List ForwardSpec → Program (List (ForwardSpec × SocketAddr))
  | _, [] => pure []
  | index, spec :: rest => do
    let addr ← awaiting (fun error => "could not listen on 127.0.0.1:" ++ toString spec.localPort.toNat ++ " for " ++
      spec.target.text ++ ": " ++ error) (answers.forwardListener index)
    emit (.listen addr)
    emit (.task (.forward spec.target))
    let later ← bindForwards answers (index + 1) rest
    return (spec, addr) :: later

/-- What setup leaves for launching the command. -/
structure Prepared where
  env : List (String × String)
  httpAddr : SocketAddr

/-- An agent presents its session's credential and nothing else. -/
def authFor (args : ExecArgs) : Option String → AuthArgs
  | some credential => ⟨some credential, none, false, none, none, args.auth.org⟩
  | none => args.auth

def baseHeaders (args : ExecArgs) (app : String) : Except Failure HeaderMap := do
  let headers ← withHeader [] "x-masque-application" app "the application name contains characters a header cannot carry"
  match args.policy with
  | none => return headers
  | some pin => withHeader headers "x-masque-policy" pin "the policy name contains characters a header cannot carry"

def headerView (args : ExecArgs) (who app gateway : String) (checked : Option Checked)
    (forwards : List (ForwardSpec × SocketAddr)) : HeaderView where
  identity := who
  policy := (args.policy.or (checked.bind (·.selected))).getD "(selected by the gateway)"
  application := app
  gateway := gateway
  access := forwards.mapIdx fun i (spec, addr) => ⟨spec.target.text, checked.bind fun checked => checked.allowed[i]?, addr⟩
  session := checked.bind (·.session)

def prepare (args : ExecArgs) (credential : Option String) (answers : Answers) : Program Prepared := do
  awaiting id answers.prepareTurn
  let login ← ofExcept (answers.loginForPrepare.mapError failed)
  let controlPlane := resolveControlPlane args.controlPlane login
  let gateway ← ofExcept ((resolveGateway args.gateway controlPlane).mapError failed)
  let app := args.app.getD (defaultApp args.program)
  let headers ← ofExcept (baseHeaders args app)
  let bearer ← openSession gateway args.tls (authFor args credential) headers answers
  let identity := bearer.header.bind answers.peek
  let who := identityLabel identity
  let checked ← checkAccess args controlPlane app who (identity.getD {}) bearer.login answers
  given bearer.refresh (emit (.task .refresh))
  let http ← awaiting ("listening on loopback: " ++ ·) answers.httpListener
  emit (.listen http)
  let socks ← awaiting ("listening on loopback: " ++ ·) answers.socksListener
  emit (.listen socks)
  let forwards ← bindForwards answers 0 args.forwards
  emit (.task .http)
  emit (.task .socks)
  given (¬ args.quiet) (emit (.say (renderHeader (headerView args who app gateway checked forwards))))
  -- A sandbox gets its proxy settings from its runtime.
  return ⟨if args.sandbox.isSome then [] else childEnv http socks forwards, http⟩

/-! ## The sandbox -/

/-- What `Command` makes of the environment it inherits. -/
def childVars (inherited : Vars) (removed : List String) (added : List (String × String)) : Vars :=
  Map.insertAll Prod.fst Prod.snd (removed.foldl (fun vars name => vars.erase name) inherited) added

def baseSettings (args : ExecArgs) (answers : Answers) : Except Failure (Option Json) :=
  match args.sandboxSettings with
  | none => .ok none
  | some path =>
    match answers.readFile path with
    | .error error => .error (failed ("reading " ++ path ++ ": " ++ error))
    | .ok text =>
      match answers.parseJson text with
      | .error error => .error (failed (path ++ " is not valid JSON: " ++ error))
      | .ok value => .ok (some value)

def probeArguments (file exe : String) (target : SocketAddr) : List String :=
  Sandbox.argv file [exe, "sandbox-probe", target.text]

/-- Run the probe inside the sandbox; only an explicit answer that it was blocked goes on. -/
def confirmBlocked (srt file : String) (answers : Answers) : Program Unit := do
  let target ← ofExcept (answers.probeTarget.mapError fun error =>
    failed ("cannot check the sandbox: this host has no non-loopback address to test against (" ++ error ++ ")"))
  let exe ← ofExcept (answers.currentExe.mapError fun error => failed ("locating skimasque: " ++ error))
  emit (.check srt (probeArguments file exe target) (childVars answers.inherited Sandbox.scrubbedEnv []))
  match answers.check with
  | .timedOut => fail (failed "the sandbox check timed out; refusing to start the agent")
  | .failed error => fail (failed ("running " ++ srt ++ ": " ++ error))
  | .finished stdout stderr success =>
    match Sandbox.judgeProbe (Sandbox.lastLine stdout) success with
    | .ok () => pure ()
    | .error why =>
      let stderr := Text.trim stderr
      fail (failed (if Text.isEmpty stderr then why else why ++ "\nThe sandbox said:\n" ++ stderr))

/-- The command line that runs the command inside the sandbox, and its settings file. -/
def srtCommandLine (args : ExecArgs) (httpAddr : SocketAddr) (answers : Answers) :
    Program ((String × List String) × String) := do
  match Sandbox.locate "srt" answers.searchPath answers.pathext answers.isFile with
  | none =>
    fail (failed ("--sandbox srt needs the sandbox runtime on PATH: " ++
      "npm install -g @anthropic-ai/sandbox-runtime"))
  | some srt => do
    let base ← ofExcept (baseSettings args answers)
    let doc ← ofExcept ((Sandbox.settings base (args.allowDomains.map (·.domain)) httpAddr
      answers.credentialsDir.toList).mapError failed)
    let file ← ofExcept (answers.createSettings.mapError fun error => failed ("writing the sandbox settings: " ++ error))
    emit (.writeSettings file doc)
    onFailure (confirmBlocked srt file answers) (emit (.removeSettings file))
    return ((srt, Sandbox.argv file (args.program :: args.arguments)), file)

/-! ## The command -/

/-- The number of SIGINT, which the terminal delivers to the command itself. -/
def sigint : Int := 2

def forwardSignals : List Int → Program Unit
  | [] => pure ()
  | signal :: rest => do
    given (signal ≠ sigint) (emit (.forwardSignal signal))
    forwardSignals rest

/-- Start the command and wait for it. -/
def supervise (program : String) (arguments : List String) (vars : Vars) (answers : Answers) : Program Int := do
  emit (.spawn program arguments vars)
  match answers.spawned with
  | .error error => do
    let what := match error with
      | .notFound => "command not found"
      | .other message => message
    emit (.say ("skimasque exec: " ++ program ++ ": " ++ what))
    return spawnErrorCode error
  | .ok () => do
    forwardSignals answers.during
    match answers.waited with
    | .ok status => return statusCode status
    | .error error => do
      -- Never leave the command running without its tunnel.
      emit .kill
      emit (.say ("skimasque exec: waiting for the command: " ++ error))
      return exitFailed

/-- The command line to start, and the settings file to remove when it has ended. -/
def commandLine (args : ExecArgs) (httpAddr : SocketAddr) (answers : Answers) :
    Program ((String × List String) × Option String) :=
  match args.sandbox with
  | some .srt => do
    let (line, file) ← srtCommandLine args httpAddr answers
    return (line, some file)
  | none => return ((args.program, args.arguments), none)

/-- The guard of the settings, dropped at the end. -/
def dropSettings : Option String → Program Unit
  | some file => emit (.removeSettings file)
  | none => pure ()

/-- Run the command, and take down what was set up for it. -/
def runCommand (line : String × List String) (vars : Vars) (file : Option String) (answers : Answers) : Program Int := do
  let code ← supervise line.1 line.2 vars answers
  emit .abortTasks
  emit .closeSession
  dropSettings file
  return code

def launch (args : ExecArgs) (credential : Option String) (answers : Answers) : Program Int := do
  let prepared ← prepare args credential answers
  let (line, file) ← commandLine args prepared.httpAddr answers
  let removed := if args.agent || args.sandbox.isSome then Sandbox.scrubbedEnv else []
  runCommand line (childVars answers.inherited removed prepared.env) file answers

def runInner (args : ExecArgs) (answers : Answers) : Program Int := do
  ofExcept ((validate args).mapError failed)
  ofExcept (answers.register.mapError fun error => failed ("listening for signals: " ++ error))
  if args.agent then do
    let lease ← AgentLease.start args answers
    -- Every way out of the launch ends the session.
    let outcome ← attempt (launch args (some lease.credential) answers)
    lease.finish answers
    ofExcept outcome
  else launch args none answers

/-- Run to completion: what was done outside, and the exit status. -/
def run (args : ExecArgs) (answers : Answers) : List Action × Int :=
  let whole := runInner args answers
  match whole.outcome with
  | .ok code => (whole.log, code)
  | .error failure => (whole.log ++ [.say ("skimasque exec: " ++ failure.message)], failure.code)

end Skimasque.Cli.Exec
