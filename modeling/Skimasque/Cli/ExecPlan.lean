import Skimasque.Cli.Sandbox
import Skimasque.Core.Target
import Skimasque.Engine.Identity

/-! `skimasque exec` without its effects: its arguments, what it decides from them, and what it prints. -/

set_option autoImplicit false

namespace Skimasque.Cli.Exec
open Library Library.Address Skimasque.Core Engine

def cloudControlPlane : String := "https://control.skimasque.com"
def cloudGateway : String := "gateway.skimasque.com"
def preflightPlaceholder : String := "preflight.invalid:1"

def exitFailed : Int := 125
def exitNotExecutable : Int := 126
def exitNotFound : Int := 127

/-! ## Arguments -/

structure ForwardSpec where
  localPort : UInt16
  target : Target
  deriving DecidableEq, Repr

namespace ForwardSpec

def envChar (c : Char) : Char := if Text.isAsciiAlphanumeric c then c.toUpper else '_'

/-- `<HOST>_<PORT>`, every character but letters and digits as `_`. -/
def envTail (spec : ForwardSpec) : String :=
  let host := match spec.target.host with
    | .name name => name
    | .ip (.v4 bits) => v4Text bits
    | .ip (.v6 bits) => v6Text bits
  String.ofList (host.toList.map envChar) ++ "_" ++ toString spec.target.port.toNat

/-- The variable that holds this forward's local address. -/
def envName (spec : ForwardSpec) : String := "SKIMASQUE_FORWARD_" ++ spec.envTail

end ForwardSpec

structure TlsArgs where
  authority : Option String
  template : Option String
  ca : Option String
  insecure : Bool
  deriving DecidableEq, Repr

structure AuthArgs where
  authToken : Option String
  authTokenFile : Option String
  githubOidc : Bool
  oidcToken : Option String
  oidcAudience : Option String
  org : Option String
  deriving DecidableEq, Repr

inductive SandboxRuntime where
  | srt
  deriving DecidableEq, Repr

structure ExecArgs where
  policy : Option String
  app : Option String
  gateway : Option String
  controlPlane : Option String
  forwards : List ForwardSpec
  agent : Bool
  ttl : Option String
  runtime : Option String
  runId : Option String
  parent : Option String
  sandbox : Option SandboxRuntime
  allowDomains : List Sandbox.AllowDomain
  sandboxSettings : Option String
  unsandboxed : Bool
  quiet : Bool
  tls : TlsArgs
  auth : AuthArgs
  /-- The command is never empty: its program, and the rest. -/
  program : String
  arguments : List String

/-- The stored result of `skimasque login`. -/
structure Credentials where
  controlPlane : String
  sessionToken : String
  githubLogin : String
  userId : String
  deriving DecidableEq, Repr

/-! ## Decisions -/

def validate (args : ExecArgs) : Except String Unit :=
  if args.agent ∧ args.sandbox.isNone ∧ ¬ args.unsandboxed then
    .error ("an agent needs a sandbox: pass --sandbox srt (with --allow-domain), or " ++
      "--unsandboxed to run it with nothing stopping direct connections")
  else if args.sandbox.isSome ∧ args.allowDomains.isEmpty then .error Sandbox.needsDomains
  else if args.sandbox.isSome ∧ ¬ args.forwards.isEmpty then
    .error ("--forward cannot be combined with --sandbox: the sandboxed command cannot " ++
      "reach loopback listeners outside the sandbox")
  else .ok ()

def normalizeBaseUrl (addr : String) : String :=
  let addr := Text.trimEndMatches '/' (Text.trim addr)
  if Text.containsText addr "://" then addr else "https://" ++ addr

def resolveControlPlane (explicit : Option String) (login : Option Credentials) : String :=
  normalizeBaseUrl ((explicit.or (login.map (·.controlPlane))).getD cloudControlPlane)

def resolveGateway (explicit : Option String) (controlPlane : String) : Except String String :=
  match explicit with
  | some gateway => .ok gateway
  | none =>
    if controlPlane = cloudControlPlane then .ok cloudGateway
    else
      .error ("No gateway is configured for " ++ controlPlane ++ ". Pass --gateway or set SKIMASQUE_GATEWAY.")

/-- The command's file stem. -/
def defaultApp (command : String) : String := (Path.fileStem command).getD command

def httpProxyNames : List String := ["HTTPS_PROXY", "https_proxy", "HTTP_PROXY", "http_proxy"]
def allProxyNames : List String := ["ALL_PROXY", "all_proxy"]
def noProxyNames : List String := ["NO_PROXY", "no_proxy"]

/-- The variables that send everything but loopback through the listeners. -/
def proxyEnv (http socks : SocketAddr) : List (String × String) :=
  httpProxyNames.map (fun name => (name, "http://" ++ http.text)) ++
    allProxyNames.map (fun name => (name, "socks5h://" ++ socks.text)) ++
    noProxyNames.map (fun name => (name, "localhost,127.0.0.1,::1")) ++
    [("SKIMASQUE_PROXY_HTTP", http.text), ("SKIMASQUE_PROXY_SOCKS5", socks.text)]

/-- The variables added to the child's environment. -/
def childEnv (http socks : SocketAddr) (forwards : List (ForwardSpec × SocketAddr)) : List (String × String) :=
  proxyEnv http socks ++ forwards.map fun (spec, addr) => (spec.envName, addr.text)

def identityLabel (identity : Option WorkloadIdentity) : String :=
  (identity.bind fun identity => (identity.actor.or identity.repository).or identity.organization).getD "unknown"

/-! ## The preflight -/

structure SimLimit where
  label : String
  value : String
  deriving DecidableEq, Repr

structure SimulateResult where
  /-- `allow` or `deny`. -/
  outcome : String
  policy : Option String
  suggestedRule : Option String
  limits : List SimLimit
  deriving DecidableEq, Repr

structure Checked where
  selected : Option String
  /-- Whether each forward would be allowed. -/
  allowed : List Bool
  session : Option String
  deriving DecidableEq, Repr

def allows (probe : String × SimulateResult) : Bool := probe.2.outcome == "allow"

/-- One line of the refusal that names every destination. -/
def deniedLine (probe : String × SimulateResult) : String :=
  "\n  " ++ probe.1 ++ ": denied." ++ ((probe.2.suggestedRule.map (" To allow it: " ++ ·)).getD "")

def judge (pin : Option String) (who : String) (probes : List (String × SimulateResult)) (forwards : Nat) :
    Except String Checked :=
  let selected := probes.head?.bind (·.2.policy)
  let mismatch := pin.filter fun pin => selected ≠ some pin
  match mismatch with
  | some pin =>
    let chose := (selected.map fun name => "\"" ++ name ++ "\"").getD "no policy"
    .error ("Policy \"" ++ pin ++ "\" does not apply to you (" ++ who ++ "). SkiMasque selected " ++ chose ++
      " for this identity.")
  | none =>
    if forwards = 0 then .ok ⟨selected, [], none⟩
    else if probes.any allows then
      .ok ⟨selected, probes.map allows, (probes.find? allows).bind fun probe =>
        (probe.2.limits.find? (·.label == "duration")).map (·.value)⟩
    else .error (probes.foldl (fun message probe => message ++ deniedLine probe) "Every destination would be denied:")

/-! ## The header -/

structure AccessLine where
  destination : String
  /-- Nothing where the preflight did not run. -/
  allowed : Option Bool
  addr : SocketAddr
  deriving DecidableEq, Repr

structure HeaderView where
  identity : String
  policy : String
  application : String
  gateway : String
  access : List AccessLine
  session : Option String
  deriving DecidableEq, Repr

/-- `{:<width}`. -/
def padRight (width : Nat) (text : String) : String :=
  String.ofList (text.toList ++ List.replicate (width - text.toList.length) ' ')

def AccessLine.render (line : AccessLine) : String :=
  match line.allowed with
  | some ok => "  " ++ padRight 16 line.destination ++ " " ++ (if ok then "✓" else "✗") ++ "  → " ++ line.addr.text ++ "\n"
  | none => "  " ++ padRight 16 line.destination ++ " → " ++ line.addr.text ++ "\n"

/-- The access summary printed before the command starts. -/
def renderHeader (view : HeaderView) : String :=
  let fields := [("Identity", view.identity), ("Policy", view.policy), ("Application", view.application),
    ("Gateway", view.gateway)]
  let top := fields.foldl (fun out (label, value) => out ++ padRight 13 label ++ value ++ "\n") "SkiMasque\n\n"
  let access := if view.access.isEmpty then "" else view.access.foldl (fun out line => out ++ line.render) "\nAccess\n"
  let session := (view.session.map fun session => "\nSession\n  " ++ session ++ "\n").getD ""
  top ++ access ++ session ++ "\nConnected.\n"

/-! ## Exit statuses -/

inductive ExitStatus where
  | exited (code : Int)
  | signaled (signal : Int)
  | other
  deriving DecidableEq, Repr

def statusCode : ExitStatus → Int
  | .exited code => code
  | .signaled signal => 128 + signal
  | .other => exitFailed

inductive SpawnError where
  | notFound
  | other (message : String)
  deriving DecidableEq, Repr

def spawnErrorCode : SpawnError → Int
  | .notFound => exitNotFound
  | .other _ => exitNotExecutable

example : renderHeader ⟨"alice", "prod", "psql", "gw", [], none⟩ =
    "SkiMasque\n\nIdentity     alice\nPolicy       prod\nApplication  psql\nGateway      gw\n\nConnected.\n" := by decide

end Skimasque.Cli.Exec
