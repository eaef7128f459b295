import Skimasque.Core.Target
import Skimasque.Engine.Evaluation
import Skimasque.Gateway.Revocation
import Skimasque.Platform.Tenants

/-! Tunnel requests, the two answers to them, and the world a gateway serves them in: the verifier, the
resolver and the sockets answer as they like, and each call to one of them is logged with its answer. -/

set_option autoImplicit false

namespace Skimasque.Gateway
open Library Library.Address Engine Skimasque.Core
open Platform (Map)

/-! ## Requests -/

structure IpScope where
  target : Option String
  protocol : Option UInt8
  deriving DecidableEq, Repr

/-- What the request names, per protocol. -/
inductive Destination where
  | udp (target : Target)
  | tcp (target : Target)
  | ip (scope : IpScope)
  deriving DecidableEq, Repr

def Destination.asUdp : Destination → Option Target
  | .udp target => some target
  | _ => none

def Destination.asTcp : Destination → Option Target
  | .tcp target => some target
  | _ => none

def Destination.asTarget : Destination → Option Target
  | .udp target | .tcp target => some target
  | .ip _ => none

/-- The target a proxy may forward to, and the decision that says so, if there is one. -/
structure AuthorizedDestination where
  target : Target
  decision : Option Allowed
  deriving DecidableEq, Repr

def AuthorizedDestination.trusting (target : Target) : AuthorizedDestination := ⟨target, none⟩

def AuthorizedDestination.fromDecision (target : Target) (decision : Allowed) : AuthorizedDestination :=
  ⟨target, some decision⟩

abbrev HeaderValue := List UInt8

/-- `HeaderValue::to_str`: the text of a value of visible ASCII. -/
def HeaderValue.toStr (value : HeaderValue) : Option String :=
  if value.all fun byte => (32 ≤ byte && byte < 127) || byte == 9 then
    some (String.ofList (value.map fun byte => Char.ofNat byte.toNat))
  else none

/-- A header value of ASCII text. -/
def headerText (text : String) : HeaderValue := text.toList.map fun char => UInt8.ofNat char.toNat

theorem toStr_headerText {text : String} (visible : ∀ c ∈ text.toList, 32 ≤ c.toNat ∧ c.toNat < 127) :
    (headerText text).toStr = some text := by
  have byte (c : Char) (member : c ∈ text.toList) : (UInt8.ofNat c.toNat).toNat = c.toNat := by
    have := visible c member
    rw [UInt8.toNat_ofNat', Nat.mod_eq_of_lt (by omega)]
  have back : (headerText text).map (fun byte => Char.ofNat byte.toNat) = text.toList := by
    rw [headerText, List.map_map]
    refine (List.map_congr_left fun c member => ?_).trans (List.map_id _)
    rw [Function.comp_apply, byte c member, Char.ofNat_toNat]
    rfl
  rw [HeaderValue.toStr, if_pos, back, String.ofList_toList]
  rw [headerText, List.all_map, List.all_eq_true]
  intro c member
  have bounds := visible c member
  have low : (32 : UInt8) ≤ UInt8.ofNat c.toNat := by
    rw [UInt8.le_iff_toNat_le, byte c member]
    exact bounds.1
  have high : UInt8.ofNat c.toNat < 127 := by
    rw [UInt8.lt_iff_toNat_lt, byte c member]
    exact bounds.2
  simp [low, high]

/-- The headers of a request in order, names in lower case. -/
abbrev HeaderMap := List (String × HeaderValue)

/-- `HeaderMap::get`: the first value of a name. -/
def HeaderMap.get (headers : HeaderMap) (name : String) : Option HeaderValue :=
  (headers.find? fun header => header.1 == name).map Prod.snd

/-- What one layer leaves in a request for the next. -/
structure Extensions where
  tenantId : Option String := none
  workload : Option WorkloadIdentity := none
  deriving DecidableEq, Repr

structure TunnelRequest where
  protocol : Protocol
  destination : Destination
  client : SocketAddr
  headers : HeaderMap
  extensions : Extensions
  authorized : Option AuthorizedDestination
  deriving DecidableEq, Repr

namespace TunnelRequest

def target (request : TunnelRequest) : Option Target := request.destination.asTarget

def authorize (request : TunnelRequest) (destination : AuthorizedDestination) : TunnelRequest :=
  { request with authorized := some destination }

def bearerToken (request : TunnelRequest) : Option String :=
  ((request.headers.get "proxy-authorization").bind HeaderValue.toStr).bind (Text.stripPrefix "Bearer ")

def application (request : TunnelRequest) : String :=
  ((request.headers.get "x-masque-application").bind HeaderValue.toStr).getD ""

/-- The policy the client pins, if any. -/
def requestedPolicy (request : TunnelRequest) : Option String :=
  ((request.headers.get "x-masque-policy").bind HeaderValue.toStr).filter (!Text.isEmpty ·)

end TunnelRequest

/-! ## Answers -/

structure Rejection where
  status : Nat
  proxyError : Option String
  detail : String
  headers : List (String × String)
  deriving DecidableEq, Repr

namespace Rejection

def new (status : Nat) (detail : String) : Rejection := ⟨status, none, detail, []⟩

def withProxyError (rejection : Rejection) (error : String) : Rejection :=
  { rejection with proxyError := some error }

def notImplemented (detail : String) : Rejection := new 501 detail

def forbidden (detail : String) : Rejection :=
  (new 403 detail).withProxyError "destination_ip_prohibited"

def dnsError (detail : String) : Rejection := (new 502 detail).withProxyError "dns_error"

def unavailable (detail : String) : Rejection := (new 502 detail).withProxyError "proxy_internal_error"

def proxyAuthRequired (scheme : String) : Rejection :=
  { (new 407 "proxy authentication required").withProxyError "http_request_denied" with
    headers := [("proxy-authenticate", scheme)] }

end Rejection

/-- A handle of the operating system. -/
abbrev Socket := Nat

/-- A rate limiter, with the rate it was made for. The key stands for the limiter itself: an entry
once made is never replaced. -/
structure RateLimiter where
  key : String
  rate : UInt64
  deriving DecidableEq, Repr

structure TunnelLimits where
  bandwidth : Option RateLimiter := none
  packetRate : Option RateLimiter := none
  totalBytes : Option UInt64 := none
  tunnelEnd : Option Revocation.TunnelEnd := none
  deriving DecidableEq, Repr

def TunnelLimits.isEmpty (limits : TunnelLimits) : Bool :=
  limits.bandwidth.isNone && limits.packetRate.isNone && limits.totalBytes.isNone && limits.tunnelEnd.isNone

inductive AcceptedKind where
  | udp (socket : Socket) (peer : SocketAddr)
  | tcp (stream : Socket) (peer : SocketAddr)
  deriving DecidableEq, Repr

/-- A permit of the semaphore under a key, held while the tunnel lives. -/
structure Permit where
  key : String
  deriving DecidableEq, Repr

structure Accepted where
  kind : AcceptedKind
  guards : List Permit := []
  limits : TunnelLimits := {}
  deriving DecidableEq, Repr

namespace Accepted

def udp (socket : Socket) (peer : SocketAddr) : Accepted := { kind := .udp socket peer }

def tcp (stream : Socket) (peer : SocketAddr) : Accepted := { kind := .tcp stream peer }

def hold (accepted : Accepted) (permit : Permit) : Accepted :=
  { accepted with guards := accepted.guards ++ [permit] }

def withLimits (accepted : Accepted) (limits : TunnelLimits) : Accepted := { accepted with limits }

def withEnd (accepted : Accepted) (tunnelEnd : Revocation.TunnelEnd) : Accepted :=
  { accepted with limits := { accepted.limits with tunnelEnd := some tunnelEnd } }

def peer (accepted : Accepted) : Option SocketAddr :=
  match accepted.kind with
  | .udp _ peer | .tcp _ peer => some peer

end Accepted

/-! ## The world -/

inductive ErrorKind where
  | connectionRefused
  | timedOut
  | other
  deriving DecidableEq, Repr

structure IoError where
  kind : ErrorKind
  text : String
  deriving DecidableEq, Repr

/-- A call to something outside, with the answer it got. -/
inductive Call where
  | verify (token : String) (answer : Except String WorkloadIdentity)
  | lookupHost (name : String) (port : UInt16) (answer : Except IoError (List SocketAddr))
  | bindUdp (source : SocketAddr) (answer : Except IoError Socket)
  | connectUdp (socket : Socket) (peer : SocketAddr) (answer : Except IoError Unit)
  | connectTcp (peer : SocketAddr) (answer : Except IoError Socket)

/-- Everything but the verifier reaches the resolver or opens a socket. -/
def Call.isNetwork : Call → Bool
  | .verify _ _ => false
  | _ => true

/-- The answers of everything outside. Each may depend on all the calls before it. -/
structure Oracles where
  verify : List Call → String → Except String WorkloadIdentity
  lookupHost : List Call → String → UInt16 → Except IoError (List SocketAddr)
  bindUdp : List Call → SocketAddr → Except IoError Socket
  connectUdp : List Call → Socket → SocketAddr → Except IoError Unit
  connectTcp : List Call → SocketAddr → Except IoError Socket

structure Semaphore where
  size : Nat
  available : Nat
  deriving DecidableEq, Repr

/-- The tables of a `QuotaLayer`: per key, the permits, and the rates the limiters were made with. -/
structure Quota where
  permits : Map Semaphore
  bandwidth : Map UInt64
  packets : Map UInt64

/-- One line of the audit log, less its time. -/
structure AuditEvent where
  decision : String
  protocol : String
  application : String
  destination : String
  client : String
  identity : WorkloadIdentity
  policy : Option String := none
  rule : Option String := none
  reason : Option String := none
  suggestedRule : Option String := none
  requestedPolicy : Option String := none
  orgId : Option String := none
  deriving DecidableEq, Repr

structure World where
  calls : List Call
  quota : Quota
  audit : List AuditEvent

def World.log (world : World) (call : Call) : World := { world with calls := world.calls ++ [call] }

/-- A service answers a request and leaves the world changed, whichever answer it gives. -/
abbrev Service := TunnelRequest → World → Except Rejection Accepted × World

end Skimasque.Gateway
