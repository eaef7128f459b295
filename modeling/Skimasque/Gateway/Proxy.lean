import Skimasque.Gateway.AddressPolicy
import Skimasque.Gateway.Request
import Skimasque.Library.History

/-! The innermost services: resolve the target, check each address against the floor, open a socket to the first
that is permitted and answers. -/

set_option autoImplicit false

namespace Skimasque.Gateway
open Library Library.Address Library.History Skimasque.Core

section
variable (oracles : Oracles)

/-- The addresses worth trying, in the resolver's order. -/
def resolve (target : Target) (world : World) : Except Rejection (List SocketAddr) × World :=
  match target.host with
  | .ip ip => (.ok [⟨ip, target.port⟩], world)
  | .name name =>
    let answer := oracles.lookupHost world.calls name target.port
    let world := world.log (.lookupHost name target.port answer)
    match answer with
    | .error error => (.error (.dnsError ("resolving " ++ name ++ ": " ++ error.text)), world)
    | .ok addrs =>
      if addrs.isEmpty then (.error (.dnsError (name ++ " resolved to nothing")), world) else (.ok addrs, world)

/-- The unspecified address of the family, any port. -/
def bindAddress (addr : SocketAddr) : SocketAddr := if addr.ip.isIpv6 then ⟨.v6 0, 0⟩ else ⟨.v4 0, 0⟩

/-- Bind a socket of the right family and connect it. -/
def connectSocket (addr : SocketAddr) (world : World) : Except IoError Socket × World :=
  let bound := oracles.bindUdp world.calls (bindAddress addr)
  let world := world.log (.bindUdp (bindAddress addr) bound)
  match bound with
  | .error error => (.error error, world)
  | .ok socket =>
    let connected := oracles.connectUdp world.calls socket addr
    (connected.map fun _ => socket, world.log (.connectUdp socket addr connected))

def tcpConnectRejection (addr : SocketAddr) (error : IoError) : Rejection :=
  let proxyError := match error.kind with
    | .connectionRefused => "connection_refused"
    | .timedOut => "connection_timeout"
    | .other => "proxy_internal_error"
  (Rejection.new 502 ("could not connect to " ++ addr.text ++ ": " ++ error.text)).withProxyError proxyError

def connectUdpTo (addr : SocketAddr) (world : World) : Except Rejection Accepted × World :=
  let (connected, world) := connectSocket oracles addr world
  match connected with
  | .ok socket => (.ok (.udp socket addr), world)
  | .error error =>
    (.error (.unavailable ("could not open a socket to " ++ addr.text ++ ": " ++ error.text)), world)

def connectTcpTo (addr : SocketAddr) (world : World) : Except Rejection Accepted × World :=
  let connected := oracles.connectTcp world.calls addr
  let world := world.log (.connectTcp addr connected)
  match connected with
  | .ok stream => (.ok (.tcp stream addr), world)
  | .error error => (.error (tcpConnectRejection addr error), world)

/-- The loop over the candidates: a name may resolve to permitted and prohibited addresses. -/
def tryEach (floor : AddressPolicy) (connect : SocketAddr → World → Except Rejection Accepted × World)
    (nothing : Rejection) : Option Rejection → List SocketAddr → World → Except Rejection Accepted × World
  | last, [], world => (.error (last.getD nothing), world)
  | _, addr :: rest, world =>
    match floor.permits addr with
    -- A prohibited address is skipped, not fatal; the last reason is reported if none is left.
    | .error reason => tryEach floor connect nothing (some (.forbidden reason)) rest world
    | .ok () =>
      match connect addr world with
      | (.ok accepted, world) => (.ok accepted, world)
      | (.error rejection, world) => tryEach floor connect nothing (some rejection) rest world

/-- What `open_tunnel` and `open_tcp_tunnel` do with the target of their own protocol: forward to what policy
authorized, or to that target if no policy layer is in the stack. -/
def forward (floor : AddressPolicy) (connect : SocketAddr → World → Except Rejection Accepted × World)
    (request : TunnelRequest) (raw : Target) (world : World) : Except Rejection Accepted × World :=
  let target := (request.authorized.getD (.trusting raw)).target
  match resolve oracles target world with
  | (.error rejection, world) => (.error rejection, world)
  | (.ok candidates, world) =>
    tryEach floor connect (.dnsError (target.text ++ " resolved to nothing")) none candidates world

def openTunnel (floor : AddressPolicy) : Service := fun request world =>
  match request.destination.asUdp with
  | none => (.error (.notImplemented "UdpProxy only serves connect-udp"), world)
  | some raw => forward oracles floor (connectUdpTo oracles) request raw world

def openTcpTunnel (floor : AddressPolicy) : Service := fun request world =>
  match request.destination.asTcp with
  | none => (.error (.notImplemented "TcpProxy only serves connect-tcp"), world)
  | some raw => forward oracles floor (connectTcpTo oracles) request raw world

/-- The proxies a deployment turned on, each with its floor. -/
structure Dispatch where
  udp : Option AddressPolicy
  tcp : Option AddressPolicy
  deriving DecidableEq

def Dispatch.call (dispatch : Dispatch) : Service := fun request world =>
  match request.protocol with
  | .connectUdp =>
    match dispatch.udp with
    | some floor => openTunnel oracles floor request world
    | none => (.error (.notImplemented "this proxy does not serve connect-udp"), world)
  | .connectTcp =>
    match dispatch.tcp with
    | some floor => openTcpTunnel oracles floor request world
    | none => (.error (.notImplemented "this proxy does not serve connect-tcp"), world)
  | .connectIp => (.error (.notImplemented "this proxy does not serve connect-ip"), world)

end

/-! ## What a proxy reaches -/

/-- The protocol and the address a call opens a socket for, if it opens one. -/
def Call.opens : Call → Option (Protocol × SocketAddr)
  | .connectUdp _ peer _ => some (.connectUdp, peer)
  | .connectTcp peer _ => some (.connectTcp, peer)
  | _ => none

/-- A socket is opened for no protocol but one, and to no address that the floor prohibits. -/
def Call.Permitted (protocol : Protocol) (floor : AddressPolicy) (call : Call) : Prop :=
  ∀ via peer, call.opens = some (via, peer) → via = protocol ∧ floor.permits peer = .ok ()

def Dispatch.floor (dispatch : Dispatch) : Protocol → Option AddressPolicy
  | .connectUdp => dispatch.udp
  | .connectTcp => dispatch.tcp
  | .connectIp => none

/-- The address is among those the target resolved to; an IP target is the one address it resolves to. -/
def Resolved (calls : List Call) (target : Target) (addr : SocketAddr) : Prop :=
  match target.host with
  | .ip ip => addr = ⟨ip, target.port⟩
  | .name name => ∃ addrs, Call.lookupHost name target.port (.ok addrs) ∈ calls ∧ addr ∈ addrs

/-- The answer carries the socket that a call of the protocol opened to the peer. -/
def Opened (calls : List Call) (protocol : Protocol) (accepted : Accepted) (peer : SocketAddr) : Prop :=
  match protocol with
  | .connectUdp => ∃ socket, accepted.kind = .udp socket peer ∧ Call.connectUdp socket peer (.ok ()) ∈ calls
  | .connectTcp => ∃ stream, accepted.kind = .tcp stream peer ∧ Call.connectTcp peer (.ok stream) ∈ calls
  | .connectIp => False

section
variable {oracles : Oracles} {floor : AddressPolicy} {protocol : Protocol} {request : TunnelRequest}
  {target : Target} {accepted : Accepted} {world after : World} {result : Except Rejection Accepted}

theorem Opened.peer_eq {calls : List Call} {peer : SocketAddr}
    (opened : Opened calls protocol accepted peer) :
    accepted.peer = some peer := by
  cases protocol with
  | connectUdp =>
    obtain ⟨socket, kind, -⟩ := opened
    simp only [Accepted.peer, kind]
  | connectTcp =>
    obtain ⟨stream, kind, -⟩ := opened
    simp only [Accepted.peer, kind]
  | connectIp => cases opened

/-- How a proxy opens its sockets: to the address it was given, for its own protocol. -/
structure Connects (protocol : Protocol)
    (connect : SocketAddr → World → Except Rejection Accepted × World) : Prop where
  reaches : ∀ addr world result after, connect addr world = (result, after) →
    Continues (fun call => ∀ via peer, call.opens = some (via, peer) → via = protocol ∧ peer = addr)
      world.calls after.calls
  opens : ∀ addr world accepted after, connect addr world = (.ok accepted, after) →
    Opened after.calls protocol accepted addr

theorem connects_tcp : Connects .connectTcp (connectTcpTo oracles) where
  reaches addr world result after connected := by
    have logged : after = world.log (.connectTcp addr (oracles.connectTcp world.calls addr)) := by
      simp only [connectTcpTo] at connected
      split at connected <;> cases connected <;> simp_all
    subst logged
    refine .snoc _ fun via peer opens => ?_
    cases opens
    exact ⟨rfl, rfl⟩
  opens addr world accepted after connected := by
    simp only [connectTcpTo] at connected
    split at connected
    · rename_i stream answered
      cases connected
      exact ⟨stream, rfl, by simp [World.log, answered]⟩
    · cases connected

theorem connectSocket_cases (oracles : Oracles) (addr : SocketAddr) (world : World) :
    (∃ error, connectSocket oracles addr world =
      (.error error, world.log (.bindUdp (bindAddress addr) (.error error)))) ∨
    ∃ socket answer, connectSocket oracles addr world =
      (Except.map (fun _ => socket) answer,
        (world.log (.bindUdp (bindAddress addr) (.ok socket))).log (.connectUdp socket addr answer)) := by
  unfold connectSocket
  cases oracles.bindUdp world.calls (bindAddress addr) with
  | error error => exact .inl ⟨error, rfl⟩
  | ok socket => exact .inr ⟨socket, _, rfl⟩

theorem connects_udp : Connects .connectUdp (connectUdpTo oracles) where
  reaches addr world result after connected := by
    have same : after = (connectSocket oracles addr world).2 := by
      simp only [connectUdpTo] at connected
      split at connected <;> cases connected <;> rfl
    have bound {answer : Except IoError Socket} : Continues
        (fun call => ∀ via peer, call.opens = some (via, peer) → via = .connectUdp ∧ peer = addr) world.calls
        (world.log (.bindUdp (bindAddress addr) answer)).calls := .snoc _ fun _ _ opens => nomatch opens
    rw [same]
    obtain ⟨error, failed⟩ | ⟨socket, answer, opened⟩ := connectSocket_cases oracles addr world
    · rw [failed]
      exact bound
    · rw [opened]
      refine bound.trans (.snoc _ fun via peer opens => ?_)
      cases opens
      exact ⟨rfl, rfl⟩
  opens addr world accepted after connected := by
    obtain ⟨error, failed⟩ | ⟨socket, answer, opened⟩ := connectSocket_cases oracles addr world
    · simp only [connectUdpTo, failed] at connected
      cases connected
    · simp only [connectUdpTo, opened] at connected
      cases answer with
      | error error => cases connected
      | ok done =>
        cases connected
        exact ⟨socket, rfl, List.mem_append_right _ (List.mem_singleton_self _)⟩

theorem tryEach_spec {connect : SocketAddr → World → Except Rejection Accepted × World}
    {nothing : Rejection}
    {last : Option Rejection} {candidates : List SocketAddr} (connects : Connects protocol connect)
    (tried : tryEach floor connect nothing last candidates world = (result, after)) :
    Continues (Call.Permitted protocol floor) world.calls after.calls ∧
      ∀ accepted, result = .ok accepted →
        ∃ peer ∈ candidates, floor.permits peer = .ok () ∧ Opened after.calls protocol accepted peer := by
  -- The log and the last error change with every candidate.
  induction candidates generalizing last world with
  | nil =>
    cases tried
    exact ⟨.refl _, fun _ ok => by cases ok⟩
  | cons addr rest ih =>
    unfold tryEach at tried
    split at tried
    · obtain ⟨continues, accepts⟩ := ih tried
      refine ⟨continues, fun accepted ok => ?_⟩
      obtain ⟨peer, member, permitted⟩ := accepts accepted ok
      exact ⟨peer, List.mem_cons_of_mem _ member, permitted⟩
    · rename_i permitted
      have reached {result : Except Rejection Accepted} {next : World}
          (connected : connect addr world = (result, next)) :
          Continues (Call.Permitted protocol floor) world.calls next.calls := by
        refine (connects.reaches addr world result next connected).mono fun call reaches via peer opens => ?_
        obtain ⟨same, rfl⟩ := reaches via peer opens
        exact ⟨same, permitted⟩
      split at tried
      · rename_i accepted next connected
        cases tried
        refine ⟨reached connected, fun same ok => ?_⟩
        cases ok
        exact ⟨addr, List.mem_cons_self .., permitted, connects.opens addr world _ _ connected⟩
      · rename_i rejection next connected
        obtain ⟨continues, accepts⟩ := ih tried
        refine ⟨(reached connected).trans continues, fun accepted ok => ?_⟩
        obtain ⟨peer, member, opened⟩ := accepts accepted ok
        exact ⟨peer, List.mem_cons_of_mem _ member, opened⟩

theorem resolve_spec (protocol : Protocol) (floor : AddressPolicy)
    {answer : Except Rejection (List SocketAddr)}
    (resolved : resolve oracles target world = (answer, after)) :
    Continues (Call.Permitted protocol floor) world.calls after.calls ∧
      ∀ addrs, answer = .ok addrs → ∀ addr ∈ addrs, Resolved after.calls target addr := by
  unfold resolve at resolved
  unfold Resolved
  split at resolved
  · rename_i ip literal
    cases resolved
    refine ⟨.refl _, fun addrs ok addr member => ?_⟩
    cases ok
    exact List.mem_singleton.mp member
  · rename_i name named
    have looked {answer : Except IoError (List SocketAddr)} : Continues (Call.Permitted protocol floor) world.calls
        (world.log (.lookupHost name target.port answer)).calls := .snoc _ fun _ _ opens => nomatch opens
    dsimp only at resolved
    split at resolved
    · cases resolved
      exact ⟨looked, fun _ ok => by cases ok⟩
    · rename_i addrs answered
      rw [answered] at resolved
      split at resolved
      · cases resolved
        exact ⟨looked, fun _ ok => by cases ok⟩
      · cases resolved
        refine ⟨looked, fun same ok addr member => ?_⟩
        cases ok
        exact ⟨addrs, List.mem_append_right _ (List.mem_singleton_self _), member⟩

/-- What an accepted tunnel leads to: an address the target resolved to, that the floor permits, over a socket the
protocol's own proxy opened. -/
structure Reaches (calls : List Call) (protocol : Protocol) (floor : AddressPolicy) (target : Target)
    (accepted : Accepted) (peer : SocketAddr) : Prop where
  resolved : Resolved calls target peer
  permitted : floor.permits peer = .ok ()
  opened : Opened calls protocol accepted peer

theorem Resolved.continues {calls later : List Call} {property : Call → Prop} {addr : SocketAddr}
    (resolved : Resolved calls target addr) (continues : Continues property calls later) :
    Resolved later target addr := by
  unfold Resolved at *
  split at resolved
  · exact resolved
  · obtain ⟨addrs, looked, member⟩ := resolved
    exact ⟨addrs, continues.mem looked, member⟩

theorem forward_spec {connect : SocketAddr → World → Except Rejection Accepted × World} {raw : Target}
    (connects : Connects protocol connect)
    (forwarded : forward oracles floor connect request raw world = (result, after)) :
    Continues (Call.Permitted protocol floor) world.calls after.calls ∧
      ∀ accepted, result = .ok accepted →
        ∃ peer, Reaches after.calls protocol floor (request.authorized.getD (.trusting raw)).target
          accepted peer := by
  unfold forward at forwarded
  dsimp only at forwarded
  split at forwarded
  · rename_i rejection next resolved
    cases forwarded
    exact ⟨(resolve_spec protocol floor resolved).1, fun _ ok => by cases ok⟩
  · rename_i candidates next resolved
    obtain ⟨early, found⟩ := resolve_spec protocol floor resolved
    obtain ⟨late, opens⟩ := tryEach_spec connects forwarded
    refine ⟨early.trans late, fun accepted ok => ?_⟩
    obtain ⟨peer, member, permitted, opened⟩ := opens accepted ok
    exact ⟨peer, (found candidates rfl peer member).continues late, permitted, opened⟩

/-- A socket is opened only for the protocol, and only to what the floor of its proxy permits. -/
def Dispatch.Permits (dispatch : Dispatch) (protocol : Protocol) (call : Call) : Prop :=
  ∀ via peer, call.opens = some (via, peer) →
    via = protocol ∧ ∃ floor, dispatch.floor protocol = some floor ∧ floor.permits peer = .ok ()

theorem Call.Permitted.dispatched {dispatch : Dispatch} {call : Call}
    (permitted : call.Permitted protocol floor)
    (served : dispatch.floor protocol = some floor) : dispatch.Permits protocol call := by
  intro via peer opens
  obtain ⟨same, allowed⟩ := permitted via peer opens
  exact ⟨same, floor, served, allowed⟩

/-- What the proxies may do for a request whose authorized target is known. -/
structure Dispatch.Served (dispatch : Dispatch) (protocol : Protocol) (target : Target)
    (before after : World) (result : Except Rejection Accepted) : Prop where
  calls : Continues (dispatch.Permits protocol) before.calls after.calls
  accepts : ∀ accepted, result = .ok accepted →
    ∃ floor peer, dispatch.floor protocol = some floor ∧
      Reaches after.calls protocol floor target accepted peer

/-- A request that was authorized reaches its authorized target and nothing else, through the proxy
of its protocol. -/
theorem dispatch_spec {dispatch : Dispatch} {authorized : AuthorizedDestination}
    (attached : request.authorized = some authorized)
    (called : dispatch.call oracles request world = (result, after)) :
    dispatch.Served request.protocol authorized.target world after result := by
  have rejected {rejection : Rejection} (same : (.error rejection, world) = (result, after)) :
      dispatch.Served request.protocol authorized.target world after result := by
    cases same
    exact ⟨.refl _, fun _ ok => by cases ok⟩
  have forwarded {floor : AddressPolicy} {raw : Target}
      {connect : SocketAddr → World → Except Rejection Accepted × World}
      (served : dispatch.floor request.protocol = some floor) (connects : Connects request.protocol connect)
      (same : forward oracles floor connect request raw world = (result, after)) :
      dispatch.Served request.protocol authorized.target world after result := by
    obtain ⟨continues, accepts⟩ := forward_spec connects same
    refine ⟨continues.mono fun call permitted => permitted.dispatched served, fun accepted ok => ?_⟩
    obtain ⟨peer, reaches⟩ := accepts accepted ok
    rw [attached] at reaches
    exact ⟨floor, peer, served, reaches⟩
  -- A transport that is off, or a destination of another protocol, is turned away before any call.
  unfold Dispatch.call at called
  split at called
  · rename_i udp
    split at called
    · rename_i floor served
      unfold openTunnel at called
      split at called
      · exact rejected called
      · exact forwarded (by rw [udp]; exact served) (udp ▸ connects_udp) called
    · exact rejected called
  · rename_i tcp
    split at called
    · rename_i floor served
      unfold openTcpTunnel at called
      split at called
      · exact rejected called
      · exact forwarded (by rw [tcp]; exact served) (tcp ▸ connects_tcp) called
    · exact rejected called
  · exact rejected called

end

end Skimasque.Gateway
