import Skimasque.Library.AddressText

/-! The target of a proxying request, before it is resolved. -/

set_option autoImplicit false

namespace Skimasque.Core
open Library Library.Address

inductive TargetHost where
  | ip (addr : IpAddr)
  | name (text : String)
  deriving DecidableEq, Repr

def TargetHost.text : TargetHost → String
  | .ip addr => addr.hostText
  | .name text => text

structure Target where
  host : TargetHost
  port : UInt16
  deriving DecidableEq, Repr

def Target.text (target : Target) : String := target.host.text ++ ":" ++ toString target.port.toNat

/-! ## Reading targets from text -/

inductive TargetError where
  | emptyHost
  | invalidPort (port : String)
  | zoneIdentifier (host : String)
  | illegalHost (host : String)
  deriving DecidableEq, Repr

/-- What cannot stand in a reg-name: delimiters, whitespace, control characters. -/
def isIllegalHostChar (c : Char) : Bool :=
  Text.isWhitespace c || Text.isControl c || ['/', '?', '#', '[', ']', '@', ':'].contains c

def TargetHost.parse (host : String) : Except TargetError TargetHost :=
  if Text.isEmpty host then .error .emptyHost
  -- A `%` that survives percent-decoding is a zone id.
  else if Text.contains host '%' then .error (.zoneIdentifier host)
  else
    let unbracketed := ((Text.stripPrefix "[" host).bind (Text.stripSuffix "]")).getD host
    match AddressText.parseIpAddr unbracketed with
    | some addr => .ok (.ip addr)
    | none =>
      if unbracketed.toList.any isIllegalHostChar then .error (.illegalHost host)
      else .ok (.name unbracketed)

def Target.new (host : TargetHost) (port : UInt16) : Except TargetError Target :=
  if port = 0 then .error (.invalidPort "0") else .ok ⟨host, port⟩

/-- Split after the last closing bracket, or else at the last colon, so that IPv6 literals survive. -/
def Target.split (input : String) : Except TargetError (String × String) :=
  match Text.rsplitOnce ']' input with
  | some (front, rest) =>
    match Text.stripPrefix ":" rest with
    | some port => .ok (front ++ "]", port)
    | none => .error (.invalidPort rest)
  | none =>
    match Text.rsplitOnce ':' input with
    | some parts => .ok parts
    | none => .error (.invalidPort "")

def Target.parse (input : String) : Except TargetError Target := do
  let (host, port) ← Target.split input
  match Text.parseU16 port with
  | none => .error (.invalidPort port)
  | some port => Target.new (← TargetHost.parse host) port

/-- The proxying protocol a request asks for. -/
inductive Protocol where
  | connectUdp
  | connectTcp
  | connectIp
  deriving DecidableEq, Repr

def Protocol.upgradeToken : Protocol → String
  | .connectUdp => "connect-udp"
  | .connectTcp => "connect-tcp"
  | .connectIp => "connect-ip"

end Skimasque.Core
