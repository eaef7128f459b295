import Skimasque.Library.AddressText

/-! WHERE a workload wants to go, and the patterns a policy matches it with. -/

set_option autoImplicit false

namespace Skimasque.Engine
open Library Library.Address

inductive Host where
  | name (text : String)
  | ip (addr : IpAddr)
  deriving DecidableEq, Repr

structure Destination where
  host : Host
  port : UInt16
  deriving DecidableEq, Repr

def Destination.text (destination : Destination) : String :=
  let host := match destination.host with
    | .name name => name
    | .ip addr => addr.hostText
  host ++ ":" ++ toString destination.port.toNat

/-- `cidr` carries the bound that `DestinationSpec::parse` checks before it builds one. -/
inductive HostPattern where
  | any
  | exact (name : String)
  | suffix (tail : String)
  | ip (addr : IpAddr)
  | cidr (addr : IpAddr) (len : Nat) (bounded : len ≤ addr.width)
  deriving DecidableEq, Repr

inductive PortPattern where
  | any
  | exact (port : UInt16)
  | range (lo hi : UInt16)
  deriving DecidableEq, Repr

def PortPattern.matches (pattern : PortPattern) (port : UInt16) : Bool :=
  match pattern with
  | .any => true
  | .exact p => p == port
  | .range lo hi => lo ≤ port && port ≤ hi

structure DestinationSpec where
  host : HostPattern
  port : PortPattern
  /-- The text the spec was parsed from, which denials quote back. -/
  raw : String
  deriving DecidableEq, Repr

-- The octet lists are as long as the family is wide and `len` is within it, so neither
-- slice nor index below leaves them.
def bitsMatch (net got : List UInt8) (len : Nat) : Bool :=
  let whole := len / 8
  if net.take whole ≠ got.take whole then false
  else
    let remainder := len % 8
    if remainder = 0 then true
    else
      let mask := (0xff : UInt8) <<< UInt8.ofNat (8 - remainder)
      (net.getD whole 0 &&& mask) == (got.getD whole 0 &&& mask)

def cidrContains (addr : IpAddr) (len : Nat) (candidate : IpAddr) : Bool :=
  match addr, candidate with
  | .v4 _, .v4 _ => bitsMatch addr.octets candidate.octets len
  | .v6 _, .v6 _ => bitsMatch addr.octets candidate.octets len
  | _, _ => false

def DestinationSpec.hostMatches (spec : DestinationSpec) (host : Host) : Bool :=
  match spec.host, host with
  | .any, _ => true
  | .exact want, .name got => want == got
  | .suffix tail, .name got => Text.endsWith got tail
  | .ip want, .ip got => want == got
  | .cidr addr len _, .ip got => cidrContains addr len got
  | _, _ => false

def DestinationSpec.matches (spec : DestinationSpec) (destination : Destination) : Bool :=
  spec.port.matches destination.port && spec.hostMatches destination.host

/-! ## Reading destinations and patterns from text -/

inductive ParseDestinationError where
  | empty (value : String)
  | missingPort (value : String)
  | malformed (value reason : String)
  | badPort (value : String)
  | badPrefix (len : UInt16) (family : String)
  deriving DecidableEq, Repr

/-- `host:port`, or nothing to split off: a bracketed address without a port, no colon, or a bare
IPv6 literal whose last colon is not a port separator. -/
def splitHostPort (text : String) : Option (String × String) :=
  match Text.stripPrefix "[" text with
  | some rest => do
    let (addr, after) ← Text.splitOnce ']' rest
    let port ← Text.stripPrefix ":" after
    return (addr, port)
  | none => do
    let (host, port) ← Text.rsplitOnce ':' text
    if Text.contains host ':' then none else some (host, port)

def parsePortPattern (text : String) : Except ParseDestinationError PortPattern :=
  if text = "*" then .ok .any
  else
    match Text.splitOnce '-' text with
    | some (lo, hi) =>
      match Text.parseU16 lo, Text.parseU16 hi with
      | some lo, some hi => if lo = 0 ∨ hi = 0 ∨ hi < lo then .error (.badPort text) else .ok (.range lo hi)
      | _, _ => .error (.badPort text)
    | none =>
      match (Text.parseU16 text).filter (· ≠ 0) with
      | some port => .ok (.exact port)
      | none => .error (.badPort text)

def isRegNameChar (c : Char) : Bool := Text.isAsciiAlphanumeric c || c == '-' || c == '.' || c == '_'

def parseHostLiteral (host : String) : Except ParseDestinationError Host :=
  if Text.isEmpty host then .error (.malformed host "the host is empty")
  else
    let unbracketed := ((Text.stripPrefix "[" host).bind (Text.stripSuffix "]")).getD host
    match AddressText.parseIpAddr unbracketed with
    | some ip => .ok (.ip ip)
    | none =>
      if unbracketed.toList.any fun c => !isRegNameChar c then
        .error (.malformed host "the host contains an illegal character")
      else .ok (.name (Text.toAsciiLowercase unbracketed))

def Destination.parse (input : String) : Except ParseDestinationError Destination :=
  let text := Text.trim input
  if Text.isEmpty text then .error (.empty input)
  else
    match splitHostPort text with
    | none => .error (.missingPort input)
    | some (hostPart, portPart) =>
      match (Text.parseU16 portPart).filter (· ≠ 0) with
      | none => .error (.badPort portPart)
      | some port => do
        let host ← parseHostLiteral hostPart
        return ⟨host, port⟩

def IpAddr.family (addr : IpAddr) : String := if addr.isIpv6 then "IPv6" else "IPv4"

/-- A slash is unambiguous: what has one is a block, and carries no port. -/
def parseCidr (input raw addr len : String) : Except ParseDestinationError DestinationSpec :=
  match AddressText.parseIpAddr addr with
  | none => .error (.malformed input "the part before / is not an IP address")
  | some addr =>
    match Text.parseU16 len with
    | none => .error (.malformed input "the prefix length is not a number")
    | some len =>
      if bounded : len.toNat ≤ addr.width then .ok ⟨.cidr addr len.toNat bounded, .any, raw⟩
      else .error (.badPrefix len (IpAddr.family addr))

def parseHostPattern (input hostPart : String) : Except ParseDestinationError HostPattern :=
  if hostPart = "*" then .ok .any
  else
    match Text.stripPrefix "*." hostPart with
    | some tail =>
      if Text.isEmpty tail || Text.contains tail '*' then
        .error (.malformed input "a wildcard host must be *.<domain>")
      else .ok (.suffix ("." ++ Text.toAsciiLowercase tail))
    | none =>
      match AddressText.parseIpAddr hostPart with
      | some ip => .ok (.ip ip)
      | none => do
        match ← parseHostLiteral hostPart with
        | .name name => return .exact name
        | .ip ip => return .ip ip

def DestinationSpec.parse (input : String) : Except ParseDestinationError DestinationSpec :=
  let text := Text.trim input
  if Text.isEmpty text then .error (.empty input)
  else if text = "*" then .ok ⟨.any, .any, text⟩
  else
    match Text.splitOnce '/' text with
    | some (addr, len) => parseCidr input text addr len
    | none => do
      let (hostPart, port) ← match splitHostPort text with
        | some (host, port) => (parsePortPattern port).map fun pattern => (host, pattern)
        | none => .ok (text, .any)
      let host ← parseHostPattern input hostPart
      return ⟨host, port, text⟩

example : DestinationSpec.parse "*.Example.com:8000-8100" =
    .ok ⟨.suffix ".example.com", .range 8000 8100, "*.Example.com:8000-8100"⟩ := by decide

end Skimasque.Engine
