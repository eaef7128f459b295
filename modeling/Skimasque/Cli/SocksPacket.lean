import Skimasque.Core.Datagram
import Skimasque.Core.Target
import Skimasque.Library.BigEndian
import Skimasque.Library.Encoding
import Skimasque.Library.Result

/-! The SOCKS5 wire form of an address, and of a datagram that is relayed to or from one. -/

set_option autoImplicit false

namespace Skimasque.Cli
open Library Library.Address Skimasque.Core

inductive ProtocolError where
  | wrongVersion (version : UInt8)
  | unsupportedAddressType (atyp : UInt8)
  | truncated
  | invalidDomain
  deriving DecidableEq, Repr

/-- A literal endpoint, or a name that the proxy will resolve. -/
inductive SocksAddress where
  | ip (addr : SocketAddr)
  | domain (name : String) (port : UInt16)
  deriving DecidableEq, Repr

def atypIpv4 : UInt8 := 0x01
def atypDomain : UInt8 := 0x03
def atypIpv6 : UInt8 := 0x04

def take (input : Bytes) (len : Nat) : Except ProtocolError (Bytes × Bytes) :=
  if len ≤ input.length then .ok (input.take len, input.drop len) else .error .truncated

def takePort (input : Bytes) : Except ProtocolError (UInt16 × Bytes) := do
  let (bytes, rest) ← take input 2
  return (UInt16.ofNat (BigEndian.shiftIn 0 bytes), rest)

/-- The address at the front, and what follows it. -/
def SocksAddress.decode (input : Bytes) : Except ProtocolError (SocksAddress × Bytes) :=
  match input with
  | [] => .error .truncated
  | atyp :: rest =>
    if atyp = atypIpv4 then do
      let (octets, rest) ← take rest 4
      let (port, rest) ← takePort rest
      return (.ip ⟨.v4 (BitVec.ofNat 32 (BigEndian.shiftIn 0 octets)), port⟩, rest)
    else if atyp = atypIpv6 then do
      let (octets, rest) ← take rest 16
      let (port, rest) ← takePort rest
      return (.ip ⟨.v6 (BitVec.ofNat 128 (BigEndian.shiftIn 0 octets)), port⟩, rest)
    else if atyp = atypDomain then do
      let (length, rest) ← take rest 1
      let (bytes, rest) ← take rest (BigEndian.shiftIn 0 length)
      match String.fromUTF8? ⟨bytes.toArray⟩ with
      | none => .error .invalidDomain
      | some name =>
        let (port, rest) ← takePort rest
        return (.domain name port, rest)
    else .error (.unsupportedAddressType atyp)

/-- A name of more than 255 bytes is cut there. -/
def SocksAddress.encode : SocksAddress → Bytes
  | .ip ⟨.v4 bits, port⟩ => atypIpv4 :: ((IpAddr.v4 bits).octets ++ BigEndian.put 2 port.toNat)
  | .ip ⟨.v6 bits, port⟩ => atypIpv6 :: ((IpAddr.v6 bits).octets ++ BigEndian.put 2 port.toNat)
  | .domain name port =>
    let bytes := Encoding.utf8 name
    let length := min bytes.length 255
    atypDomain :: UInt8.ofNat length :: (bytes.take length ++ BigEndian.put 2 port.toNat)

def SocksAddress.toTarget : SocksAddress → Except TargetError Target
  | .ip addr => Target.new (.ip addr.ip) addr.port
  | .domain name port => do Target.new (← TargetHost.parse name) port

/-- `RSV(2) FRAG(1) ATYP+ADDR+PORT DATA`. -/
def decodeUdpPacket (packet : Bytes) : Except ProtocolError (UInt8 × SocksAddress × Bytes) := do
  let (header, rest) ← take packet 3
  let (destination, payload) ← SocksAddress.decode rest
  return (header.getD 2 0, destination, payload)

def encodeUdpPacket (source : SocksAddress) (payload : Bytes) : Bytes := [0, 0, 0] ++ source.encode ++ payload

/-! ## Reading what was written -/

theorem take_append (front rest : Bytes) {len : Nat} (fits : front.length = len) :
    take (front ++ rest) len = .ok (front, rest) := by
  subst fits
  rw [take, if_pos (by simp), List.take_left, List.drop_left]

theorem takePort_put (port : UInt16) (rest : Bytes) : takePort (BigEndian.put 2 port.toNat ++ rest) = .ok (port, rest) := by
  have value : BigEndian.shiftIn 0 (BigEndian.put 2 port.toNat) = port.toNat := by
    rw [BigEndian.shiftIn_put, Nat.zero_mul, Nat.zero_add]
    exact Nat.mod_eq_of_lt port.toNat_lt
  simp only [takePort, take_append _ rest (BigEndian.put_length 2 port.toNat), bind, Except.bind, pure, Except.pure, value,
    UInt16.ofNat_toNat]

/-- The address has a wire form of its own: a name fits in its length byte. -/
def SocksAddress.Expressible : SocksAddress → Prop
  | .ip _ => True
  | .domain name _ => (Encoding.utf8 name).length ≤ 255

theorem SocksAddress.decode_encode {address : SocksAddress} (expressible : address.Expressible) (rest : Bytes) :
    SocksAddress.decode (address.encode ++ rest) = .ok (address, rest) := by
  cases address with
  | ip addr =>
    obtain ⟨host, port⟩ := addr
    have bits {w : Nat} (value : BitVec w) : BitVec.ofNat w value.toNat = value := by simp
    cases host with
    | v4 value =>
      have octets (after : Bytes) : take ((IpAddr.v4 value).octets ++ after) 4 = .ok ((IpAddr.v4 value).octets, after) :=
        take_append _ after (by simp [IpAddr.octets, units])
      have number : BigEndian.shiftIn 0 (IpAddr.v4 value).octets = value.toNat := shiftIn_octets (.v4 value)
      simp only [SocksAddress.encode, List.cons_append, List.append_assoc, SocksAddress.decode]
      rw [if_pos trivial]
      simp only [octets, bind, Except.bind, pure, Except.pure, takePort_put, number, bits]
    | v6 value =>
      have octets (after : Bytes) : take ((IpAddr.v6 value).octets ++ after) 16 = .ok ((IpAddr.v6 value).octets, after) :=
        take_append _ after (by simp [IpAddr.octets, units])
      have number : BigEndian.shiftIn 0 (IpAddr.v6 value).octets = value.toNat := shiftIn_octets (.v6 value)
      simp only [SocksAddress.encode, List.cons_append, List.append_assoc, SocksAddress.decode]
      rw [if_neg (by decide), if_pos trivial]
      simp only [octets, bind, Except.bind, pure, Except.pure, takePort_put, number, bits]
  | domain name port =>
    have short : (Encoding.utf8 name).length ≤ 255 := expressible
    have all : (Encoding.utf8 name).take (min (Encoding.utf8 name).length 255) = Encoding.utf8 name := by
      rw [Nat.min_eq_left short, List.take_length]
    have count : BigEndian.shiftIn 0 [UInt8.ofNat (min (Encoding.utf8 name).length 255)] = (Encoding.utf8 name).length := by
      rw [Nat.min_eq_left short]
      simp only [BigEndian.shiftIn, List.foldl_cons, List.foldl_nil, BigEndian.shift_or_byte, UInt8.toNat_ofNat']
      omega
    have lengthByte (after : Bytes) : take (UInt8.ofNat (min (Encoding.utf8 name).length 255) :: after) 1 =
        .ok ([UInt8.ofNat (min (Encoding.utf8 name).length 255)], after) := take_append [_] after rfl
    have bytes := take_append (Encoding.utf8 name) (BigEndian.put 2 port.toNat ++ rest) rfl
    simp only [SocksAddress.encode, List.cons_append, List.append_assoc, SocksAddress.decode, all]
    rw [if_neg (by decide), if_neg (by decide), if_pos trivial]
    simp only [lengthByte, bind, Except.bind, pure, Except.pure, count, bytes, Encoding.fromUTF8_utf8, takePort_put]

/-- A length byte counts no more than 255 bytes. -/
theorem length_taken {input length afterLength bytes afterBytes : Bytes} (tookLength : take input 1 = .ok (length, afterLength))
    (tookBytes : take afterLength (BigEndian.shiftIn 0 length) = .ok (bytes, afterBytes)) : bytes.length ≤ 255 := by
  unfold take at tookLength tookBytes
  split at tookLength
  · cases tookLength
    split at tookBytes
    · cases tookBytes
      have bound := BigEndian.shiftIn_lt 0 (input.take 1)
      have short : (input.take 1).length ≤ 1 := List.length_take_le ..
      have power : 256 ^ (input.take 1).length ≤ 256 ^ 1 := Nat.pow_le_pow_right (by decide) short
      rw [List.length_take]
      omega
    · cases tookBytes
  · cases tookLength

theorem SocksAddress.expressible_of_decode {input rest : Bytes} {address : SocksAddress}
    (decoded : SocksAddress.decode input = .ok (address, rest)) : address.Expressible := by
  unfold SocksAddress.decode at decoded
  split at decoded
  · cases decoded
  split at decoded
  · simp only [Result.bind_eq_ok_iff] at decoded
    obtain ⟨_, _, _, _, same⟩ := decoded
    cases same
    trivial
  split at decoded
  · simp only [Result.bind_eq_ok_iff] at decoded
    obtain ⟨_, _, _, _, same⟩ := decoded
    cases same
    trivial
  split at decoded
  · simp only [Result.bind_eq_ok_iff] at decoded
    obtain ⟨⟨length, afterLength⟩, tookLength, ⟨bytes, afterBytes⟩, tookBytes, named⟩ := decoded
    split at named
    · cases named
    · rename_i name read
      simp only [Result.bind_eq_ok_iff] at named
      obtain ⟨_, _, same⟩ := named
      cases same
      change (Encoding.utf8 name).length ≤ 255
      rw [Encoding.utf8_of_fromUTF8 read]
      exact length_taken tookLength tookBytes
  · cases decoded

theorem expressible_of_decodeUdpPacket {packet payload : Bytes} {frag : UInt8} {address : SocksAddress}
    (decoded : decodeUdpPacket packet = .ok (frag, address, payload)) : address.Expressible := by
  unfold decodeUdpPacket at decoded
  simp only [Result.bind_eq_ok_iff] at decoded
  obtain ⟨_, _, ⟨_, _⟩, read, whole⟩ := decoded
  simp only [pure, Except.pure, Except.ok.injEq, Prod.mk.injEq] at whole
  obtain ⟨_, rfl, rfl⟩ := whole
  exact SocksAddress.expressible_of_decode read

theorem decodeUdpPacket_encodeUdpPacket {address : SocksAddress} (expressible : address.Expressible) (payload : Bytes) :
    decodeUdpPacket (encodeUdpPacket address payload) = .ok (0, address, payload) := by
  have header : take ([0, 0, 0] ++ (address.encode ++ payload)) 3 = .ok ([0, 0, 0], address.encode ++ payload) :=
    take_append [0, 0, 0] _ rfl
  rw [decodeUdpPacket, encodeUdpPacket, List.append_assoc, header]
  simp only [bind, Except.bind, pure, Except.pure, SocksAddress.decode_encode expressible]
  rfl

end Skimasque.Cli
