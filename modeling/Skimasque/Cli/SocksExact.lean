import Skimasque.Cli.SocksPacket

/-! The two readers of a SOCKS5 address and its writer agree: what is read is what would be written, no part of a header
is taken for one, and the reader of a stream reads what the reader of a slice does. -/

set_option autoImplicit false

namespace Skimasque.Cli
open Library Library.Address Skimasque.Core

/-! ## The reader of a stream -/

def version : UInt8 := 0x05
def replyAddressTypeNotSupported : UInt8 := 0x08

inductive ReadError where
  | unexpectedEof
  | protocol (error : ProtocolError)
  deriving DecidableEq, Repr

/-- What the client still sends before it closes, and what was sent to it. -/
structure Stream where
  incoming : Bytes
  outgoing : Bytes
  deriving DecidableEq, Repr

abbrev Streaming := ExceptT ReadError (StateM Stream)

/-- A stream that ends early has been read to its end. -/
def readExact (len : Nat) : Streaming Bytes := fun stream =>
  if len ≤ stream.incoming.length then
    (.ok (stream.incoming.take len), { stream with incoming := stream.incoming.drop len })
  else (.error .unexpectedEof, { stream with incoming := [] })

def sendReply (reply : UInt8) (bound : SocksAddress) : Streaming Unit := fun stream =>
  (.ok (), { stream with outgoing := stream.outgoing ++ [version, reply, 0x00] ++ bound.encode })

def unspecifiedAddress : SocksAddress := .ip ⟨.v4 0, 0⟩

/-- `Address::decode` of a buffer that is not needed any more. -/
def decodeBuffer (buffer : Bytes) : Streaming SocksAddress := fun stream =>
  match SocksAddress.decode buffer with
  | .ok (address, _) => (.ok address, stream)
  | .error error => (.error (.protocol error), stream)

def readAddress : Streaming SocksAddress := do
  let atyp := (← readExact 1).getD 0 0
  if atyp = atypIpv4 then do
    let rest ← readExact (4 + 2)
    decodeBuffer (atyp :: rest)
  else if atyp = atypIpv6 then do
    let rest ← readExact (16 + 2)
    decodeBuffer (atyp :: rest)
  else if atyp = atypDomain then do
    let len := (← readExact 1).getD 0 0
    let rest ← readExact (len.toNat + 2)
    decodeBuffer (atyp :: len :: rest)
  else do
    sendReply replyAddressTypeNotSupported unspecifiedAddress
    throw (.protocol (.unsupportedAddressType atyp))

/-! ## What follows is not looked at -/

/-- Unless it had too little, a reader makes the same of its input whatever follows, and leaves what follows. -/
def Settled {α : Type} (read : Bytes → Except ProtocolError (α × Bytes)) : Prop :=
  ∀ front more, read front ≠ .error .truncated →
    read (front ++ more) = (read front).map fun result => (result.1, result.2 ++ more)

section
variable {α β : Type} {read : Bytes → Except ProtocolError (α × Bytes)} {next : α → Bytes → Except ProtocolError (β × Bytes)}

theorem Settled.pure (value : α) : Settled fun input => Except.ok (value, input) := fun _ _ _ => rfl

theorem Settled.error (error : ProtocolError) : Settled fun _ => (Except.error error : Except ProtocolError (α × Bytes)) :=
  fun _ _ _ => rfl

theorem Settled.bind (first : Settled read) (second : ∀ value, Settled (next value)) :
    Settled fun input => read input >>= fun result => next result.1 result.2 := by
  intro front more enough
  have same := first front more
  dsimp only at enough ⊢
  cases taken : read front with
  | error error =>
    rw [taken] at same enough
    have other : (Except.error error : Except ProtocolError (α × Bytes)) ≠ .error .truncated := by
      rintro truncated
      cases truncated
      exact enough rfl
    rw [same other]
    rfl
  | ok result =>
    rw [taken] at same enough
    rw [same nofun]
    exact second result.1 result.2 more enough

theorem Settled.take (len : Nat) : Settled fun input => take input len := by
  intro front more enough
  simp only [Cli.take] at enough ⊢
  split at enough
  · rename_i fits
    have longer : len ≤ (front ++ more).length := by
      rw [List.length_append]
      omega
    rw [if_pos longer, if_pos fits, List.take_append_of_le_length fits, List.drop_append_of_le_length fits]
    rfl
  · exact absurd rfl enough

end

theorem Settled.takePort : Settled takePort :=
  .bind (.take 2) fun bytes => .pure (UInt16.ofNat (BigEndian.shiftIn 0 bytes))

theorem Settled.address (len : Nat) (host : Bytes → IpAddr) : Settled fun rest =>
    Cli.take rest len >>= fun octets => Cli.takePort octets.2 >>= fun port =>
      Except.ok (SocksAddress.ip ⟨host octets.1, port.1⟩, port.2) :=
  .bind (.take len) fun octets => .bind .takePort fun port => .pure (SocksAddress.ip ⟨host octets, port⟩)

/-- A name is read from its bytes, or refused, before the port is looked at. -/
theorem Settled.domain : Settled fun rest => Cli.take rest 1 >>= fun length =>
    Cli.take length.2 (BigEndian.shiftIn 0 length.1) >>= fun bytes =>
      match String.fromUTF8? ⟨bytes.1.toArray⟩ with
      | none => Except.error ProtocolError.invalidDomain
      | some name => Cli.takePort bytes.2 >>= fun port => Except.ok (SocksAddress.domain name port.1, port.2) := by
  have name (bytes : Bytes) : Settled fun rest => match String.fromUTF8? ⟨bytes.toArray⟩ with
      | none => Except.error ProtocolError.invalidDomain
      | some name => Cli.takePort rest >>= fun port => Except.ok (SocksAddress.domain name port.1, port.2) := by
    cases String.fromUTF8? ⟨bytes.toArray⟩ with
    | none => exact .error .invalidDomain
    | some name => exact .bind .takePort fun port => .pure (SocksAddress.domain name port)
  exact .bind (.take 1) fun length => .bind (.take (BigEndian.shiftIn 0 length)) name

theorem Settled.decode : Settled SocksAddress.decode := by
  intro front more enough
  cases front with
  | nil => exact absurd rfl enough
  | cons atyp rest =>
    simp only [List.cons_append, SocksAddress.decode] at enough ⊢
    by_cases v4 : atyp = atypIpv4
    · rw [if_pos v4] at enough ⊢
      rw [if_pos v4]
      exact Settled.address 4 (fun octets => .v4 (BitVec.ofNat 32 (BigEndian.shiftIn 0 octets))) rest more enough
    by_cases v6 : atyp = atypIpv6
    · rw [if_neg v4, if_pos v6] at enough ⊢
      rw [if_neg v4, if_pos v6]
      exact Settled.address 16 (fun octets => .v6 (BitVec.ofNat 128 (BigEndian.shiftIn 0 octets))) rest more enough
    by_cases domain : atyp = atypDomain
    · rw [if_neg v4, if_neg v6, if_pos domain] at enough ⊢
      rw [if_neg v4, if_neg v6, if_pos domain]
      exact Settled.domain rest more enough
    · rw [if_neg v4, if_neg v6, if_neg domain, if_neg v4, if_neg v6, if_neg domain]
      rfl

/-! ## What was read is what would be written -/

theorem take_eq_ok {input taken rest : Bytes} {len : Nat} (took : take input len = .ok (taken, rest)) :
    input = taken ++ rest ∧ taken.length = len := by
  unfold take at took
  split at took
  · rename_i fits
    cases took
    exact ⟨(List.take_append_drop len input).symm, List.length_take_of_le fits⟩
  · cases took

theorem put_of_take {bytes : Bytes} {count : Nat} (long : bytes.length = count) :
    BigEndian.put count (BigEndian.shiftIn 0 bytes) = bytes := by
  rw [← long, BigEndian.put_shiftIn]

theorem takePort_eq_ok {input rest : Bytes} {port : UInt16} (took : takePort input = .ok (port, rest)) :
    input = BigEndian.put 2 port.toNat ++ rest := by
  simp only [takePort, Result.bind_eq_ok_iff] at took
  obtain ⟨⟨bytes, after⟩, tookBytes, made⟩ := took
  cases made
  obtain ⟨whole, long⟩ := take_eq_ok tookBytes
  have low : BigEndian.shiftIn 0 bytes < 2 ^ 16 := by simpa [long] using BigEndian.shiftIn_lt 0 bytes
  rw [UInt16.toNat_ofNat', Nat.mod_eq_of_lt low, put_of_take long, whole]

theorem octets_of_take {bytes : Bytes} :
    (bytes.length = 4 → (IpAddr.v4 (BitVec.ofNat 32 (BigEndian.shiftIn 0 bytes))).octets = bytes) ∧
      (bytes.length = 16 → (IpAddr.v6 (BitVec.ofNat 128 (BigEndian.shiftIn 0 bytes))).octets = bytes) := by
  have low := BigEndian.shiftIn_lt 0 bytes
  constructor
  · intro long
    rw [long] at low
    simp only [IpAddr.octets, BitVec.toNat_ofNat, units_eq_put]
    rw [Nat.mod_eq_of_lt (by omega), put_of_take long]
  · intro long
    rw [long] at low
    simp only [IpAddr.octets, BitVec.toNat_ofNat, units_eq_put]
    rw [Nat.mod_eq_of_lt (by omega), put_of_take long]

theorem SocksAddress.encode_of_decode {input rest : Bytes} {address : SocksAddress}
    (decoded : SocksAddress.decode input = .ok (address, rest)) : input = address.encode ++ rest := by
  unfold SocksAddress.decode at decoded
  split at decoded
  · cases decoded
  rename_i atyp body
  split at decoded
  · rename_i v4
    simp only [Result.bind_eq_ok_iff] at decoded
    obtain ⟨⟨octets, after⟩, tookOctets, ⟨port, back⟩, tookPort, made⟩ := decoded
    cases made
    obtain ⟨whole, long⟩ := take_eq_ok tookOctets
    have later : after = BigEndian.put 2 port.toNat ++ back := takePort_eq_ok tookPort
    simp only [SocksAddress.encode, octets_of_take.1 long]
    rw [whole, later, v4, List.cons_append, List.append_assoc]
  split at decoded
  · rename_i v6
    simp only [Result.bind_eq_ok_iff] at decoded
    obtain ⟨⟨octets, after⟩, tookOctets, ⟨port, back⟩, tookPort, made⟩ := decoded
    cases made
    obtain ⟨whole, long⟩ := take_eq_ok tookOctets
    have later : after = BigEndian.put 2 port.toNat ++ back := takePort_eq_ok tookPort
    simp only [SocksAddress.encode, octets_of_take.2 long]
    rw [whole, later, v6, List.cons_append, List.append_assoc]
  split at decoded
  · rename_i domain
    simp only [Result.bind_eq_ok_iff] at decoded
    obtain ⟨⟨length, afterLength⟩, tookLength, ⟨bytes, afterBytes⟩, tookBytes, named⟩ := decoded
    have short := length_taken tookLength tookBytes
    obtain ⟨whole, one⟩ := take_eq_ok tookLength
    obtain ⟨afterWhole, long⟩ := take_eq_ok tookBytes
    obtain ⟨byte, rfl⟩ := List.length_eq_one_iff.mp one
    split at named
    · cases named
    · rename_i name read
      simp only [Result.bind_eq_ok_iff] at named
      obtain ⟨⟨port, back⟩, tookPort, made⟩ := named
      cases made
      have utf8 := Encoding.utf8_of_fromUTF8 read
      have later : afterBytes = BigEndian.put 2 port.toNat ++ back := takePort_eq_ok tookPort
      have rest : afterLength = bytes ++ afterBytes := afterWhole
      have count : UInt8.ofNat bytes.length = byte := by
        rw [long, BigEndian.shiftIn_cons, Nat.zero_mul, Nat.zero_add]
        exact UInt8.ofNat_toNat
      simp only [SocksAddress.encode, utf8, Nat.min_eq_left short, List.take_length, count]
      rw [whole, rest, later, domain]
      simp
  · cases decoded

/-- No header is found in the start of one. -/
theorem SocksAddress.decode_strict_prefix {address : SocksAddress} (expressible : address.Expressible) {cut left : Bytes}
    (whole : cut ++ left = address.encode) (strict : left ≠ []) : SocksAddress.decode cut = .error .truncated := by
  by_contra enough
  have all := Settled.decode cut left enough
  have read := SocksAddress.decode_encode expressible []
  rw [List.append_nil, ← whole, all] at read
  obtain ⟨⟨other, rest⟩, -, same⟩ := Result.map_eq_ok_iff.mp read
  exact strict (List.append_eq_nil_iff.mp (Prod.mk.inj same).2).2

theorem decodeUdpPacket_strict_prefix {address : SocksAddress} (expressible : address.Expressible) {cut left : Bytes}
    (whole : cut ++ left = encodeUdpPacket address []) (strict : left ≠ []) : decodeUdpPacket cut = .error .truncated := by
  rw [encodeUdpPacket, List.append_nil] at whole
  by_cases long : 3 ≤ cut.length
  · have header : cut = [0, 0, 0] ++ cut.drop 3 := by
      have front := congrArg (List.take 3) whole
      rw [List.take_append_of_le_length long] at front
      exact (List.take_append_drop 3 cut).symm.trans (congrArg (fun front => front ++ cut.drop 3) front)
    rw [header, List.append_assoc] at whole
    have refused := SocksAddress.decode_strict_prefix expressible (List.append_cancel_left whole) strict
    have taken : take ([0, 0, 0] ++ cut.drop 3) 3 = .ok ([0, 0, 0], cut.drop 3) := take_append [0, 0, 0] _ rfl
    rw [header, decodeUdpPacket, taken]
    simp only [bind, Except.bind, refused]
  · rw [decodeUdpPacket, take, if_neg long]
    rfl

/-! ## The two readers -/

section
variable {α β : Type} {x : Streaming α} {f : α → Streaming β} {stream after : Stream}

theorem Streaming.bind_eq_ok_iff {b : β} :
    (x >>= f) stream = (.ok b, after) ↔ ∃ a between, x stream = (.ok a, between) ∧ f a between = (.ok b, after) := by
  simp only [bind, ExceptT.bind, ExceptT.mk, StateT.bind, ExceptT.bindCont]
  cases x stream with
  | mk result between =>
    cases result with
    | error error =>
      constructor
      · rintro failed
        cases failed
      · rintro ⟨a, other, succeeded, -⟩
        cases succeeded
    | ok a =>
      constructor
      · intro later
        exact ⟨a, between, rfl, later⟩
      · rintro ⟨b, other, same, later⟩
        cases same
        exact later

theorem Streaming.bind_ok {a : α} {between : Stream} (ran : x stream = (.ok a, between)) : (x >>= f) stream = f a between := by
  simp only [bind, ExceptT.bind, ExceptT.mk, StateT.bind, ran]
  rfl

end

theorem readExact_append {front rest outgoing : Bytes} {len : Nat} (long : front.length = len) :
    readExact len ⟨front ++ rest, outgoing⟩ = (.ok front, ⟨rest, outgoing⟩) := by
  subst long
  rw [readExact, if_pos (by simp), List.take_left, List.drop_left]

theorem readExact_byte (byte : UInt8) (rest outgoing : Bytes) :
    readExact 1 ⟨byte :: rest, outgoing⟩ = (.ok [byte], ⟨rest, outgoing⟩) := @readExact_append [byte] rest outgoing 1 rfl

theorem readExact_eq_ok_iff {len : Nat} {stream after : Stream} {taken : Bytes} :
    readExact len stream = (.ok taken, after) ↔
      taken.length = len ∧ stream = { after with incoming := taken ++ after.incoming } := by
  unfold readExact
  constructor
  · intro read
    split at read
    · rename_i fits
      cases read
      exact ⟨List.length_take_of_le fits, by simp⟩
    · cases read
  · rintro ⟨rfl, rfl⟩
    rw [if_pos (by simp)]
    simp

theorem decodeBuffer_eq_ok_iff {buffer : Bytes} {stream after : Stream} {address : SocksAddress} :
    decodeBuffer buffer stream = (.ok address, after) ↔
      after = stream ∧ ∃ left, SocksAddress.decode buffer = .ok (address, left) := by
  unfold decodeBuffer
  cases SocksAddress.decode buffer with
  | error error =>
    constructor
    · rintro failed
      cases failed
    · rintro ⟨-, left, failed⟩
      cases failed
  | ok result =>
    constructor
    · rintro read
      cases read
      exact ⟨rfl, result.2, rfl⟩
    · rintro ⟨rfl, left, same⟩
      cases same
      rfl

theorem decodeBuffer_encode {address : SocksAddress} (expressible : address.Expressible) (stream : Stream) :
    decodeBuffer address.encode stream = (.ok address, stream) := by
  have read := SocksAddress.decode_encode expressible []
  rw [List.append_nil] at read
  rw [decodeBuffer, read]

/-- The reader of a stream takes an encoded address off it, and nothing behind it. -/
theorem readAddress_encode {address : SocksAddress} (expressible : address.Expressible) (rest outgoing : Bytes) :
    readAddress ⟨address.encode ++ rest, outgoing⟩ = (.ok address, ⟨rest, outgoing⟩) := by
  have buffer := decodeBuffer_encode expressible ⟨rest, outgoing⟩
  unfold readAddress
  cases address with
  | ip addr =>
    obtain ⟨host, port⟩ := addr
    cases host with
    | v4 bits =>
      have long : ((IpAddr.v4 bits).octets ++ BigEndian.put 2 port.toNat).length = 4 + 2 := by
        simp [octets_length, IpAddr.width]
      rw [SocksAddress.encode, List.cons_append, Streaming.bind_ok (readExact_byte ..)]
      exact (Streaming.bind_ok (readExact_append long)).trans buffer
    | v6 bits =>
      have long : ((IpAddr.v6 bits).octets ++ BigEndian.put 2 port.toNat).length = 16 + 2 := by
        simp [octets_length, IpAddr.width]
      rw [SocksAddress.encode, List.cons_append, Streaming.bind_ok (readExact_byte ..)]
      exact (Streaming.bind_ok (readExact_append long)).trans buffer
  | domain name port =>
    have short : (Encoding.utf8 name).length ≤ 255 := expressible
    have count : (UInt8.ofNat (Encoding.utf8 name).length).toNat = (Encoding.utf8 name).length := by
      rw [UInt8.toNat_ofNat', Nat.mod_eq_of_lt (by omega)]
    have long : (Encoding.utf8 name ++ BigEndian.put 2 port.toNat).length =
        (UInt8.ofNat (Encoding.utf8 name).length).toNat + 2 := by
      rw [List.length_append, BigEndian.put_length, count]
    simp only [SocksAddress.encode, Nat.min_eq_left short, List.take_length] at buffer ⊢
    rw [List.cons_append, List.cons_append, Streaming.bind_ok (readExact_byte ..)]
    apply (Streaming.bind_ok (readExact_byte ..)).trans
    exact (Streaming.bind_ok (readExact_append long)).trans buffer

/-- The reader of a stream finds no address that is not at the start of its bytes. -/
theorem decode_of_readAddress {stream after : Stream} {address : SocksAddress}
    (read : readAddress stream = (.ok address, after)) :
    ∃ rest, SocksAddress.decode stream.incoming = .ok (address, rest) := by
  have whole {buffer left more : Bytes} (decoded : SocksAddress.decode buffer = .ok (address, left)) :
      ∃ rest, SocksAddress.decode (buffer ++ more) = .ok (address, rest) := by
    have settled := Settled.decode buffer more
    rw [decoded] at settled
    exact ⟨_, settled nofun⟩
  unfold readAddress at read
  obtain ⟨first, between, tookFirst, chosen⟩ := Streaming.bind_eq_ok_iff.mp read
  obtain ⟨one, start⟩ := readExact_eq_ok_iff.mp tookFirst
  obtain ⟨atyp, rfl⟩ := List.length_eq_one_iff.mp one
  subst start
  -- The stream is read in pieces that the slice reader finds in one: at its end it has seen them all.
  have fixed {len : Nat} (body : (readExact len >>= fun rest => decodeBuffer (atyp :: rest)) between = (.ok address, after)) :
      ∃ rest, SocksAddress.decode ([atyp] ++ between.incoming) = .ok (address, rest) := by
    obtain ⟨taken, last, took, buffer⟩ := Streaming.bind_eq_ok_iff.mp body
    obtain ⟨-, rfl⟩ := readExact_eq_ok_iff.mp took
    obtain ⟨rfl, left, decoded⟩ := decodeBuffer_eq_ok_iff.mp buffer
    exact @whole (atyp :: taken) left _ decoded
  dsimp only [List.getD_cons_zero] at chosen
  split at chosen
  · exact fixed chosen
  split at chosen
  · exact fixed chosen
  split at chosen
  · obtain ⟨length, second, tookLength, later⟩ := Streaming.bind_eq_ok_iff.mp chosen
    obtain ⟨one, rfl⟩ := readExact_eq_ok_iff.mp tookLength
    obtain ⟨byte, rfl⟩ := List.length_eq_one_iff.mp one
    obtain ⟨taken, last, took, buffer⟩ := Streaming.bind_eq_ok_iff.mp later
    obtain ⟨-, rfl⟩ := readExact_eq_ok_iff.mp took
    obtain ⟨rfl, left, decoded⟩ := decodeBuffer_eq_ok_iff.mp buffer
    exact @whole (atyp :: byte :: taken) left _ decoded
  · obtain ⟨_, _, -, thrown⟩ := Streaming.bind_eq_ok_iff.mp chosen
    cases thrown

/-- Addresses are read exactly as they are written, and by both readers alike. -/
theorem socks_codec_is_exact :
    (∀ input address rest, SocksAddress.decode input = .ok (address, rest) →
      input = address.encode ++ rest ∧
      (∀ payload, decodeUdpPacket (encodeUdpPacket address payload) = .ok (0, address, payload)) ∧
      (∀ cut left, cut ++ left = address.encode → left ≠ [] → SocksAddress.decode cut = .error .truncated) ∧
      ∀ cut left, cut ++ left = encodeUdpPacket address [] → left ≠ [] → decodeUdpPacket cut = .error .truncated) ∧
    ∀ stream : Stream, match SocksAddress.decode stream.incoming with
      | .ok (address, rest) => readAddress stream = (.ok address, { stream with incoming := rest })
      | .error _ => ∃ error after, readAddress stream = (.error error, after) := by
  constructor
  · intro input address rest decoded
    have expressible := SocksAddress.expressible_of_decode decoded
    exact ⟨SocksAddress.encode_of_decode decoded, decodeUdpPacket_encodeUdpPacket expressible,
      fun cut left => SocksAddress.decode_strict_prefix expressible, fun cut left => decodeUdpPacket_strict_prefix expressible⟩
  · intro stream
    cases decoded : SocksAddress.decode stream.incoming with
    | ok result =>
      have whole := SocksAddress.encode_of_decode decoded
      have read := readAddress_encode (SocksAddress.expressible_of_decode decoded) result.2 stream.outgoing
      rw [← whole] at read
      exact read
    | error refused =>
      -- An address read from the stream would be one in the slice.
      cases read : readAddress stream with
      | mk result after =>
        cases result with
        | error error => exact ⟨error, after, rfl⟩
        | ok address =>
          obtain ⟨rest, found⟩ := decode_of_readAddress read
          rw [decoded] at found
          cases found

end Skimasque.Cli
