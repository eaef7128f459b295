import Skimasque.Core.Varint

/-! HTTP datagrams: the Quarter Stream ID that says which tunnel a QUIC datagram is for. -/

set_option autoImplicit false

namespace Skimasque.Core

abbrev Bytes := List UInt8

namespace Datagram

/-- The largest legal Quarter Stream ID. -/
def maxQuarterStreamId : Nat := 2 ^ 60 - 1

inductive Error where
  | notARequestStream (streamId : Nat)
  | quarterStreamIdTooLarge (quarter : Nat)
  | truncated (field : String)
  | contextIdTooLarge (value : Nat)
  deriving DecidableEq, Repr

end Datagram

/-- A stream id divided by four. The stream id itself is a `u64`. -/
structure QuarterStreamId where
  get : Nat
  fits : get * 4 < 2 ^ 64
  deriving DecidableEq, Repr

namespace QuarterStreamId

def fromStreamId (streamId : UInt64) : Except Datagram.Error QuarterStreamId :=
  if streamId.toNat % 4 ≠ 0 then .error (.notARequestStream streamId.toNat)
  else .ok ⟨streamId.toNat / 4, Nat.lt_of_le_of_lt (Nat.div_mul_le_self _ 4) streamId.toNat_lt⟩

def fromQuarter (quarter : Nat) : Except Datagram.Error QuarterStreamId :=
  if large : Datagram.maxQuarterStreamId < quarter then .error (.quarterStreamIdTooLarge quarter)
  else .ok ⟨quarter, by unfold Datagram.maxQuarterStreamId at large; omega⟩

def streamId (stream : QuarterStreamId) : UInt64 := UInt64.ofNat (stream.get * 4)

theorem streamId_toNat (stream : QuarterStreamId) : stream.streamId.toNat = stream.get * 4 :=
  UInt64.toNat_ofNat_of_lt' stream.fits

/-- Different Quarter Stream IDs name different streams. -/
theorem streamId_injective : Function.Injective streamId := by
  intro stream other same
  have quarters := congrArg UInt64.toNat same
  rw [streamId_toNat, streamId_toNat] at quarters
  cases stream
  cases other
  simp only [mk.injEq]
  exact Nat.mul_right_cancel (by decide) quarters

theorem streamId_of_fromStreamId {id : UInt64} {stream : QuarterStreamId} (derived : fromStreamId id = .ok stream) :
    stream.streamId = id := by
  unfold fromStreamId at derived
  split at derived
  · cases derived
  · rename_i divisible
    cases derived
    rw [← UInt64.toNat_inj, streamId_toNat]
    dsimp only
    omega

end QuarterStreamId

namespace Datagram

/-- Prefix a payload with its Quarter Stream ID; `none` where the source's `expect` panics. -/
def encodeHttp3Datagram (stream : QuarterStreamId) (payload : Bytes) : Option Bytes := do
  let out ← (Varint.encode stream.get []).toOption
  return out ++ payload

def decodeHttp3Datagram (buf : Bytes) : Except Error (QuarterStreamId × Bytes) :=
  match Varint.take buf with
  | .error _ => .error (.truncated "quarter stream id")
  | .ok (quarter, buf) => do
    let stream ← QuarterStreamId.fromQuarter quarter
    return (stream, buf)

/-- What is sent on a stream is read for that stream. -/
theorem decode_encode {stream : QuarterStreamId} (legal : stream.get ≤ maxQuarterStreamId) (payload : Bytes) :
    ∃ wire, encodeHttp3Datagram stream payload = some wire ∧ decodeHttp3Datagram wire = .ok (stream, payload) := by
  have small : stream.get ≤ Varint.maxValue := by
    unfold maxQuarterStreamId at legal
    unfold Varint.maxValue
    omega
  obtain ⟨bytes, encoded, decoded⟩ := Varint.decodeSlice_encode small
  refine ⟨bytes ++ payload, ?_, ?_⟩
  · unfold encodeHttp3Datagram
    rw [encoded]
    rfl
  · have quarter : QuarterStreamId.fromQuarter stream.get = .ok stream := by
      unfold QuarterStreamId.fromQuarter
      rw [dif_neg (Nat.not_lt.mpr legal)]
    unfold decodeHttp3Datagram Varint.take
    simp only [decoded, Except.map, List.drop_left, quarter]
    rfl

end Datagram

/-! ## Payloads of a tunnel -/

structure ContextId where
  get : Nat
  fits : get ≤ Varint.maxValue
  deriving DecidableEq, Repr

def ContextId.new (value : Nat) : Except Datagram.Error ContextId :=
  if fits : value ≤ Varint.maxValue then .ok ⟨value, fits⟩ else .error (.contextIdTooLarge value)

/-- The reserved context, of UDP payloads and of IP packets. -/
def ContextId.isDefault (context : ContextId) : Bool := context.get == 0

structure ProxyingPayload where
  context : ContextId
  payload : Bytes
  deriving DecidableEq, Repr

def ProxyingPayload.decode (buf : Bytes) : Except Datagram.Error ProxyingPayload :=
  match Varint.take buf with
  | .error _ => .error (.truncated "context id")
  | .ok (context, buf) => do
    let context ← ContextId.new context
    return ⟨context, buf⟩

/-- What a payload on a CONNECT-UDP stream is. -/
inductive Incoming where
  | udpPayload (payload : Bytes)
  | unknownContext (context : ContextId) (payload : Bytes)
  deriving DecidableEq, Repr

def decodePayload (payload : Bytes) : Except Datagram.Error Incoming := do
  let payload ← ProxyingPayload.decode payload
  return if payload.context.isDefault then .udpPayload payload.payload
    else .unknownContext payload.context payload.payload

end Skimasque.Core
