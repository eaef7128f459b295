import Skimasque.Core.Datagram
import Skimasque.Library.Result

/-! A UDP payload inside a context inside a QUIC datagram: two varints and no length. -/

set_option autoImplicit false

namespace Skimasque.Core
open Library

def ContextId.default : ContextId := ⟨0, Nat.zero_le _⟩

namespace ProxyingPayload

def defaultContext (payload : Bytes) : ProxyingPayload := ⟨ContextId.default, payload⟩

/-- `none` where the source's `expect` panics. -/
def encodeInto (payload : ProxyingPayload) (out : Bytes) : Option Bytes := do
  let out ← (Varint.encode payload.context.get out).toOption
  return out ++ payload.payload

def encode (payload : ProxyingPayload) : Option Bytes := payload.encodeInto []

/-- A context id is a varint by construction, so every payload has an encoding, and it reads back. -/
theorem decode_encode (payload : ProxyingPayload) :
    ∃ wire, payload.encode = some wire ∧ ProxyingPayload.decode wire = .ok payload := by
  obtain ⟨bytes, wrote, back⟩ := Varint.take_encode payload.context.fits
  refine ⟨bytes ++ payload.payload, ?_, ?_⟩
  · simp [encode, encodeInto, wrote, Except.toOption]
  · simp only [ProxyingPayload.decode, back, ContextId.new, dif_pos payload.context.fits]
    rfl

end ProxyingPayload

/-- Wrap a UDP payload in the reserved context. -/
def encodePayload (udpPayload : Bytes) : Option Bytes := (ProxyingPayload.defaultContext udpPayload).encode

theorem decodePayload_encodePayload (udpPayload : Bytes) :
    ∃ wire, encodePayload udpPayload = some wire ∧ decodePayload wire = .ok (.udpPayload udpPayload) := by
  obtain ⟨wire, wrote, back⟩ := (ProxyingPayload.defaultContext udpPayload).decode_encode
  refine ⟨wire, wrote, ?_⟩
  rw [decodePayload, back]
  rfl

namespace Datagram

/-- A UDP payload on its way into a QUIC datagram of the tunnel's request stream. -/
def wrap (stream : QuarterStreamId) (udpPayload : Bytes) : Option Bytes := do
  let payload ← encodePayload udpPayload
  encodeHttp3Datagram stream payload

/-- A QUIC datagram on its way out: the stream it is for, and what it is there. -/
def unwrap (wire : Bytes) : Except Error (UInt64 × Incoming) := do
  let (stream, payload) ← decodeHttp3Datagram wire
  let incoming ← decodePayload payload
  return (stream.streamId, incoming)

theorem unwrap_wrap {stream : QuarterStreamId} (legal : stream.get ≤ maxQuarterStreamId) (udpPayload : Bytes) :
    ∃ wire, wrap stream udpPayload = some wire ∧ unwrap wire = .ok (stream.streamId, .udpPayload udpPayload) := by
  obtain ⟨payload, wrapped, unwrapped⟩ := decodePayload_encodePayload udpPayload
  obtain ⟨wire, framed, unframed⟩ := decode_encode legal payload
  refine ⟨wire, by simp [wrap, wrapped, framed], ?_⟩
  simp only [unwrap, unframed, bind, Except.bind, unwrapped, pure, Except.pure]

/-- A client-initiated bidirectional stream has a Quarter Stream ID that fits. -/
theorem fromStreamId_of_request {id : UInt64} (request : id.toNat % 4 = 0) (small : id.toNat < 2 ^ 62) :
    ∃ stream, QuarterStreamId.fromStreamId id = .ok stream ∧ stream.get ≤ maxQuarterStreamId ∧ stream.streamId = id := by
  have derived : QuarterStreamId.fromStreamId id =
      .ok ⟨id.toNat / 4, Nat.lt_of_le_of_lt (Nat.div_mul_le_self _ 4) id.toNat_lt⟩ := by
    unfold QuarterStreamId.fromStreamId
    rw [if_neg (by simp [request])]
  refine ⟨_, derived, ?_, QuarterStreamId.streamId_of_fromStreamId derived⟩
  unfold maxQuarterStreamId
  dsimp only
  omega

/-- What a request stream's payload was wrapped in unwraps to that stream and that payload. -/
theorem unwrap_of_wrap {id : UInt64} {stream : QuarterStreamId} {udpPayload wire : Bytes} (small : id.toNat < 2 ^ 62)
    (derived : QuarterStreamId.fromStreamId id = .ok stream) (wrapped : wrap stream udpPayload = some wire) :
    unwrap wire = .ok (id, .udpPayload udpPayload) := by
  have same := QuarterStreamId.streamId_of_fromStreamId derived
  have product := stream.streamId_toNat
  rw [same] at product
  have legal : stream.get ≤ maxQuarterStreamId := by
    unfold maxQuarterStreamId
    omega
  obtain ⟨again, wrappedAgain, unwrapped⟩ := unwrap_wrap legal udpPayload
  rw [wrapped] at wrappedAgain
  cases wrappedAgain
  rw [unwrapped, same]

theorem get_le_of_decode {wire payload : Bytes} {stream : QuarterStreamId}
    (accepted : decodeHttp3Datagram wire = .ok (stream, payload)) : stream.get ≤ maxQuarterStreamId := by
  unfold decodeHttp3Datagram at accepted
  split at accepted
  · cases accepted
  · rw [Result.bind_eq_ok_iff] at accepted
    obtain ⟨found, inRange, same⟩ := accepted
    cases same
    unfold QuarterStreamId.fromQuarter at inRange
    split at inRange
    · cases inRange
    · rename_i small
      cases inRange
      exact Nat.not_lt.mp small

/-- The multiplication and the division by four undo each other on every stream. -/
theorem fromStreamId_streamId (stream : QuarterStreamId) : QuarterStreamId.fromStreamId stream.streamId = .ok stream := by
  unfold QuarterStreamId.fromStreamId
  simp only [stream.streamId_toNat, Nat.mul_mod_left, ne_eq, not_true_eq_false, if_false, Nat.mul_div_cancel _ (by decide : 0 < 4)]

/-- Framing gives every payload of every request stream back, to that stream and in context 0; no two
streams or payloads share a wire; and a stream read off any wire is framed again without overflow. -/
theorem framing_never_misroutes :
    (∀ (id : UInt64) (udpPayload : Bytes), id.toNat % 4 = 0 → id.toNat < 2 ^ 62 →
      ∃ stream wire, QuarterStreamId.fromStreamId id = .ok stream ∧ wrap stream udpPayload = some wire ∧
        unwrap wire = .ok (id, .udpPayload udpPayload)) ∧
    (∀ (id other : UInt64) (stream otherStream : QuarterStreamId) (udpPayload otherPayload wire : Bytes),
      id.toNat < 2 ^ 62 → other.toNat < 2 ^ 62 →
      QuarterStreamId.fromStreamId id = .ok stream → QuarterStreamId.fromStreamId other = .ok otherStream →
      wrap stream udpPayload = some wire → wrap otherStream otherPayload = some wire →
      id = other ∧ udpPayload = otherPayload) ∧
    ∀ (wire payload : Bytes) (stream : QuarterStreamId), decodeHttp3Datagram wire = .ok (stream, payload) →
      stream.streamId.toNat = stream.get * 4 ∧ stream.streamId.toNat < 2 ^ 62 ∧
        QuarterStreamId.fromStreamId stream.streamId = .ok stream ∧
        ∀ again, ∃ reencoded, encodeHttp3Datagram stream again = some reencoded ∧
          decodeHttp3Datagram reencoded = .ok (stream, again) := by
  refine ⟨fun id udpPayload request small => ?_, ?_, fun wire payload stream accepted => ?_⟩
  · obtain ⟨stream, derived, legal, same⟩ := fromStreamId_of_request request small
    obtain ⟨wire, wrapped, unwrapped⟩ := unwrap_wrap legal udpPayload
    rw [same] at unwrapped
    exact ⟨stream, wire, derived, wrapped, unwrapped⟩
  · intro id other stream otherStream udpPayload otherPayload wire small otherSmall derived otherDerived wrapped otherWrapped
    -- One wire unwraps to one stream and one payload.
    have first := unwrap_of_wrap small derived wrapped
    have second := unwrap_of_wrap otherSmall otherDerived otherWrapped
    rw [first] at second
    cases second
    exact ⟨rfl, rfl⟩
  · have legal := get_le_of_decode accepted
    have product := stream.streamId_toNat
    refine ⟨product, ?_, fromStreamId_streamId stream, decode_encode legal⟩
    unfold maxQuarterStreamId at legal
    omega

end Datagram

end Skimasque.Core
