import Skimasque.Core.Varint
import Skimasque.Library.Incremental

/-! The Capsule Protocol: type-length-value tuples, reassembled from the chunks of a stream. -/

set_option autoImplicit false

namespace Skimasque.Core

open Library

abbrev CapsuleType := Nat

def CapsuleType.datagram : CapsuleType := 0x00
def CapsuleType.addressAssign : CapsuleType := 0x01
def CapsuleType.addressRequest : CapsuleType := 0x02
def CapsuleType.routeAdvertisement : CapsuleType := 0x03

/-- One capsule, with its value still opaque. -/
structure Capsule where
  kind : CapsuleType
  value : List UInt8
  deriving DecidableEq, Repr

namespace Capsule

inductive Error where
  | valueTooLarge (kind : CapsuleType) (len : Nat) (max : Nat)
  | incompleteAtEndOfStream (buffered : Nat)
  deriving DecidableEq, Repr

/-- The type and length fields; `none` where the source's `expect` panics. -/
def writeHeader (kind : CapsuleType) (valueLen : Nat) (out : List UInt8) : Option (List UInt8) := do
  let out ← (Varint.encode kind out).toOption
  (Varint.encode valueLen out).toOption

def encodeInto (capsule : Capsule) (out : List UInt8) : Option (List UInt8) := do
  let out ← writeHeader capsule.kind capsule.value.length out
  return out ++ capsule.value

def encode (capsule : Capsule) : Option (List UInt8) := capsule.encodeInto []

/-- The encoding of a capsule that has one. -/
def bytes (capsule : Capsule) : List UInt8 := capsule.encode.getD []

/-- The encodings one after the other. -/
def encodeAll : List Capsule → Option (List UInt8)
  | [] => some []
  | capsule :: rest => do
    let front ← capsule.encode
    let back ← encodeAll rest
    return front ++ back

end Capsule

def defaultMaxValueLen : Nat := 64 * 1024

structure CapsuleDecoder where
  buf : List UInt8
  maxValueLen : Nat
  deriving DecidableEq, Repr

namespace CapsuleDecoder

def withMaxValueLen (maxValueLen : Nat) : CapsuleDecoder := ⟨[], maxValueLen⟩

def new : CapsuleDecoder := withMaxValueLen defaultMaxValueLen

def push (decoder : CapsuleDecoder) (chunk : List UInt8) : CapsuleDecoder :=
  { decoder with buf := decoder.buf ++ chunk }

def buffered (decoder : CapsuleDecoder) : Nat := decoder.buf.length

/-- Pop the next complete capsule, or `none` if more bytes are needed. -/
def nextCapsule (decoder : CapsuleDecoder) : Except Capsule.Error (Option Capsule) × CapsuleDecoder :=
  match Varint.decodeSlice decoder.buf with
  | .error _ => (.ok none, decoder)
  | .ok (kind, typeLen) =>
    match Varint.decodeSlice (decoder.buf.drop typeLen) with
    | .error _ => (.ok none, decoder)
    | .ok (valueLen, lenLen) =>
      -- The declared length is checked before it is waited for.
      if decoder.maxValueLen < valueLen then
        (.error (.valueTooLarge kind valueLen decoder.maxValueLen), decoder)
      else
        let headerLen := typeLen + lenLen
        let total := headerLen + valueLen
        if decoder.buf.length < total then (.ok none, decoder)
        else
          let rest := decoder.buf.drop headerLen
          (.ok (some ⟨kind, rest.take valueLen⟩), { decoder with buf := rest.drop valueLen })

def finish (decoder : CapsuleDecoder) : Except Capsule.Error Unit :=
  if decoder.buf.isEmpty then .ok () else .error (.incompleteAtEndOfStream decoder.buf.length)

@[simp] theorem push_buf (decoder : CapsuleDecoder) (chunk : List UInt8) :
    (decoder.push chunk).buf = decoder.buf ++ chunk := rfl

@[simp] theorem withMaxValueLen_buf (max : Nat) : (withMaxValueLen max).buf = [] := rfl

@[simp] theorem withMaxValueLen_maxValueLen (max : Nat) : (withMaxValueLen max).maxValueLen = max := rfl

@[simp] theorem push_maxValueLen (decoder : CapsuleDecoder) (chunk : List UInt8) :
    (decoder.push chunk).maxValueLen = decoder.maxValueLen := rfl

/-! ## What one poll can do -/

/-- A header that has arrived whole: the type, the declared length and the bytes they take. -/
def Header (input : List UInt8) (kind valueLen headerLen : Nat) : Prop :=
  ∃ typeLen lenLen, Varint.decodeSlice input = .ok (kind, typeLen) ∧
    Varint.decodeSlice (input.drop typeLen) = .ok (valueLen, lenLen) ∧ headerLen = typeLen + lenLen

theorem header_append {input : List UInt8} {kind valueLen headerLen : Nat}
    (header : Header input kind valueLen headerLen) (more : List UInt8) :
    Header (input ++ more) kind valueLen headerLen := by
  obtain ⟨typeLen, lenLen, decodedKind, decodedLen, rfl⟩ := header
  have inside := (Varint.decodeSlice_ok decodedKind).2.1
  refine ⟨typeLen, lenLen, Varint.decodeSlice_append decodedKind more, ?_, rfl⟩
  rw [List.drop_append_of_le_length inside]
  exact Varint.decodeSlice_append decodedLen more

theorem header_bounds {input : List UInt8} {kind valueLen headerLen : Nat}
    (header : Header input kind valueLen headerLen) : 0 < headerLen ∧ headerLen ≤ input.length := by
  obtain ⟨typeLen, lenLen, decodedKind, decodedLen, rfl⟩ := header
  have first := Varint.decodeSlice_ok decodedKind
  have second := Varint.decodeSlice_ok decodedLen
  rw [List.length_drop] at second
  omega

/-- Every poll waits, refuses the declared length, or takes one capsule off the front. -/
inductive Polled (decoder : CapsuleDecoder) :
    Except Capsule.Error (Option Capsule) × CapsuleDecoder → Prop where
  | waits : Polled decoder (.ok none, decoder)
  | refuses {kind valueLen headerLen : Nat} (header : Header decoder.buf kind valueLen headerLen)
      (large : decoder.maxValueLen < valueLen) :
      Polled decoder (.error (.valueTooLarge kind valueLen decoder.maxValueLen), decoder)
  | takes {kind valueLen headerLen : Nat} (header : Header decoder.buf kind valueLen headerLen)
      (small : valueLen ≤ decoder.maxValueLen) (arrived : headerLen + valueLen ≤ decoder.buf.length) :
      Polled decoder (.ok (some ⟨kind, (decoder.buf.drop headerLen).take valueLen⟩),
        { decoder with buf := (decoder.buf.drop headerLen).drop valueLen })

theorem nextCapsule_polled (decoder : CapsuleDecoder) : Polled decoder decoder.nextCapsule := by
  unfold nextCapsule
  split
  · exact .waits
  rename_i kind typeLen decodedKind
  split
  · exact .waits
  rename_i valueLen lenLen decodedLen
  have header : Header decoder.buf kind valueLen (typeLen + lenLen) :=
    ⟨typeLen, lenLen, decodedKind, decodedLen, rfl⟩
  split
  · exact .refuses header ‹_›
  dsimp only
  split
  · exact .waits
  · exact .takes header (Nat.not_lt.mp ‹_›) (Nat.not_lt.mp ‹_›)

theorem nextCapsule_header {decoder : CapsuleDecoder} {kind valueLen headerLen : Nat}
    (header : Header decoder.buf kind valueLen headerLen) :
    decoder.nextCapsule =
      if decoder.maxValueLen < valueLen then
        (.error (.valueTooLarge kind valueLen decoder.maxValueLen), decoder)
      else if decoder.buf.length < headerLen + valueLen then (.ok none, decoder)
      else (.ok (some ⟨kind, (decoder.buf.drop headerLen).take valueLen⟩),
        { decoder with buf := (decoder.buf.drop headerLen).drop valueLen }) := by
  obtain ⟨typeLen, lenLen, decodedKind, decodedLen, rfl⟩ := header
  simp only [nextCapsule, decodedKind, decodedLen]

/-- The decoder as an incremental decoder of the library. -/
def incremental : Incremental.Decoder UInt8 Capsule Capsule.Error CapsuleDecoder where
  push := push
  poll := nextCapsule
  held := buffered
  held_push decoder chunk := List.length_append
  push_nil decoder := by simp [push]
  push_push decoder first second := by simp [push]
  -- More input moves the end of the buffer only; the capsule is cut from its front.
  poll_item := by
    intro decoder capsule after polled
    have outcome := nextCapsule_polled decoder
    rw [polled] at outcome
    cases outcome with
    | @takes kind valueLen headerLen header small arrived =>
      have bounds := header_bounds header
      constructor
      · simp only [buffered, List.length_drop]
        omega
      · intro more
        rw [nextCapsule_header (header_append header more), push_maxValueLen, if_neg (Nat.not_lt.mpr small),
          if_neg (by rw [push_buf, List.length_append]; omega)]
        have inside : valueLen ≤ (decoder.buf.drop headerLen).length := by rw [List.length_drop]; omega
        rw [push_buf, List.drop_append_of_le_length bounds.2, List.take_append_of_le_length inside,
          List.drop_append_of_le_length inside]
        rfl
  poll_wait := by
    intro decoder after polled
    have outcome := nextCapsule_polled decoder
    rw [polled] at outcome
    cases outcome with
    | waits => rfl
  poll_error := by
    intro decoder error after polled
    have outcome := nextCapsule_polled decoder
    rw [polled] at outcome
    cases outcome with
    | refuses header large =>
      refine ⟨rfl, fun more => ?_⟩
      rw [nextCapsule_header (header_append header more), push_maxValueLen, if_pos large]

/-! ## Reading back what was encoded -/

/-- An encoding is a header for the value's length and then the value. -/
theorem header_encode {capsule : Capsule} {wire : List UInt8} (encoded : capsule.encode = some wire) :
    ∃ fields, wire = fields ++ capsule.value ∧
      ∀ more, Header (fields ++ more) capsule.kind capsule.value.length fields.length := by
  have within {value : Nat} {out wrote : List UInt8} (ok : (Varint.encode value out).toOption = some wrote) :
      value ≤ Varint.maxValue := by
    unfold Varint.encode at ok
    split at ok
    · simp [Except.toOption] at ok
    · omega
  simp only [Capsule.encode, Capsule.encodeInto, Capsule.writeHeader, bind, Option.bind_eq_some_iff, pure,
    Option.some.injEq] at encoded
  obtain ⟨out, ⟨kindOut, kindWrote, lenWrote⟩, rfl⟩ := encoded
  -- Both fields were written, so both fit, and each reads back whatever follows it.
  obtain ⟨kindBytes, kindIs, kindBack⟩ := Varint.decodeSlice_encode (within kindWrote)
  obtain ⟨lenBytes, lenIs, lenBack⟩ := Varint.decodeSlice_encode (within lenWrote)
  rw [kindIs] at kindWrote
  rw [lenIs] at lenWrote
  cases kindWrote
  cases lenWrote
  refine ⟨kindBytes ++ lenBytes, by simp, fun more => ⟨kindBytes.length, lenBytes.length, ?_, ?_, by simp⟩⟩
  · rw [List.append_assoc]
    exact kindBack _
  · rw [List.append_assoc, List.drop_left]
    exact lenBack more

theorem nextCapsule_encode {capsule : Capsule} {wire : List UInt8} {max : Nat}
    (encoded : capsule.encode = some wire)
    (short : capsule.value.length ≤ max) (more : List UInt8) :
    ((withMaxValueLen max).push (wire ++ more)).nextCapsule =
      (.ok (some capsule), (withMaxValueLen max).push more) := by
  obtain ⟨fields, rfl, header⟩ := header_encode encoded
  have start : ((withMaxValueLen max).push (fields ++ capsule.value ++ more)).buf = fields ++ (capsule.value ++ more) := by
    simp
  rw [nextCapsule_header (by rw [start]; exact header _), push_maxValueLen, withMaxValueLen_maxValueLen, start,
    if_neg (Nat.not_lt.mpr short), if_neg (by simp), List.drop_left, List.take_left, List.drop_left]
  simp [withMaxValueLen, push]

theorem encode_exists {capsule : Capsule} (kind : capsule.kind ≤ Varint.maxValue)
    (len : capsule.value.length ≤ Varint.maxValue) : ∃ wire, capsule.encode = some wire := by
  obtain ⟨kindBytes, kindIs, -⟩ := Varint.decodeSlice_encode kind
  obtain ⟨lenBytes, lenIs, -⟩ := Varint.decodeSlice_encode len
  exact ⟨_, by simp [Capsule.encode, Capsule.encodeInto, Capsule.writeHeader, kindIs, lenIs, Except.toOption]; rfl⟩

theorem encodeAll_eq_some_iff {capsules : List Capsule} {wire : List UInt8} :
    Capsule.encodeAll capsules = some wire ↔
      (∀ c ∈ capsules, c.encode = some c.bytes) ∧ capsules.flatMap Capsule.bytes = wire := by
  induction capsules generalizing wire with
  | nil => simp [Capsule.encodeAll]
  | cons capsule rest ih =>
    simp only [Capsule.encodeAll, bind, Option.bind_eq_some_iff, pure, Option.some.injEq, ih, List.mem_cons,
      forall_eq_or_imp, List.flatMap_cons]
    constructor
    · intro ⟨front, first, back, ⟨all, later⟩, split⟩
      have same : capsule.bytes = front := by simp [Capsule.bytes, first]
      exact ⟨⟨same ▸ first, all⟩, by rw [same, later, split]⟩
    · intro ⟨⟨first, all⟩, split⟩
      exact ⟨_, first, _, ⟨all, rfl⟩, split⟩

theorem encodeAll_exists {capsules : List Capsule} (kinds : ∀ c ∈ capsules, c.kind ≤ Varint.maxValue)
    (lens : ∀ c ∈ capsules, c.value.length ≤ Varint.maxValue) :
    ∃ wire, Capsule.encodeAll capsules = some wire := by
  refine ⟨_, encodeAll_eq_some_iff.mpr ⟨fun c member => ?_, rfl⟩⟩
  obtain ⟨wire, encoded⟩ := encode_exists (kinds c member) (lens c member)
  simp [Capsule.bytes, encoded]

/-! ## Streams -/

theorem drain_empty {decoder : CapsuleDecoder} (empty : decoder.buf = []) :
    incremental.drain decoder = ⟨[], none, decoder⟩ := by
  have waits : decoder.nextCapsule = (.ok none, decoder) := by
    rw [nextCapsule, empty]
    rfl
  exact incremental.drain_wait waits

theorem drain_encodeAll {capsules : List Capsule} {wire : List UInt8} {max : Nat}
    (encoded : Capsule.encodeAll capsules = some wire) (short : ∀ c ∈ capsules, c.value.length ≤ max) :
    incremental.drain ((withMaxValueLen max).push wire) = ⟨capsules, none, withMaxValueLen max⟩ := by
  obtain ⟨each, rfl⟩ := encodeAll_eq_some_iff.mp encoded
  have whole := incremental.drain_encoded (withMaxValueLen max) capsules []
    (fun c member => nextCapsule_encode (each c member) (short c member))
  rw [List.append_nil, incremental.push_nil, drain_empty (withMaxValueLen_buf max)] at whole
  exact whole.trans (by simp)

theorem finish_error {decoder : CapsuleDecoder} (left : decoder.buf ≠ []) :
    decoder.finish = .error (.incompleteAtEndOfStream decoder.buffered) := by
  simp [finish, buffered, left]

/-- Whatever was polled, a stream cut inside a capsule leaves bytes behind. -/
theorem observe_cut {capsules : List Capsule} {wire : List UInt8} {max : Nat}
    {ops : List (Incremental.Op UInt8)}
    (encoded : Capsule.encodeAll capsules = some wire) (short : ∀ c ∈ capsules, c.value.length ≤ max)
    (front : Incremental.pushed ops <+: wire)
    (between : ∀ k, Capsule.encodeAll (capsules.take k) ≠ some (Incremental.pushed ops)) :
    (incremental.observe ops (withMaxValueLen max)).state.buf ≠ [] := by
  intro emptied
  obtain ⟨each, rfl⟩ := encodeAll_eq_some_iff.mp encoded
  have inside : ∀ k, Incremental.pushed ops ≠ (capsules.take k).flatMap Capsule.bytes := by
    intro k same
    apply between k
    rw [encodeAll_eq_some_iff]
    exact ⟨fun c member => each c (List.mem_of_mem_take member), same.symm⟩
  obtain ⟨k, piece, some, drained⟩ := incremental.drain_prefix (withMaxValueLen max) rfl
    (fun c member => nextCapsule_encode (each c member) (short c member)) front inside
  -- An emptied buffer stays empty under a drain, but the drain of the whole holds a piece.
  have whole := incremental.observe_drain ops (withMaxValueLen max)
  have waits : (incremental.drain (incremental.observe ops (withMaxValueLen max)).state).state.buf = [] := by
    rw [drain_empty emptied, emptied]
  have same := congrArg (fun seen => seen.state.buf) (drained.symm.trans whole)
  simp only [waits] at same
  exact some same

/-- However a stream is cut into pushes and polled in between, the capsules, the first error and the
bytes left are those of one push and a drain; a drain of encodings gives the capsules back and ends on
a boundary, a stream cut inside a capsule never finishes, and a refused length takes nothing. -/
theorem decoding_ignores_chunking_and_inverts_encoding (max : Nat) :
    (∀ ops : List (Incremental.Op UInt8),
      let seen := incremental.observe ops (withMaxValueLen max)
      let rest := incremental.drain seen.state
      let whole := incremental.drain ((withMaxValueLen max).push (Incremental.pushed ops))
      seen.items ++ rest.items = whole.items ∧ seen.error.or rest.error = whole.error ∧
        rest.state.buf = whole.state.buf) ∧
    (∀ capsules : List Capsule, (∀ c ∈ capsules, c.kind ≤ Varint.maxValue ∧ c.value.length ≤ max) →
      ((∀ c ∈ capsules, c.value.length ≤ Varint.maxValue) → ∃ wire, Capsule.encodeAll capsules = some wire) ∧
      ∀ wire, Capsule.encodeAll capsules = some wire →
        (let drained := incremental.drain ((withMaxValueLen max).push wire)
         drained.items = capsules ∧ drained.error = none ∧ drained.state.nextCapsule.1 = .ok none ∧
           drained.state.finish = .ok ()) ∧
        ∀ ops, Incremental.pushed ops <+: wire →
          (∀ k, Capsule.encodeAll (capsules.take k) ≠ some (Incremental.pushed ops)) →
          let left := (incremental.observe ops (withMaxValueLen max)).state
          left.finish = .error (.incompleteAtEndOfStream left.buffered)) ∧
    ∀ (decoder : CapsuleDecoder) (error : Capsule.Error), decoder.nextCapsule.1 = .error error →
      decoder.nextCapsule.2 = decoder := by
  refine ⟨fun ops => ?_, fun capsules fits => ⟨fun lens => ?_, fun wire encoded => ⟨?_, fun ops front between => ?_⟩⟩,
    fun decoder error refused => ?_⟩
  · have whole : incremental.drain ((withMaxValueLen max).push (Incremental.pushed ops)) = _ :=
      incremental.observe_drain ops (withMaxValueLen max)
    rw [whole]
    exact ⟨rfl, rfl, rfl⟩
  · exact encodeAll_exists (fun c member => (fits c member).1) lens
  · have drained := drain_encodeAll encoded (fun c member => (fits c member).2)
    have settled := incremental.drain_settled ((withMaxValueLen max).push wire) (by rw [drained])
    rw [drained] at settled ⊢
    exact ⟨rfl, rfl, congrArg Prod.fst settled, rfl⟩
  · exact finish_error (observe_cut encoded (fun c member => (fits c member).2) front between)
  · exact (incremental.poll_error (Prod.ext refused rfl)).1

end CapsuleDecoder

end Skimasque.Core
