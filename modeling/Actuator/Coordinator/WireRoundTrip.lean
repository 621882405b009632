import Actuator.Coordinator.Wire

/-!
# Serializer and decoder agree

A `WireFrame` is a buffer layout together with the length conditions that make
it self-delimiting. The decoder reads exactly the buffers that begin with a
frame, at most one frame begins any buffer, and the serializer prints the frame
of the message it is given.
-/

namespace Actuator.Coordinator

open Actuator.Lib

/-- The contents of one encoded message. The three lengths fit their length fields. -/
structure WireFrame where
  magic : UInt32
  version : UInt16
  msgType : UInt16
  sequenceId : UInt32
  timestampMs : UInt64
  source : Str
  dest : Str
  priority : UInt8
  checksum : UInt32
  payload : Str
  source_length : source.length < 256
  dest_length : dest.length < 256
  payload_length : payload.length < 2 ^ 32

namespace WireFrame

/-- The bytes of a frame, field by field. -/
def bytes (f : WireFrame) : Str :=
  toBytesBE 4 f.magic.toNat ++ toBytesBE 2 f.version.toNat ++ toBytesBE 2 f.msgType.toNat ++
  toBytesBE 4 f.sequenceId.toNat ++ toBytesBE 8 f.timestampMs.toNat ++
  [UInt8.ofNat f.source.length] ++ f.source ++
  [UInt8.ofNat f.dest.length] ++ f.dest ++
  [f.priority] ++
  toBytesBE 4 f.payload.length ++ toBytesBE 4 f.checksum.toNat ++ f.payload

/-- The message a frame carries. -/
def message (f : WireFrame) : Message where
  header := {
    magic := f.magic, version := f.version, msgType := ⟨f.msgType⟩, sequenceId := f.sequenceId,
    timestampMs := f.timestampMs, sourceNodeId := f.source, destNodeId := f.dest,
    priority := decodePriority f.priority, payloadSize := UInt32.ofNat f.payload.length,
    checksum := f.checksum }
  payload := f.payload

theorem length_bytes (f : WireFrame) :
    f.bytes.length = 31 + f.source.length + f.dest.length + f.payload.length := by
  simp [bytes]
  omega

end WireFrame

theorem decodePriority_of_named {p : Priority} (named : p.Named) : decodePriority p.raw = p := by
  obtain ⟨lower, upper⟩ := (Priority.named_iff p).1 named
  have inside : ¬(p.raw < Priority.emergency.raw ∨ p.raw > Priority.low.raw) := by
    simp [Priority.emergency, Priority.low, UInt8.lt_iff_toNat_lt]
    omega
  simp [decodePriority, inside]

/-- The message decoder accepts a frame and nothing else. -/
theorem reads_readMessage :
    Reader.Reads readMessage fun m bs => ∃ f : WireFrame, f.message = m ∧ f.bytes = bs := by
  refine (reads_readUint32BE.field fun magic => reads_readUint16BE.field fun version =>
    reads_readUint16BE.field fun msgType => reads_readUint32BE.field fun sequenceId =>
    reads_readUint64BE.field fun timestampMs => reads_readUint8.field fun srcLen =>
    (reads_readString srcLen).field fun source => reads_readUint8.field fun dstLen =>
    (reads_readString dstLen).field fun dest => reads_readUint8.field fun priority =>
    reads_readUint32BE.field fun payloadSize => reads_readUint32BE.field fun checksum =>
    (reads_readPayload payloadSize).field fun payload => Reader.Reads.pure _).of_iff ?_
  intro m bs
  constructor
  · rintro ⟨magic, _, rfl, -, version, _, rfl, -, msgType, _, rfl, -, sequenceId, _, rfl, -, timestampMs, _, rfl, -,
      srcLen, _, rfl, -, source, _, rfl, srcSize, dstLen, _, rfl, -, dest, _, rfl, dstSize, priority, _, rfl, -,
      payloadSize, _, rfl, -, checksum, _, rfl, -, payload, _, rfl, size, rfl, rfl⟩
    refine ⟨⟨magic, version, msgType, sequenceId, timestampMs, source, dest, priority, checksum, payload,
      srcSize ▸ srcLen.toNat_lt, dstSize ▸ dstLen.toNat_lt, size ▸ payloadSize.toNat_lt⟩, ?_, ?_⟩
    · simp [WireFrame.message, size]
    · simp [WireFrame.bytes, srcSize, dstSize, size]
  · rintro ⟨f, rfl, rfl⟩
    have srcSize : (UInt8.ofNat f.source.length).toNat = f.source.length := UInt8.toNat_ofNat_of_lt' f.source_length
    have dstSize : (UInt8.ofNat f.dest.length).toNat = f.dest.length := UInt8.toNat_ofNat_of_lt' f.dest_length
    have size : (UInt32.ofNat f.payload.length).toNat = f.payload.length := UInt32.toNat_ofNat_of_lt' f.payload_length
    refine ⟨f.magic, _, ?_, trivial, f.version, _, rfl, trivial, f.msgType, _, rfl, trivial, f.sequenceId, _, rfl, trivial,
      f.timestampMs, _, rfl, trivial, UInt8.ofNat f.source.length, _, rfl, trivial, f.source, _, rfl, srcSize.symm,
      UInt8.ofNat f.dest.length, _, rfl, trivial, f.dest, _, rfl, dstSize.symm, f.priority, _, rfl, trivial,
      UInt32.ofNat f.payload.length, _, rfl, trivial, f.checksum, _, rfl, trivial, f.payload, _, rfl, size.symm, rfl, rfl⟩
    simp [WireFrame.bytes, size]

theorem deserializeMessage_eq_some (data : Str) (m : Message) :
    deserializeMessage data = some m ↔ ∃ f : WireFrame, f.message = m ∧ f.bytes <+: data := by
  rw [deserializeMessage, reads_readMessage.run?_eq_some]
  constructor
  · rintro ⟨_, ⟨f, same, rfl⟩, pre⟩
    exact ⟨f, same, pre⟩
  · rintro ⟨f, same, pre⟩
    exact ⟨f.bytes, ⟨f, same, rfl⟩, pre⟩

theorem deserializeMessage_bytes (f : WireFrame) (t : Str) : deserializeMessage (f.bytes ++ t) = some f.message :=
  (deserializeMessage_eq_some _ _).2 ⟨f, rfl, f.bytes.prefix_append t⟩

/-- The serializer prints a frame whose message it is, priority byte included. -/
theorem serialize_message {f : WireFrame} (named : 1 ≤ f.priority.toNat ∧ f.priority.toNat ≤ 4) :
    serialize f.message = f.bytes := by
  have size : (UInt32.ofNat f.payload.length).toNat = f.payload.length := UInt32.toNat_ofNat_of_lt' f.payload_length
  have prio : decodePriority f.priority = ⟨f.priority⟩ := decodePriority_of_named ((Priority.named_iff ⟨_⟩).2 named)
  simp [serialize, serializeHeaderLocal, WireFrame.message, WireFrame.bytes, pushUint16_eq, pushUint32_eq,
    pushUint64_eq, size, prio]

/-- No two frames begin the same buffer, unless they have the same bytes. -/
theorem WireFrame.bytes_eq_of_prefix {f g : WireFrame} {data : Str} (hf : f.bytes <+: data) (hg : g.bytes <+: data) :
    f.bytes = g.bytes := by
  have same : f.message = g.message :=
    Option.some.inj (((deserializeMessage_eq_some data _).2 ⟨f, rfl, hf⟩).symm.trans
      ((deserializeMessage_eq_some data _).2 ⟨g, rfl, hg⟩))
  have source : f.source = g.source := congrArg (·.header.sourceNodeId) same
  have dest : f.dest = g.dest := congrArg (·.header.destNodeId) same
  have payload : f.payload = g.payload := congrArg Message.payload same
  have len : f.bytes.length = g.bytes.length := by
    rw [f.length_bytes, g.length_bytes, source, dest, payload]
  exact (List.prefix_of_prefix_length_le hf hg len.le).eq_of_length len

/-! ## Decoding an encoded message -/

/-- A message that respects the length fields is printed as a frame. -/
theorem exists_frame_of_message (m : Message) (source : m.header.sourceNodeId.length ≤ 255)
    (dest : m.header.destNodeId.length ≤ 255) (named : m.header.priority.Named)
    (size : m.header.payloadSize.toNat = m.payload.length) :
    ∃ f : WireFrame, f.message = m ∧ f.bytes = serialize m := by
  let f : WireFrame := {
    magic := m.header.magic, version := m.header.version, msgType := m.header.msgType.raw,
    sequenceId := m.header.sequenceId, timestampMs := m.header.timestampMs, source := m.header.sourceNodeId,
    dest := m.header.destNodeId, priority := m.header.priority.raw, checksum := m.header.checksum,
    payload := m.payload, source_length := by omega, dest_length := by omega,
    payload_length := size ▸ m.header.payloadSize.toNat_lt }
  have carries : f.message = m := by
    simp [f, WireFrame.message, decodePriority_of_named named, ← size]
  refine ⟨f, carries, ?_⟩
  rw [← carries]
  exact (serialize_message ((Priority.named_iff _).1 named)).symm

/-- Decoding what the serializer printed gives the message back, whatever follows it. -/
theorem deserializeMessage_serialize (m : Message) (t : Str)
    (source : m.header.sourceNodeId.length ≤ 255) (dest : m.header.destNodeId.length ≤ 255)
    (named : m.header.priority.Named) (size : m.header.payloadSize.toNat = m.payload.length) :
    deserializeMessage (serialize m ++ t) = some m := by
  obtain ⟨f, carries, printed⟩ := exists_frame_of_message m source dest named size
  rw [← printed, deserializeMessage_bytes, carries]

/-- A heartbeat-sized message followed by the first bytes of another one. -/
theorem deserializeMessage_serialize_sample :
    let m : Message := {
      header := {
        magic := MessageHeader.magicNumber, version := MessageHeader.protocolVersion,
        msgType := MessageType.taskComplete, sequenceId := 0x01020304, timestampMs := 0x1122334455667788,
        sourceNodeId := lit "SAT_001", destNodeId := lit "COORD", priority := Priority.urgent,
        payloadSize := 2, checksum := 0xDEADBEEF }
      payload := [7, 9] }
    deserializeMessage (serialize m ++ [0x53, 0x41]) = some m :=
  deserializeMessage_serialize _ _ (by decide) (by decide) (by decide) rfl

/-! ## The accepted buffers -/

/-- The wire shape, in raw bytes: 20 header bytes, two length-prefixed identifiers, the priority,
the payload size, the checksum and the payload. -/
def WireShape (bs source dest : Str) (priority : UInt8) (payload : Str) : Prop :=
  ∃ (fixed : Str) (srcLen dstLen : UInt8) (size checksum : Str),
    bs = fixed ++ [srcLen] ++ source ++ [dstLen] ++ dest ++ [priority] ++ size ++ checksum ++ payload ∧
    fixed.length = 20 ∧ source.length = srcLen.toNat ∧ dest.length = dstLen.toNat ∧ size.length = 4 ∧
    checksum.length = 4 ∧ payload.length = ofBytesBE size

theorem WireFrame.shape (f : WireFrame) : WireShape f.bytes f.source f.dest f.priority f.payload := by
  refine ⟨_, UInt8.ofNat f.source.length, UInt8.ofNat f.dest.length, toBytesBE 4 f.payload.length,
    toBytesBE 4 f.checksum.toNat, rfl, ?_, ?_, ?_, length_toBytesBE .., length_toBytesBE .., ?_⟩
  · simp
  · exact (UInt8.toNat_ofNat_of_lt' f.source_length).symm
  · exact (UInt8.toNat_ofNat_of_lt' f.dest_length).symm
  · exact (ofBytesBE_toBytesBE f.payload_length).symm

theorem exists_split {bs : Str} {n k : Nat} (len : bs.length = n + k) :
    ∃ x y, bs = x ++ y ∧ x.length = n ∧ y.length = k :=
  ⟨bs.take n, bs.drop n, (List.take_append_drop n bs).symm, by simp [len], by simp [len]⟩

/-- Raw bytes of the wire shape are the bytes of a frame. -/
theorem WireShape.exists_frame {bs source dest payload : Str} {priority : UInt8}
    (shape : WireShape bs source dest priority payload) :
    ∃ f : WireFrame, f.bytes = bs ∧ f.source = source ∧ f.dest = dest ∧ f.priority = priority ∧ f.payload = payload := by
  obtain ⟨fixed, srcLen, dstLen, size, checksum, rfl, fixedLen, srcSize, dstSize, sizeLen, sumLen, paySize⟩ := shape
  obtain ⟨magic, fixed, rfl, magicLen, fixedLen⟩ := exists_split (n := 4) (k := 16) fixedLen
  obtain ⟨version, fixed, rfl, versionLen, fixedLen⟩ := exists_split (n := 2) (k := 14) fixedLen
  obtain ⟨msgType, fixed, rfl, msgTypeLen, fixedLen⟩ := exists_split (n := 2) (k := 12) fixedLen
  obtain ⟨sequenceId, timestampMs, rfl, sequenceLen, timestampLen⟩ := exists_split (n := 4) (k := 8) fixedLen
  have payloadFits : payload.length < 2 ^ 32 := by
    rw [paySize]
    exact lt_of_lt_of_eq (ofBytesBE_lt size) (by rw [sizeLen]; rfl)
  refine ⟨{
    magic := UInt32.ofNat (ofBytesBE magic), version := UInt16.ofNat (ofBytesBE version),
    msgType := UInt16.ofNat (ofBytesBE msgType), sequenceId := UInt32.ofNat (ofBytesBE sequenceId),
    timestampMs := UInt64.ofNat (ofBytesBE timestampMs), source, dest, priority,
    checksum := UInt32.ofNat (ofBytesBE checksum), payload, source_length := srcSize ▸ srcLen.toNat_lt,
    dest_length := dstSize ▸ dstLen.toNat_lt, payload_length := payloadFits }, ?_, rfl, rfl, rfl, rfl⟩
  have sizeBytes : toBytesBE 4 payload.length = size := by rw [paySize, ← sizeLen, toBytesBE_ofBytesBE]
  simp only [WireFrame.bytes, ← eq_toBytesBE_uint32 magicLen, ← eq_toBytesBE_uint16 versionLen,
    ← eq_toBytesBE_uint16 msgTypeLen, ← eq_toBytesBE_uint32 sequenceLen, ← eq_toBytesBE_uint64 timestampLen,
    ← eq_toBytesBE_uint32 sumLen, sizeBytes, srcSize, dstSize, UInt8.ofNat_toNat, List.append_assoc]

/-- The decoder accepts exactly the buffers that begin with the wire shape, re-encoding an accepted
message with a named priority reproduces that beginning, and no strict prefix of a shape is accepted. -/
theorem deserializeMessage_accepts (data : Str) :
    ((deserializeMessage data).isSome = true ↔
      ∃ bs source dest priority payload, WireShape bs source dest priority payload ∧ bs <+: data) ∧
    (∀ m bs source dest priority payload, deserializeMessage data = some m →
      WireShape bs source dest priority payload → bs <+: data → 1 ≤ priority.toNat → priority.toNat ≤ 4 →
      serialize m = bs ∧ m.header.sourceNodeId = source ∧ m.header.destNodeId = dest ∧ m.payload = payload ∧
      bs.length = 31 + source.length + dest.length + m.header.payloadSize.toNat) ∧
    (∀ source dest priority payload, WireShape data source dest priority payload →
      ∀ cut, cut <+: data → cut ≠ data → deserializeMessage cut = none) := by
  refine ⟨?_, ?_, ?_⟩
  · rw [Option.isSome_iff_exists]
    constructor
    · rintro ⟨m, decoded⟩
      obtain ⟨f, -, pre⟩ := (deserializeMessage_eq_some data m).1 decoded
      exact ⟨f.bytes, _, _, _, _, f.shape, pre⟩
    · rintro ⟨bs, _, _, _, _, shape, pre⟩
      obtain ⟨f, rfl, -⟩ := shape.exists_frame
      exact ⟨f.message, (deserializeMessage_eq_some data _).2 ⟨f, rfl, pre⟩⟩
  · intro m bs source dest priority payload decoded shape pre lower upper
    obtain ⟨f, rfl, rfl, rfl, rfl, rfl⟩ := shape.exists_frame
    obtain rfl : f.message = m :=
      Option.some.inj (((deserializeMessage_eq_some data _).2 ⟨f, rfl, pre⟩).symm.trans decoded)
    have size : (UInt32.ofNat f.payload.length).toNat = f.payload.length := UInt32.toNat_ofNat_of_lt' f.payload_length
    refine ⟨serialize_message ⟨lower, upper⟩, rfl, rfl, rfl, ?_⟩
    rw [f.length_bytes]
    simp only [WireFrame.message, size]
  · intro source dest priority payload shape cut pre strict
    obtain ⟨f, rfl, -⟩ := shape.exists_frame
    refine Option.eq_none_iff_forall_not_mem.2 fun m decoded => strict ?_
    -- a frame inside the cut would begin the whole buffer too, so it is the whole buffer
    obtain ⟨g, -, inside⟩ := (deserializeMessage_eq_some cut m).1 decoded
    have same := WireFrame.bytes_eq_of_prefix (inside.trans pre) (List.prefix_refl f.bytes)
    exact pre.eq_of_length_le (same ▸ inside.length_le)

/-- An empty source, a one-byte destination and one payload byte, followed by one stray byte. -/
theorem deserializeMessage_accepts_sample :
    let frame : Str := List.replicate 20 0 ++ [0] ++ [] ++ [1] ++ [65] ++ [3] ++ [0, 0, 0, 1] ++ [0, 0, 0, 0] ++ [9]
    ∃ m, deserializeMessage (frame ++ [1]) = some m ∧ serialize m = frame ∧ deserializeMessage frame.dropLast = none := by
  have shape : WireShape (List.replicate 20 0 ++ [0] ++ [] ++ [1] ++ [65] ++ [3] ++ [0, 0, 0, 1] ++ [0, 0, 0, 0] ++ [9])
      [] [65] 3 [9] := ⟨List.replicate 20 0, 0, 1, [0, 0, 0, 1], [0, 0, 0, 0], by decide⟩
  obtain ⟨m, decoded⟩ := Option.isSome_iff_exists.1
    ((deserializeMessage_accepts _).1.2 ⟨_, _, _, _, _, shape, List.prefix_append _ [1]⟩)
  refine ⟨m, decoded, ?_, ?_⟩
  · exact ((deserializeMessage_accepts _).2.1 m _ _ _ _ _ decoded shape (List.prefix_append _ _) (by decide)
      (by decide)).1
  · exact (deserializeMessage_accepts _).2.2 _ _ _ _ shape _ (List.dropLast_prefix _) (by decide)

end Actuator.Coordinator
