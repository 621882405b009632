import Actuator.Lib.Cursor
import Actuator.Coordinator.MessageTypes

/-!
# The wire format

`MessageSerializer::serialize` and `deserializeMessage`, two separately written
functions. Both are compared with `WireFrame`, the layout they share: the
serializer prints a frame, and the decoder accepts exactly the buffers that
begin with one.
-/

namespace Actuator.Coordinator

open Actuator.Lib

/-! ## The serializer -/

/-- The header bytes, with both identifier lengths cut to one byte. -/
def serializeHeaderLocal (header : MessageHeader) : Str :=
  pushUint32 header.magic ++
  pushUint16 header.version ++
  pushUint16 header.msgType.raw ++
  pushUint32 header.sequenceId ++
  pushUint64 header.timestampMs ++
  [UInt8.ofNat header.sourceNodeId.length] ++ header.sourceNodeId ++
  [UInt8.ofNat header.destNodeId.length] ++ header.destNodeId ++
  [header.priority.raw] ++
  pushUint32 header.payloadSize ++
  pushUint32 header.checksum

def serialize (message : Message) : Str :=
  serializeHeaderLocal message.header ++ message.payload

/-! ## The decoder -/

/-- `data[pos++]` behind its bounds check. -/
def readUint8 : Reader UInt8 := fun data pos =>
  if pos ≥ data.length then none else some (data.getD pos 0, pos + 1)

def readUint16BE : Reader UInt16 := fun data pos =>
  if pos + 2 > data.length then none
  else some (wordUint16 (data.getD pos 0) (data.getD (pos + 1) 0), pos + 2)

def readUint32BE : Reader UInt32 := fun data pos =>
  if pos + 4 > data.length then none
  else
    let word := wordUint32 (data.getD pos 0) (data.getD (pos + 1) 0) (data.getD (pos + 2) 0) (data.getD (pos + 3) 0)
    some (word, pos + 4)

def readUint64BE : Reader UInt64 := fun data pos =>
  if pos + 8 > data.length then none
  else
    let word := wordUint64
      (data.getD pos 0) (data.getD (pos + 1) 0) (data.getD (pos + 2) 0) (data.getD (pos + 3) 0)
      (data.getD (pos + 4) 0) (data.getD (pos + 5) 0) (data.getD (pos + 6) 0) (data.getD (pos + 7) 0)
    some (word, pos + 8)

def readString (length : UInt8) : Reader Str := fun data pos =>
  if pos + length.toNat > data.length then none
  else some ((data.drop pos).take length.toNat, pos + length.toNat)

/-- The last step of the decoder, which compares with the bytes left instead of adding. -/
def readPayload (payloadSize : UInt32) : Reader Str := fun data pos =>
  if payloadSize.toNat > data.length - pos then none
  else some ((data.drop pos).take payloadSize.toNat, pos + payloadSize.toNat)

/-- Priorities outside the enumeration are read as `NORMAL`. -/
def decodePriority (raw : UInt8) : Priority :=
  if raw < Priority.emergency.raw ∨ raw > Priority.low.raw then Priority.normal else ⟨raw⟩

def readMessage : Reader Message := do
  let magic ← readUint32BE
  let version ← readUint16BE
  let msgType ← readUint16BE
  let sequenceId ← readUint32BE
  let timestampMs ← readUint64BE
  let srcLen ← readUint8
  let sourceNodeId ← readString srcLen
  let dstLen ← readUint8
  let destNodeId ← readString dstLen
  let priorityRaw ← readUint8
  let payloadSize ← readUint32BE
  let checksum ← readUint32BE
  let payload ← readPayload payloadSize
  return {
    header := {
      magic, version, msgType := ⟨msgType⟩, sequenceId, timestampMs, sourceNodeId, destNodeId,
      priority := decodePriority priorityRaw, payloadSize, checksum }
    payload }

/-- `none` is the source's `false`: the caller drops the buffer. -/
def deserializeMessage (data : Str) : Option Message := readMessage.run? data

/-! ## What the field readers accept -/

section Readers

open Reader

theorem reads_readUint8 : Reads readUint8 fun b bs => True ∧ bs = [b] := by
  refine (Reads.fixed 1 (fun bs => bs.getD 0 0) ?_ ?_).of_iff ?_
  · intro front tail short
    simp [from?, readUint8, show tail.length = 0 by omega]
  · rintro front bs rest len
    obtain ⟨b, rfl⟩ := List.length_eq_one_iff.1 len
    simp [from?, readUint8]
  · intro b bs
    constructor
    · rintro ⟨len, rfl⟩
      obtain ⟨b, rfl⟩ := List.length_eq_one_iff.1 len
      exact ⟨trivial, rfl⟩
    · rintro ⟨-, rfl⟩
      exact ⟨rfl, rfl⟩

theorem reads_readUint16BE : Reads readUint16BE fun w bs => True ∧ bs = toBytesBE 2 w.toNat := by
  refine (Reads.fixed 2 (fun bs => UInt16.ofNat (ofBytesBE bs)) ?_ ?_).of_iff ?_
  · intro front tail short
    simp [from?, readUint16BE]
    omega
  · rintro front bs rest len
    obtain ⟨b0, b1, rfl⟩ := List.length_eq_two.1 len
    simp [from?, readUint16BE, ← toNat_wordUint16]
  · intro w bs
    constructor
    · rintro ⟨len, rfl⟩
      exact ⟨trivial, eq_toBytesBE_uint16 len⟩
    · rintro ⟨-, rfl⟩
      exact ⟨length_toBytesBE .., by rw [ofBytesBE_toBytesBE w.toNat_lt, UInt16.ofNat_toNat]⟩

theorem reads_readUint32BE : Reads readUint32BE fun w bs => True ∧ bs = toBytesBE 4 w.toNat := by
  refine (Reads.fixed 4 (fun bs => UInt32.ofNat (ofBytesBE bs)) ?_ ?_).of_iff ?_
  · intro front tail short
    simp [from?, readUint32BE]
    omega
  · rintro front bs rest len
    obtain ⟨b0, b1, b2, b3, rfl⟩ := exists_of_length_four len
    simp [from?, readUint32BE, ← toNat_wordUint32]
  · intro w bs
    constructor
    · rintro ⟨len, rfl⟩
      exact ⟨trivial, eq_toBytesBE_uint32 len⟩
    · rintro ⟨-, rfl⟩
      exact ⟨length_toBytesBE .., by rw [ofBytesBE_toBytesBE w.toNat_lt, UInt32.ofNat_toNat]⟩

theorem reads_readUint64BE : Reads readUint64BE fun w bs => True ∧ bs = toBytesBE 8 w.toNat := by
  refine (Reads.fixed 8 (fun bs => UInt64.ofNat (ofBytesBE bs)) ?_ ?_).of_iff ?_
  · intro front tail short
    simp [from?, readUint64BE]
    omega
  · rintro front bs rest len
    obtain ⟨b0, b1, b2, b3, b4, b5, b6, b7, rfl⟩ := exists_of_length_eight len
    simp [from?, readUint64BE, ← toNat_wordUint64]
  · intro w bs
    constructor
    · rintro ⟨len, rfl⟩
      exact ⟨trivial, eq_toBytesBE_uint64 len⟩
    · rintro ⟨-, rfl⟩
      exact ⟨length_toBytesBE .., by rw [ofBytesBE_toBytesBE w.toNat_lt, UInt64.ofNat_toNat]⟩

theorem reads_readString (n : UInt8) : Reads (readString n) fun s bs => s.length = n.toNat ∧ bs = id s := by
  refine (Reads.fixed n.toNat id ?_ ?_).of_iff fun s bs => ?_
  · intro front tail short
    simp [from?, readString]
    omega
  · rintro front bs rest len
    simp [from?, readString, ← len]
  · constructor <;> rintro ⟨len, rfl⟩ <;> exact ⟨len, rfl⟩

theorem reads_readPayload (n : UInt32) : Reads (readPayload n) fun s bs => s.length = n.toNat ∧ bs = id s := by
  refine (Reads.fixed n.toNat id ?_ ?_).of_iff fun s bs => ?_
  · intro front tail short
    simp [from?, readPayload]
    omega
  · rintro front bs rest len
    simp [from?, readPayload, ← len]
  · constructor <;> rintro ⟨len, rfl⟩ <;> exact ⟨len, rfl⟩

end Readers

end Actuator.Coordinator
