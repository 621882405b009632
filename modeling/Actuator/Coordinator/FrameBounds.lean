import Actuator.Lib.Indexed
import Actuator.Coordinator.Wire

/-!
# The indexes of the decoder

`deserializeMessage` once more, with every index of the frame it forms: the bytes
behind `data[i]`, and the element whose address `readString` takes. The payload
is copied through iterators and forms no index. Without the record this is the
decoder of `Wire`.

The length checks cover every byte that is read. The address is taken even for
an empty identifier, and then the check lets the position stand at the very end
of the frame: this is the only way out of the buffer.
-/

namespace Actuator.Coordinator

open Actuator.Lib Actuator.Lib.Indexed

/-! ## The decoder with its record -/

/-- `data[pos++]` behind its bounds check. -/
def indexedUint8 : Indexed UInt8 := fun data pos =>
  if pos ≥ data.length then (none, []) else (some (data.getD pos 0, pos + 1), [pos])

def indexedUint16BE : Indexed UInt16 := fun data pos =>
  if pos + 2 > data.length then (none, [])
  else (some (wordUint16 (data.getD pos 0) (data.getD (pos + 1) 0), pos + 2), [pos, pos + 1])

def indexedUint32BE : Indexed UInt32 := fun data pos =>
  if pos + 4 > data.length then (none, [])
  else
    let word := wordUint32 (data.getD pos 0) (data.getD (pos + 1) 0) (data.getD (pos + 2) 0) (data.getD (pos + 3) 0)
    (some (word, pos + 4), [pos, pos + 1, pos + 2, pos + 3])

def indexedUint64BE : Indexed UInt64 := fun data pos =>
  if pos + 8 > data.length then (none, [])
  else
    let word := wordUint64
      (data.getD pos 0) (data.getD (pos + 1) 0) (data.getD (pos + 2) 0) (data.getD (pos + 3) 0)
      (data.getD (pos + 4) 0) (data.getD (pos + 5) 0) (data.getD (pos + 6) 0) (data.getD (pos + 7) 0)
    (some (word, pos + 8), [pos, pos + 1, pos + 2, pos + 3, pos + 4, pos + 5, pos + 6, pos + 7])

/-- `&data[pos]` is formed for every length, zero included. -/
def indexedString (length : UInt8) : Indexed Str := fun data pos =>
  if pos + length.toNat > data.length then (none, [])
  else (some ((data.drop pos).take length.toNat, pos + length.toNat), [pos])

/-- `data.begin() + pos` is an iterator: no element is named. -/
def indexedPayload (payloadSize : UInt32) : Indexed Str := fun data pos =>
  if payloadSize.toNat > data.length - pos then (none, [])
  else (some ((data.drop pos).take payloadSize.toNat, pos + payloadSize.toNat), [])

def indexedMessage : Indexed Message := do
  let magic ← indexedUint32BE
  let version ← indexedUint16BE
  let msgType ← indexedUint16BE
  let sequenceId ← indexedUint32BE
  let timestampMs ← indexedUint64BE
  let srcLen ← indexedUint8
  let sourceNodeId ← indexedString srcLen
  let dstLen ← indexedUint8
  let destNodeId ← indexedString dstLen
  let priorityRaw ← indexedUint8
  let payloadSize ← indexedUint32BE
  let checksum ← indexedUint32BE
  let payload ← indexedPayload payloadSize
  return {
    header := {
      magic, version, msgType := ⟨msgType⟩, sequenceId, timestampMs, sourceNodeId, destNodeId,
      priority := decodePriority priorityRaw, payloadSize, checksum }
    payload }

/-- Every index `deserializeMessage` forms on a frame. -/
def indexesUsed (data : Str) : List Nat := indexedMessage.used data 0

/-! ## The record apart, it is the decoder -/

theorem forget_indexedUint8 : indexedUint8.forget = readUint8 := by
  funext data pos
  unfold forget indexedUint8 readUint8
  split <;> rfl

theorem forget_indexedUint16BE : indexedUint16BE.forget = readUint16BE := by
  funext data pos
  unfold forget indexedUint16BE readUint16BE
  split <;> rfl

theorem forget_indexedUint32BE : indexedUint32BE.forget = readUint32BE := by
  funext data pos
  unfold forget indexedUint32BE readUint32BE
  split <;> rfl

theorem forget_indexedUint64BE : indexedUint64BE.forget = readUint64BE := by
  funext data pos
  unfold forget indexedUint64BE readUint64BE
  split <;> rfl

theorem forget_indexedString (length : UInt8) : (indexedString length).forget = readString length := by
  funext data pos
  unfold forget indexedString readString
  split <;> rfl

theorem forget_indexedPayload (payloadSize : UInt32) :
    (indexedPayload payloadSize).forget = readPayload payloadSize := by
  funext data pos
  unfold forget indexedPayload readPayload
  split <;> rfl

theorem forget_indexedMessage : indexedMessage.forget = readMessage := by
  simp only [indexedMessage, readMessage, forget_bind, forget_pure, forget_indexedUint8, forget_indexedUint16BE,
    forget_indexedUint32BE, forget_indexedUint64BE, forget_indexedString, forget_indexedPayload]

/-! ## Fields of fixed width -/

theorem indexedUint8_check (data : Str) (pos : Nat) :
    indexedUint8 data pos = if pos + 1 > data.length then (none, []) else (some (data.getD pos 0, pos + 1), [pos]) := by
  unfold indexedUint8
  simp only [ge_iff_le, gt_iff_lt, Nat.lt_succ_iff]

theorem fixed_indexedUint8 : Fixed indexedUint8 1 fun data pos => data.getD pos 0 :=
  .of_check indexedUint8_check fun pos i mem => by
    rw [List.mem_singleton.1 mem]
    exact Nat.lt_succ_self pos

theorem fixed_indexedUint16BE :
    Fixed indexedUint16BE 2 fun data pos => wordUint16 (data.getD pos 0) (data.getD (pos + 1) 0) :=
  .of_check (fun _ _ => rfl) fun pos i mem => by
    simp only [List.mem_cons, List.not_mem_nil, or_false] at mem
    omega

theorem fixed_indexedUint32BE : Fixed indexedUint32BE 4 fun data pos =>
    wordUint32 (data.getD pos 0) (data.getD (pos + 1) 0) (data.getD (pos + 2) 0) (data.getD (pos + 3) 0) :=
  .of_check (fun _ _ => rfl) fun pos i mem => by
    simp only [List.mem_cons, List.not_mem_nil, or_false] at mem
    omega

theorem fixed_indexedUint64BE : Fixed indexedUint64BE 8 fun data pos => wordUint64
    (data.getD pos 0) (data.getD (pos + 1) 0) (data.getD (pos + 2) 0) (data.getD (pos + 3) 0)
    (data.getD (pos + 4) 0) (data.getD (pos + 5) 0) (data.getD (pos + 6) 0) (data.getD (pos + 7) 0) :=
  .of_check (fun _ _ => rfl) fun pos i mem => by
    simp only [List.mem_cons, List.not_mem_nil, or_false] at mem
    omega

/-! ## Identifiers -/

/-- The address of an identifier is inside unless the frame ends where an identifier begins. -/
theorem inBounds_indexedString_bind {α : Type} {length : UInt8} {k : Str → Indexed α} {data : Str} {pos : Nat} :
    (indexedString length >>= k).InBounds data pos ↔
      (pos + length.toNat ≤ data.length → pos < data.length ∧
        (k ((data.drop pos).take length.toNat)).InBounds data (pos + length.toNat)) := by
  have run : indexedString length data pos = if data.length < pos + length.toNat then (none, [])
      else (some ((data.drop pos).take length.toNat, pos + length.toNat), [pos]) := rfl
  rw [inBounds_bind]
  unfold InBounds forget
  rcases Nat.lt_or_ge data.length (pos + length.toNat) with few | enough
  · rw [if_pos few] at run
    have nothing : (indexedString length).used data pos = [] := congrArg Prod.snd run
    rw [run, nothing]
    constructor
    · intro _ enough
      omega
    · intro _
      refine ⟨fun i mem => ?_, fun a next read => ?_⟩
      · cases mem
      · cases read
  · rw [if_neg (Nat.not_lt.2 enough)] at run
    have address : (indexedString length).used data pos = [pos] := congrArg Prod.snd run
    rw [run, address]
    constructor
    · rintro ⟨first, later⟩ _
      exact ⟨first pos List.mem_cons_self, later _ _ rfl⟩
    · intro inside
      obtain ⟨first, later⟩ := inside enough
      refine ⟨fun i mem => ?_, fun a next read => ?_⟩
      · rw [List.mem_singleton.1 mem]
        exact first
      · cases read
        exact later

theorem inBounds_indexedPayload (payloadSize : UInt32) (data : Str) (pos : Nat) :
    (indexedPayload payloadSize).InBounds data pos := by
  intro i mem
  unfold used indexedPayload at mem
  split at mem
  · cases mem
  · cases mem

/-! ## The whole frame -/

/-- The length byte of the source identifier. -/
def srcLength (data : Str) : Nat := (data.getD 20 0).toNat

/-- The length byte of the destination identifier. -/
def dstLength (data : Str) : Nat := (data.getD (21 + srcLength data) 0).toNat

/-- The frame ends directly behind the length byte of an empty identifier. -/
def EndsAtEmptyId (data : Str) : Prop :=
  (data.length = 21 ∧ srcLength data = 0) ∨ (data.length = 22 + srcLength data ∧ dstLength data = 0)

instance decidableEndsAtEmptyId (data : Str) : Decidable (EndsAtEmptyId data) :=
  inferInstanceAs (Decidable (_ ∨ _))

/-- The decoder stays inside the frame exactly when the frame does not end at an empty identifier. -/
theorem indexesUsed_inside_iff (data : Str) : (∀ i ∈ indexesUsed data, i < data.length) ↔ ¬EndsAtEmptyId data := by
  have fields : (∀ i ∈ indexesUsed data, i < data.length) ↔ indexedMessage.InBounds data 0 := Iff.rfl
  -- The source identifier starts at 21, the destination identifier at 22 + srcLength.
  have addresses : indexedMessage.InBounds data 0 ↔
      (21 + srcLength data ≤ data.length → 21 < data.length ∧
        (22 + srcLength data + dstLength data ≤ data.length → 22 + srcLength data < data.length)) := by
    unfold indexedMessage
    simp only [fixed_indexedUint32BE.inBounds_bind, fixed_indexedUint16BE.inBounds_bind,
      fixed_indexedUint64BE.inBounds_bind, fixed_indexedUint8.inBounds_bind, inBounds_indexedString_bind,
      inBounds_bind_pure _ (inBounds_indexedPayload _ _ _), Nat.reduceAdd, Nat.zero_add, imp_true_iff, and_true]
    rw [show (List.getD data 20 0).toNat = srcLength data from rfl,
      show (List.getD data (21 + srcLength data) 0).toNat = dstLength data from rfl]
    omega
  rw [fields, addresses]
  unfold EndsAtEmptyId
  omega

/-- A heartbeat header without a source identifier, cut off behind the length byte of that identifier. -/
def cutHeader : Str :=
  [0x53, 0x41, 0x54, 0x43, 1, 0, 0, 1, 0, 0, 0, 7, 0, 0, 0, 0, 0, 0, 3, 232, 0]

theorem indexesUsed_leaves_cutHeader :
    cutHeader.length = 21 ∧ 21 ∈ indexesUsed cutHeader ∧ ¬∀ i ∈ indexesUsed cutHeader, i < cutHeader.length := by
  decide

end Actuator.Coordinator
