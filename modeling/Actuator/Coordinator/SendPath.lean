import Actuator.Coordinator.InterSatComm
import Actuator.Coordinator.WireRoundTrip

/-!
# From `sendMessage` to the wire

The front of the sending side accepts any identifiers and any payload. Behind
the queue an identifier has one length byte and a frame has a size limit. A
queued message reaches its connected destination exactly when it respects both:
a longer identifier is cut while its bytes are still written, and a larger
frame is refused, upon which the destination is disconnected.
-/

namespace Actuator.Coordinator

open Actuator.Lib

namespace InterSatComm

variable {H : Type}

/-! ## What `sendMessage` queues -/

theorem sendMessage_queued {st st' : InterSatComm H} {now pushedAt : UInt64} {destNodeId : Str} {message : Message}
    (accepted : st.sendMessage now pushedAt destNodeId message = (.queued, st')) :
    ∃ pm, st'.sendQueue.queue = st.sendQueue.queue ++ [pm] ∧ Outbound st destNodeId message pm.message := by
  have outbound := completeHeader_outbound st now destNodeId message
  obtain ⟨sequenceId, frame⟩ := completeHeader_frame st now destNodeId message
  simp only [sendMessage, frame] at accepted
  split at accepted
  · cases accepted
  · split at accepted
    · cases accepted
    · simp only [MessageQueue.push] at accepted
      by_cases full : st.sendQueue.queue.length ≥ st.sendQueue.maxSize
      · rw [if_pos full] at accepted
        cases accepted
      · rw [if_neg full] at accepted
        obtain ⟨-, rfl⟩ := Prod.mk.inj accepted
        exact ⟨_, rfl, outbound⟩

/-! ## What one round of the sending thread does -/

/-- One frame was added to the connection `socket` of the message's destination, a peer decodes its
content to the message, and the connection is still there. -/
def Delivered (socket : SendSocket) (after : InterSatComm H) (message : Message) : Prop :=
  ∃ node socket' content, after.nodes.find? message.header.destNodeId = some node ∧ node.socketFd = some socket' ∧
    socket'.wire = socket.wire ++ frameBytes content ∧ deserializeMessage content = some message

theorem length_serialize (m : Message) :
    (serialize m).length = 31 + m.header.sourceNodeId.length + m.header.destNodeId.length + m.payload.length := by
  simp [serialize, serializeHeaderLocal, pushUint16_eq, pushUint32_eq, pushUint64_eq]
  omega

section Round

variable {st : InterSatComm H} {choice : Nat} {message : Message} {rest : MessageQueue} {node : RemoteNode}
  {socket : SendSocket}

/-- A message whose encoding fits a frame is written, whatever the frame decodes to. -/
theorem sendThreadFunc_small (popped : st.sendQueue.pop choice = some (message, rest))
    (connected : st.nodes.find? message.header.destNodeId = some node) (opened : node.socketFd = some socket)
    (transmits : socket.Transmits) (small : (serialize message).length ≤ kMaxFrameSizeBytes.toNat) :
    ∃ node' socket', (st.sendThreadFunc choice).nodes.find? message.header.destNodeId = some node' ∧
      node'.socketFd = some socket' ∧ socket'.wire = socket.wire ++ frameBytes (serialize message) := by
  obtain ⟨socket', run, wire, -⟩ := sendData_transmits transmits (by rw [length_serialize]; omega) small
  simp only [sendThreadFunc, popped, connected, opened, run]
  exact ⟨_, _, OrdMap.find?_insert_self .., rfl, wire⟩

/-- A message whose encoding does not fit a frame costs the destination its connection. -/
theorem sendThreadFunc_large (popped : st.sendQueue.pop choice = some (message, rest))
    (connected : st.nodes.find? message.header.destNodeId = some node) (opened : node.socketFd = some socket)
    (large : kMaxFrameSizeBytes.toNat < (serialize message).length) :
    (st.sendThreadFunc choice).nodes.find? message.header.destNodeId = none := by
  have refused : sendData socket (serialize message) = (false, socket) := by
    rw [sendData, if_pos (Or.inr large)]
  simp [sendThreadFunc, popped, connected, opened, refused, removeNode, OrdMap.find?_erase]

/-- Delivery, in terms of the message that was queued. -/
theorem delivered_iff (popped : st.sendQueue.pop choice = some (message, rest))
    (connected : st.nodes.find? message.header.destNodeId = some node) (opened : node.socketFd = some socket)
    (transmits : socket.Transmits) (named : message.header.priority.Named)
    (size : message.header.payloadSize = UInt32.ofNat message.payload.length) :
    Delivered socket (st.sendThreadFunc choice) message ↔
      message.header.sourceNodeId.length ≤ 255 ∧ message.header.destNodeId.length ≤ 255 ∧
      (serialize message).length ≤ kMaxFrameSizeBytes.toNat := by
  constructor
  · rintro ⟨node', socket', content, found, opened', wire, decoded⟩
    have small : (serialize message).length ≤ kMaxFrameSizeBytes.toNat := by
      by_contra large
      rw [sendThreadFunc_large popped connected opened (not_le.1 large)] at found
      cases found
    obtain ⟨f, rfl, -⟩ := (deserializeMessage_eq_some _ _).1 decoded
    exact ⟨Nat.le_of_lt_succ f.source_length, Nat.le_of_lt_succ f.dest_length, small⟩
  · rintro ⟨source, dest, small⟩
    obtain ⟨node', socket', found, opened', wire⟩ := sendThreadFunc_small popped connected opened transmits small
    refine ⟨node', socket', serialize message, found, opened', wire, ?_⟩
    have fits : message.payload.length < 2 ^ 32 := by
      rw [length_serialize, toNat_kMaxFrameSizeBytes] at small
      omega
    obtain ⟨f, carries, printed⟩ := exists_frame_of_message message source dest named
      (by rw [size]; exact UInt32.toNat_ofNat_of_lt' fits)
    rw [← printed, ← carries, ← List.append_nil f.bytes]
    exact deserializeMessage_bytes f []

end Round

/-! ## Delivery of an accepted message -/

/-- The message `sendMessage` queued reaches its connected destination, whenever the sending thread
gets to it, exactly when both identifiers and the whole encoding fit their limits. -/
theorem sendThreadFunc_delivers_iff (st st' later : InterSatComm H) (now pushedAt : UInt64) (destNodeId : Str)
    (message : Message) (pm : PriorityMessage) (choice : Nat) (rest : MessageQueue) (node : RemoteNode)
    (socket : SendSocket) (accepted : st.sendMessage now pushedAt destNodeId message = (.queued, st'))
    (queued : st'.sendQueue.queue = st.sendQueue.queue ++ [pm])
    (popped : later.sendQueue.pop choice = some (pm.message, rest))
    (connected : later.nodes.find? pm.message.header.destNodeId = some node) (opened : node.socketFd = some socket)
    (transmits : socket.Transmits) :
    Delivered socket (later.sendThreadFunc choice) pm.message ↔
      (st.outboundSource message).length ≤ 255 ∧ (targetNode destNodeId message).length ≤ 255 ∧
      31 + (st.outboundSource message).length + (targetNode destNodeId message).length + message.payload.length ≤
        kMaxFrameSizeBytes.toNat := by
  obtain ⟨pm', queued', outbound⟩ := sendMessage_queued accepted
  obtain rfl : pm' = pm := by simpa using queued'.symm.trans queued
  rw [delivered_iff popped connected opened transmits outbound.named (outbound.payload ▸ outbound.payloadSize),
    length_serialize, outbound.source, outbound.dest, outbound.payload]

section Samples

/-- A node `N` connected to `D`. -/
def connectedNode : InterSatComm Unit where
  config := ⟨lit "N"⟩
  nodes := OrdMap.ofList [(lit "D", ⟨some ⟨fun _ => some 65535, 0, []⟩, 0, 0⟩)]
  localHandlers := OrdMap.empty
  sendQueue := { maxSize := 1000 }
  sequenceId := 1

/-- A short message to `D` from the given source. -/
def messageFrom (source : Str) : Message where
  header := { sourceNodeId := source, timestampMs := 5, sequenceId := 9 }
  payload := [1, 2]

/-- The queue entry for such a message. -/
def entryFrom (source : Str) : PriorityMessage where
  message := {
    header := {
      magic := MessageHeader.magicNumber, version := MessageHeader.protocolVersion, sequenceId := 9, timestampMs := 5,
      sourceNodeId := source, destNodeId := lit "D", priority := .normal, payloadSize := 2 }
    payload := [1, 2] }
  priority := 3
  timestamp := 7

theorem sendThreadFunc_delivers_iff_sample :
    Delivered ⟨fun _ => some 65535, 0, []⟩ (((connectedNode.sendMessage 0 7 (lit "D") (messageFrom (lit "S"))).2).sendThreadFunc 0)
      (entryFrom (lit "S")).message :=
  (sendThreadFunc_delivers_iff connectedNode _ _ 0 7 (lit "D") (messageFrom (lit "S")) (entryFrom (lit "S")) 0
    { maxSize := 1000 } ⟨some ⟨fun _ => some 65535, 0, []⟩, 0, 0⟩ _ rfl rfl (MessageQueue.pop_singleton ..) rfl rfl nofun).2
    (by decide)

/-- A source of 256 bytes is accepted, and its frame does not decode to the message that was sent. -/
theorem sendThreadFunc_truncates :
    let source : Str := List.replicate 256 65
    let sent := connectedNode.sendMessage 0 7 (lit "D") (messageFrom source)
    sent.1 = .queued ∧ sent.2.sendQueue.queue = connectedNode.sendQueue.queue ++ [entryFrom source] ∧
    sent.2.sendQueue.pop 0 = some ((entryFrom source).message, { maxSize := 1000 }) ∧
    sent.2.nodes.find? (lit "D") = some ⟨some ⟨fun _ => some 65535, 0, []⟩, 0, 0⟩ ∧
    ¬Delivered ⟨fun _ => some 65535, 0, []⟩ (sent.2.sendThreadFunc 0) (entryFrom source).message := by
  refine ⟨rfl, rfl, MessageQueue.pop_singleton .., rfl, fun delivered => ?_⟩
  obtain ⟨_, _, _, _, _, _, decoded⟩ := delivered
  obtain ⟨f, carries, -⟩ := (deserializeMessage_eq_some _ _).1 decoded
  have source : f.source = List.replicate 256 65 := congrArg (·.header.sourceNodeId) carries
  have short := f.source_length
  rw [source, List.length_replicate] at short
  omega

end Samples

end InterSatComm

end Actuator.Coordinator
