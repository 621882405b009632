import Actuator.Lib.OrdMap
import Actuator.Coordinator.Frames
import Actuator.Coordinator.Wire

/-!
# The sending side of `InterSatComm`

`sendMessage` completes the header of an outgoing message and either hands it
to a local handler on a thread of its own or queues it. `sendThreadFunc` pops
the queue and writes one frame for each message whose destination is connected.
-/

namespace Actuator.Coordinator

open Actuator.Lib

/-! ## The message queue -/

structure PriorityMessage where
  message : Message
  priority : Nat
  timestamp : UInt64
deriving DecidableEq

/-- `PriorityMessage::operator<`: the smaller priority number and then the older message come first. -/
def PriorityMessage.lt (a b : PriorityMessage) : Bool :=
  if a.priority ≠ b.priority then a.priority > b.priority else a.timestamp > b.timestamp

structure MessageQueue where
  queue : List PriorityMessage := []
  maxSize : Nat

namespace MessageQueue

/-- `push`, with the clock reading that stamps the entry. -/
def push (q : MessageQueue) (now : UInt64) (message : Message) : Bool × MessageQueue :=
  if q.queue.length ≥ q.maxSize then (false, q)
  else
    let pm : PriorityMessage := { message, priority := message.header.priority.raw.toNat, timestamp := now }
    (true, { q with queue := q.queue ++ [pm] })

/-- The entries no other entry precedes. -/
def tops (q : MessageQueue) : List PriorityMessage := q.queue.filter fun pm => q.queue.all fun other => !pm.lt other

/-- `pop`. A `std::priority_queue` leaves open which of several top entries it returns, so the
choice is an argument. -/
def pop (q : MessageQueue) (choice : Nat) : Option (Message × MessageQueue) :=
  (q.tops[choice % q.tops.length]?).map fun pm => (pm.message, { q with queue := q.queue.erase pm })

theorem pop_singleton (pm : PriorityMessage) (maxSize choice : Nat) :
    pop ⟨[pm], maxSize⟩ choice = some (pm.message, ⟨[], maxSize⟩) := by
  simp [pop, tops, PriorityMessage.lt, Nat.mod_one]

end MessageQueue

/-! ## State -/

structure RemoteNode where
  /-- The connection, or `none` for `INVALID_SOCKET_VALUE`. -/
  socketFd : Option SendSocket
  messagesSent : Nat
  bytesSent : Nat

/-- The part of `CommConfig` the sending side reads. -/
structure CommConfig where
  nodeId : Str

/-- `InterSatComm` for local handlers of type `H`. -/
structure InterSatComm (H : Type) where
  config : CommConfig
  nodes : OrdMap Str RemoteNode
  localHandlers : OrdMap Str H
  sendQueue : MessageQueue
  sequenceId : UInt32

namespace InterSatComm

variable {H : Type}

/-- `fetch_add` on the sequence counter. -/
def getNextSequenceId (st : InterSatComm H) : UInt32 × InterSatComm H :=
  (st.sequenceId, { st with sequenceId := st.sequenceId + 1 })

def registerLocalHandler (st : InterSatComm H) (nodeId : Str) (handler : H) : InterSatComm H :=
  if nodeId.isEmpty then st else { st with localHandlers := st.localHandlers.insert nodeId handler }

def removeNode (st : InterSatComm H) (nodeId : Str) : InterSatComm H := { st with nodes := st.nodes.erase nodeId }

/-! ## Sending -/

/-- What `sendMessage` did with an accepted message. -/
inductive SendResult (H : Type) where
  | rejected
  | detached (handler : H) (outbound : Message)
  | queued

/-- The destination `sendMessage` works with. -/
def targetNode (destNodeId : Str) (message : Message) : Str :=
  if destNodeId.isEmpty then message.header.destNodeId else destNodeId

/-- The middle part of `sendMessage`, which fills in and normalises the header. -/
def completeHeader (st : InterSatComm H) (now : UInt64) (destNodeId : Str) (message : Message) :
    Message × InterSatComm H :=
  let header := message.header
  let (sequenceId, st) := if header.sequenceId = 0 then st.getNextSequenceId else (header.sequenceId, st)
  ({ message with
      header := {
        magic := MessageHeader.magicNumber
        version := MessageHeader.protocolVersion
        msgType := header.msgType
        sequenceId
        timestampMs := if header.timestampMs = 0 then now else header.timestampMs
        sourceNodeId := if header.sourceNodeId.isEmpty then st.config.nodeId else header.sourceNodeId
        destNodeId := targetNode destNodeId message
        priority :=
          if header.priority ≠ .low ∧ header.priority ≠ .normal ∧ header.priority ≠ .urgent ∧
            header.priority ≠ .emergency then .normal else header.priority
        payloadSize := UInt32.ofNat message.payload.length
        checksum := 0 } }, st)

/-- `sendMessage`, with the two clock readings it may take. -/
def sendMessage (st : InterSatComm H) (now pushedAt : UInt64) (destNodeId : Str) (message : Message) :
    SendResult H × InterSatComm H :=
  if (targetNode destNodeId message).isEmpty then (.rejected, st)
  else
    let (outbound, st) := st.completeHeader now destNodeId message
    match st.localHandlers.find? (targetNode destNodeId message) with
    | some handler => (.detached handler outbound, st)
    | none =>
      match st.sendQueue.push pushedAt outbound with
      | (false, _) => (.rejected, st)
      | (true, sendQueue) => (.queued, { st with sendQueue })

/-- One round of the loop in `sendThreadFunc`. -/
def sendThreadFunc (st : InterSatComm H) (choice : Nat) : InterSatComm H :=
  match st.sendQueue.pop choice with
  | none => st
  | some (message, sendQueue) =>
    let st := { st with sendQueue }
    match st.nodes.find? message.header.destNodeId with
    | none => st
    | some node =>
      match node.socketFd with
      | none => st
      | some targetSocket =>
        let data := serialize message
        match sendData targetSocket data with
        | (false, _) => st.removeNode message.header.destNodeId
        | (true, targetSocket) =>
          { st with nodes := st.nodes.insert message.header.destNodeId {
              socketFd := some targetSocket
              messagesSent := node.messagesSent + 1
              bytesSent := node.bytesSent + data.length } }

/-! ## Outgoing messages -/

/-- The sender named in an outgoing header. -/
def outboundSource (st : InterSatComm H) (message : Message) : Str :=
  if message.header.sourceNodeId.isEmpty then st.config.nodeId else message.header.sourceNodeId

/-- What `sendMessage` makes of a message. -/
structure Outbound (st : InterSatComm H) (destNodeId : Str) (message outbound : Message) : Prop where
  msgType : outbound.header.msgType = message.header.msgType
  source : outbound.header.sourceNodeId = st.outboundSource message
  dest : outbound.header.destNodeId = targetNode destNodeId message
  named : outbound.header.priority.Named
  payload : outbound.payload = message.payload
  payloadSize : outbound.header.payloadSize = UInt32.ofNat message.payload.length

/-- The priority `sendMessage` writes is an enumerator. -/
theorem named_normalized (p : Priority) :
    (if p ≠ .low ∧ p ≠ .normal ∧ p ≠ .urgent ∧ p ≠ .emergency then Priority.normal else p).Named := by
  split
  · exact Or.inr (Or.inl rfl)
  · rename_i named
    simpa only [ne_eq, Priority.Named, not_and_or, not_not] using named

theorem completeHeader_outbound (st : InterSatComm H) (now : UInt64) (destNodeId : Str) (message : Message) :
    Outbound st destNodeId message (st.completeHeader now destNodeId message).1 := by
  refine ⟨rfl, ?_, rfl, named_normalized _, rfl, rfl⟩
  simp only [completeHeader, outboundSource]
  by_cases fresh : message.header.sequenceId = 0
  · rw [if_pos fresh, getNextSequenceId]
  · rw [if_neg fresh]

/-- Completing a header uses up at most a sequence number. -/
theorem completeHeader_frame (st : InterSatComm H) (now : UInt64) (destNodeId : Str) (message : Message) :
    ∃ sequenceId, (st.completeHeader now destNodeId message).2 = { st with sequenceId } := by
  simp only [completeHeader]
  split <;> exact ⟨_, rfl⟩

/-- Sending leaves the handlers as they are, and a detached handler is the one of the destination. -/
theorem sendMessage_detached (st : InterSatComm H) (now pushedAt : UInt64) (destNodeId : Str) (message : Message) :
    (st.sendMessage now pushedAt destNodeId message).2.localHandlers = st.localHandlers ∧
      ∀ handler outbound, (st.sendMessage now pushedAt destNodeId message).1 = .detached handler outbound →
        st.localHandlers.find? (targetNode destNodeId message) = some handler ∧
          Outbound st destNodeId message outbound := by
  have completed := completeHeader_outbound st now destNodeId message
  obtain ⟨sequenceId, frame⟩ := completeHeader_frame st now destNodeId message
  simp only [sendMessage, frame]
  split
  · simp
  · split
    · rename_i handler found
      refine ⟨rfl, fun h outbound same => ?_⟩
      cases same
      exact ⟨found, completed⟩
    · split
      · simp
      · simp

/-- A destination with a local handler gets a thread for it. -/
theorem sendMessage_of_handler (st : InterSatComm H) (now pushedAt : UInt64) {destNodeId : Str} {message : Message}
    (named : targetNode destNodeId message ≠ []) {handler : H}
    (known : st.localHandlers.find? (targetNode destNodeId message) = some handler) :
    ∃ outbound, (st.sendMessage now pushedAt destNodeId message).1 = .detached handler outbound := by
  obtain ⟨sequenceId, frame⟩ := completeHeader_frame st now destNodeId message
  refine ⟨(st.completeHeader now destNodeId message).1, ?_⟩
  simp only [sendMessage, frame, known]
  rw [if_neg (by simpa using named)]

end InterSatComm

end Actuator.Coordinator
