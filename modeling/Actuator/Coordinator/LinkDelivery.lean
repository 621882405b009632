import Actuator.Coordinator.FrameDelivery
import Actuator.Coordinator.QueueOrder
import Actuator.Coordinator.SendPath

/-!
# Delivery across a link

From `sendMessage` at one node to the handler at another: the message waits in
the queue, the sending thread writes it as a frame, the socket carries the bytes
in pieces, and the receiving thread reads the frame, decodes it and calls the
handler. Other threads may call `sendMessage` meanwhile, and change the table of
the nodes as long as they leave the destination its connection. Then what was
accepted for the destination arrives once and nothing else does
(`link_delivers`).
-/

namespace Actuator.Coordinator

open Actuator.Lib
open NodeTable (Call callsTo receiveFrame messageFor callsTo_receiveFrame)

variable {H : Type}

/-- What the threads of the sending node do. -/
inductive LinkEvent where
  | sendMessage (now pushedAt : UInt64) (destNodeId : Str) (message : Message)
  | sendThreadFunc (choice : Nat)
  /-- Another thread changes the table of the nodes. -/
  | changeNodes (nodes : OrdMap Str RemoteNode)

/-- The sending node, with the run of its queue so far. -/
structure Link (H : Type) where
  comm : InterSatComm H
  history : QueueRun

namespace Link

/-- What the event does with the queue. A message for a local handler does not enter it. -/
def queueOperation (comm : InterSatComm H) : LinkEvent → Option QueueOperation
  | .sendMessage now pushedAt destNodeId message =>
    if (InterSatComm.targetNode destNodeId message).isEmpty then none
    else
      match comm.localHandlers.find? (InterSatComm.targetNode destNodeId message) with
      | some _ => none
      | none => some (.push pushedAt (comm.completeHeader now destNodeId message).1)
  | .sendThreadFunc choice => some (.pop choice)
  | .changeNodes _ => none

def performComm (comm : InterSatComm H) : LinkEvent → InterSatComm H
  | .sendMessage now pushedAt destNodeId message => (comm.sendMessage now pushedAt destNodeId message).2
  | .sendThreadFunc choice => comm.sendThreadFunc choice
  | .changeNodes nodes => { comm with nodes }

def perform (link : Link H) (event : LinkEvent) : Link H where
  comm := performComm link.comm event
  history := ((queueOperation link.comm event).map link.history.perform).getD link.history

/-- The connection of a node. -/
def connection (nodes : OrdMap Str RemoteNode) (nodeId : Str) : Option SendSocket :=
  (nodes.find? nodeId).bind RemoteNode.socketFd

/-- Other threads leave the destination its connection. -/
def Spares (destNodeId : Str) (event : LinkEvent) (link : Link H) : Prop :=
  ∀ nodes, event = .changeNodes nodes → connection nodes destNodeId = connection link.comm.nodes destNodeId

/-- And a message that enters the queue is stamped later than those of its priority that wait. -/
def SparesLater (destNodeId : Str) (event : LinkEvent) (link : Link H) : Prop :=
  Spares destNodeId event link ∧
    ∀ operation, queueOperation link.comm event = some operation → QueueRun.stampsLater operation link.history = true

/-- A node whose queue is empty. -/
def fresh (comm : InterSatComm H) : Link H := ⟨comm, { queue := comm.sendQueue }⟩

abbrev Reaches (destNodeId : Str) : Link H → Link H → Prop :=
  Events.Reaches (fun event link => some (link.perform event)) (Spares destNodeId)

abbrev ReachesLater (destNodeId : Str) : Link H → Link H → Prop :=
  Events.Reaches (fun event link => some (link.perform event)) (SparesLater destNodeId)

/-! ## The queue -/

/-- The messages for a node. -/
def forNode (nodeId : Str) (messages : List Message) : List Message :=
  messages.filter fun message => message.header.destNodeId = nodeId

/-- The encoding of a message fits a frame, and the length bytes of the ids. -/
structure Fits (message : Message) : Prop where
  source : message.header.sourceNodeId.length ≤ 255
  dest : message.header.destNodeId.length ≤ 255
  frame : (serialize message).length ≤ kMaxFrameSizeBytes.toNat

/-- What `sendMessage` makes sure of. -/
structure Completed (message : Message) : Prop where
  magic : message.header.magic = MessageHeader.magicNumber
  named : message.header.priority.Named
  payloadSize : message.header.payloadSize = UInt32.ofNat message.payload.length

theorem completed_completeHeader (comm : InterSatComm H) (now : UInt64) (destNodeId : Str) (message : Message) :
    Completed (comm.completeHeader now destNodeId message).1 := by
  have outbound := comm.completeHeader_outbound now destNodeId message
  exact ⟨rfl, outbound.named, outbound.payload ▸ outbound.payloadSize⟩

/-- A message that fits is read as it was written. -/
theorem deserializeMessage_completed {message : Message} (completed : Completed message) (fits : Fits message) :
    deserializeMessage (serialize message) = some message := by
  have size : message.header.payloadSize.toNat = message.payload.length := by
    have small := fits.frame
    rw [InterSatComm.length_serialize, toNat_kMaxFrameSizeBytes] at small
    rw [completed.payloadSize]
    exact UInt32.toNat_ofNat_of_lt' (by show _ < 2 ^ 32; omega)
  obtain ⟨f, carries, printed⟩ := exists_frame_of_message message fits.source fits.dest completed.named size
  rw [← printed, ← carries, ← List.append_nil f.bytes]
  exact deserializeMessage_bytes f []

/-- The node's queue is the one of the history. -/
theorem sendQueue_perform {link : Link H} (same : link.comm.sendQueue = link.history.queue) (event : LinkEvent) :
    (link.perform event).comm.sendQueue = (link.perform event).history.queue := by
  cases event with
  | sendMessage now pushedAt destNodeId message =>
    obtain ⟨sequenceId, frame⟩ := link.comm.completeHeader_frame now destNodeId message
    simp only [perform, performComm, queueOperation, InterSatComm.sendMessage, frame]
    by_cases unnamed : (InterSatComm.targetNode destNodeId message).isEmpty = true
    · rw [if_pos unnamed, if_pos unnamed]
      exact same
    rw [if_neg unnamed, if_neg unnamed]
    cases known : link.comm.localHandlers.find? (InterSatComm.targetNode destNodeId message) with
    | some handler => exact same
    | none =>
      simp only [Option.map_some, Option.getD_some, QueueRun.perform, ← same]
      rcases pushed : link.comm.sendQueue.push pushedAt (link.comm.completeHeader now destNodeId message).1 with
        ⟨accepted, queue⟩
      cases accepted with
      | true => rfl
      | false =>
        rcases MessageQueue.push_eq pushed with ⟨-, rfl⟩ | ⟨entered, -⟩
        · rfl
        · cases entered
  | sendThreadFunc choice =>
    simp only [perform, performComm, queueOperation, Option.map_some, Option.getD_some, QueueRun.perform,
      InterSatComm.sendThreadFunc, ← same]
    cases popped : link.comm.sendQueue.pop choice with
    | none => exact same
    | some entry =>
      obtain ⟨message, sendQueue⟩ := entry
      dsimp only
      split
      · rfl
      · split
        · rfl
        · split
          · rfl
          · rfl
  | changeNodes nodes => exact same

/-- What counts as accepted is what `sendMessage` has accepted for the queue. -/
theorem accepted_sendMessage {link : Link H} (same : link.comm.sendQueue = link.history.queue) (now pushedAt : UInt64)
    (destNodeId : Str) (message : Message) :
    (link.perform (.sendMessage now pushedAt destNodeId message)).history.accepted = link.history.accepted ++
      match (link.comm.sendMessage now pushedAt destNodeId message).1 with
      | .queued => [(link.comm.completeHeader now destNodeId message).1]
      | _ => [] := by
  obtain ⟨sequenceId, frame⟩ := link.comm.completeHeader_frame now destNodeId message
  simp only [perform, queueOperation, InterSatComm.sendMessage, frame]
  by_cases unnamed : (InterSatComm.targetNode destNodeId message).isEmpty = true
  · rw [if_pos unnamed, if_pos unnamed]
    exact (List.append_nil _).symm
  rw [if_neg unnamed, if_neg unnamed]
  cases known : link.comm.localHandlers.find? (InterSatComm.targetNode destNodeId message) with
  | some handler => exact (List.append_nil _).symm
  | none =>
    simp only [Option.map_some, Option.getD_some, QueueRun.perform, ← same]
    rcases link.comm.sendQueue.push pushedAt (link.comm.completeHeader now destNodeId message).1 with ⟨accepted, queue⟩
    cases accepted with
    | true => rfl
    | false => exact (List.append_nil _).symm

/-! ## The connection -/

theorem connection_insert (nodes : OrdMap Str RemoteNode) (name nodeId : Str) (node : RemoteNode) :
    connection (nodes.insert name node) nodeId = if nodeId = name then node.socketFd else connection nodes nodeId := by
  unfold connection
  rw [OrdMap.find?_insert]
  split
  · rfl
  · rfl

theorem connection_erase {nodes : OrdMap Str RemoteNode} {name nodeId : Str} (other : nodeId ≠ name) :
    connection (nodes.erase name) nodeId = connection nodes nodeId := by
  unfold connection
  rw [OrdMap.find?_erase, if_neg other]

/-- A round that is for another node leaves the connection alone. -/
theorem connection_sendThreadFunc_other {comm : InterSatComm H} {choice : Nat} {destNodeId : Str}
    (other : ∀ message queue, comm.sendQueue.pop choice = some (message, queue) →
      message.header.destNodeId ≠ destNodeId) :
    connection (comm.sendThreadFunc choice).nodes destNodeId = connection comm.nodes destNodeId := by
  unfold InterSatComm.sendThreadFunc
  cases popped : comm.sendQueue.pop choice with
  | none => rfl
  | some entry =>
    obtain ⟨message, sendQueue⟩ := entry
    have apart := (other message sendQueue popped).symm
    dsimp only
    split
    · rfl
    · split
      · rfl
      · split
        · exact connection_erase apart
        · exact (connection_insert ..).trans (if_neg apart)

/-- A round for the node writes one frame, if the message fits. -/
theorem connection_sendThreadFunc {comm : InterSatComm H} {choice : Nat} {message : Message} {queue : MessageQueue}
    {socket : SendSocket} (popped : comm.sendQueue.pop choice = some (message, queue))
    (connected : connection comm.nodes message.header.destNodeId = some socket) (transmits : socket.Transmits)
    (fits : Fits message) :
    ∃ socket', connection (comm.sendThreadFunc choice).nodes message.header.destNodeId = some socket' ∧ socket'.Transmits ∧
      socket'.wire = socket.wire ++ frameBytes (serialize message) := by
  obtain ⟨node, found, opened⟩ := Option.bind_eq_some_iff.1 connected
  have nonempty : 1 ≤ (serialize message).length := by
    rw [InterSatComm.length_serialize]
    omega
  obtain ⟨socket', sent, wire, transmits'⟩ := sendData_transmits transmits nonempty fits.frame
  refine ⟨socket', ?_, transmits', wire⟩
  simp only [InterSatComm.sendThreadFunc, popped, found, opened, sent]
  exact (connection_insert ..).trans (if_pos rfl)

theorem sendMessage_nodes (comm : InterSatComm H) (now pushedAt : UInt64) (destNodeId : Str) (message : Message) :
    (comm.sendMessage now pushedAt destNodeId message).2.nodes = comm.nodes := by
  obtain ⟨sequenceId, frame⟩ := comm.completeHeader_frame now destNodeId message
  simp only [InterSatComm.sendMessage, frame]
  split
  · rfl
  · split
    · rfl
    · split
      · rfl
      · rfl

/-! ## What holds in every state -/

/-- The frames of messages, one behind the other. -/
def frames (messages : List Message) : Str := (messages.map serialize).flatMap frameBytes

theorem frames_concat (messages : List Message) (message : Message) :
    frames (messages ++ [message]) = frames messages ++ frameBytes (serialize message) := by
  simp [frames]

theorem forNode_concat (nodeId : Str) (messages : List Message) (message : Message) :
    forNode nodeId (messages ++ [message]) =
      forNode nodeId messages ++ if message.header.destNodeId = nodeId then [message] else [] :=
  QueueRun.filter_concat (fun message : Message => message.header.destNodeId = nodeId) messages message

/-- As long as all that was taken out of the queue for the node fits, its connection is there and carries the frames of
these messages behind what it carried at the beginning. -/
structure Linked (destNodeId : Str) (socket : SendSocket) (link : Link H) : Prop where
  queue : link.comm.sendQueue = link.history.queue
  sound : ∃ capacity, link.history.Sound capacity
  completed : ∀ message ∈ link.history.accepted, Completed message
  written : (∀ message ∈ forNode destNodeId link.history.popped, Fits message) →
    ∃ socket', connection link.comm.nodes destNodeId = some socket' ∧ socket'.Transmits ∧
      socket'.wire = socket.wire ++ frames (forNode destNodeId link.history.popped)

theorem Linked.accepted_of_popped {destNodeId : Str} {socket : SendSocket} {link : Link H}
    (linked : Linked destNodeId socket link) {message : Message} (mem : message ∈ link.history.popped) :
    message ∈ link.history.accepted := by
  obtain ⟨capacity, sound⟩ := linked.sound
  have among : message ∈ (link.history.accepted : Multiset Message) := by
    rw [sound.balanced]
    exact Multiset.mem_add.2 (.inl mem)
  exact among

theorem popped_perform_pop (run : QueueRun) (choice : Nat) :
    (run.perform (.pop choice)).accepted = run.accepted ∧
      (run.perform (.pop choice)).popped = run.popped ++ ((run.queue.pop choice).map Prod.fst).toList := by
  cases popped : run.queue.pop choice with
  | none =>
    simp only [QueueRun.perform, popped]
    exact ⟨trivial, (List.append_nil _).symm⟩
  | some entry =>
    simp only [QueueRun.perform, popped]
    exact ⟨trivial, rfl⟩

theorem perform_push (run : QueueRun) (now : UInt64) (message : Message) :
    (run.perform (.push now message)).popped = run.popped ∧
      ∀ other ∈ (run.perform (.push now message)).accepted, other ∈ run.accepted ∨ other = message := by
  rcases pushed : run.queue.push now message with ⟨accepted, queue⟩
  cases accepted with
  | true =>
    simp only [QueueRun.perform, pushed]
    exact ⟨trivial, fun other mem => (List.mem_append.1 mem).imp_right List.mem_singleton.1⟩
  | false =>
    simp only [QueueRun.perform, pushed]
    exact ⟨trivial, fun other mem => .inl mem⟩

/-- The operation that a message comes with is its push. -/
theorem queueOperation_push {comm : InterSatComm H} {event : LinkEvent} {operation : QueueOperation}
    (does : queueOperation comm event = some operation) :
    (∃ choice, event = .sendThreadFunc choice ∧ operation = .pop choice) ∨
      ∃ pushedAt message, operation = .push pushedAt message ∧ Completed message ∧
        (performComm comm event).nodes = comm.nodes := by
  cases event with
  | sendMessage now pushedAt destNodeId message =>
    simp only [queueOperation] at does
    split at does
    · cases does
    · split at does
      · cases does
      · cases does
        exact .inr ⟨pushedAt, _, rfl, completed_completeHeader comm now destNodeId message, sendMessage_nodes comm ..⟩
  | sendThreadFunc choice =>
    cases does
    exact .inl ⟨choice, rfl, rfl⟩
  | changeNodes nodes => cases does

/-- A round of the sending thread adds the frame of what it takes out, if that is for the node. -/
theorem Linked.pop {destNodeId : Str} {socket : SendSocket} {link : Link H} (linked : Linked destNodeId socket link)
    (choice : Nat) (fits : ∀ message ∈ forNode destNodeId
      (link.history.popped ++ ((link.comm.sendQueue.pop choice).map Prod.fst).toList), Fits message) :
    ∃ socket', connection (link.comm.sendThreadFunc choice).nodes destNodeId = some socket' ∧ socket'.Transmits ∧
      socket'.wire = socket.wire ++ frames (forNode destNodeId
        (link.history.popped ++ ((link.comm.sendQueue.pop choice).map Prod.fst).toList)) := by
  cases popped : link.comm.sendQueue.pop choice with
  | none =>
    have kept : connection (link.comm.sendThreadFunc choice).nodes destNodeId = connection link.comm.nodes destNodeId := by
      refine connection_sendThreadFunc_other fun message queue taken => ?_
      rw [popped] at taken
      cases taken
    rw [popped] at fits
    rw [kept]
    simp only [Option.map_none, Option.toList_none, List.append_nil] at fits ⊢
    exact linked.written fits
  | some entry =>
    obtain ⟨message, rest⟩ := entry
    rw [popped] at fits
    simp only [Option.map_some, Option.toList_some, forNode_concat] at fits ⊢
    obtain ⟨socket₁, connected, transmits, wire⟩ := linked.written fun other mem => fits other (List.mem_append_left _ mem)
    by_cases own : message.header.destNodeId = destNodeId
    · rw [if_pos own] at fits ⊢
      have fit := fits message (List.mem_append_right _ List.mem_cons_self)
      subst own
      obtain ⟨socket₂, connected₂, transmits₂, wire₂⟩ := connection_sendThreadFunc popped connected transmits fit
      refine ⟨socket₂, connected₂, transmits₂, ?_⟩
      rw [wire₂, wire, frames_concat, List.append_assoc]
    · rw [if_neg own, List.append_nil]
      refine ⟨socket₁, ?_, transmits, wire⟩
      rw [← connected]
      refine connection_sendThreadFunc_other fun other queue taken => ?_
      rw [popped] at taken
      cases taken
      exact own

/-- What a step does to the connection, by what it takes out of the queue. -/
theorem Linked.perform {destNodeId : Str} {socket : SendSocket} {link : Link H} (linked : Linked destNodeId socket link)
    {event : LinkEvent} (spares : Spares destNodeId event link) : Linked destNodeId socket (link.perform event) := by
  obtain ⟨capacity, sound⟩ := linked.sound
  have queue := sendQueue_perform linked.queue event
  cases does : queueOperation link.comm event with
  | none =>
    have same : link.perform event = ⟨performComm link.comm event, link.history⟩ := by
      simp only [Link.perform, does, Option.map_none, Option.getD_none]
    rw [same] at queue ⊢
    refine ⟨queue, ⟨capacity, sound⟩, linked.completed, fun fits => ?_⟩
    have kept : connection (performComm link.comm event).nodes destNodeId = connection link.comm.nodes destNodeId := by
      cases event with
      | sendMessage now pushedAt dest message => exact congrArg (connection · _) (sendMessage_nodes link.comm ..)
      | sendThreadFunc choice => cases does
      | changeNodes nodes => exact spares nodes rfl
    rw [kept]
    exact linked.written fits
  | some operation =>
    have same : link.perform event = ⟨performComm link.comm event, link.history.perform operation⟩ := by
      simp only [Link.perform, does, Option.map_some, Option.getD_some]
    rw [same] at queue ⊢
    rcases queueOperation_push does with ⟨choice, rfl, rfl⟩ | ⟨pushedAt, message, rfl, completed, nodes⟩
    · obtain ⟨accepted, popped⟩ := popped_perform_pop link.history choice
      refine ⟨queue, ⟨capacity, sound.perform (.pop choice)⟩, accepted ▸ linked.completed, fun fits => ?_⟩
      rw [popped, ← linked.queue] at fits ⊢
      exact linked.pop choice fits
    · obtain ⟨popped, accepted⟩ := perform_push link.history pushedAt message
      refine ⟨queue, ⟨capacity, sound.perform (.push pushedAt message)⟩, fun other mem => ?_, fun fits => ?_⟩
      · rcases accepted other mem with old | rfl
        · exact linked.completed other old
        · exact completed
      · rw [popped] at fits ⊢
        rw [nodes]
        exact linked.written fits

theorem linked_fresh {comm : InterSatComm H} (empty : comm.sendQueue.queue = []) {destNodeId : Str} {socket : SendSocket}
    (connected : connection comm.nodes destNodeId = some socket) (transmits : socket.Transmits) :
    Linked destNodeId socket (fresh comm) := by
  have queue : comm.sendQueue = { maxSize := comm.sendQueue.maxSize } := by rw [← empty]
  refine ⟨rfl, ⟨comm.sendQueue.maxSize, ?_⟩, (fun _ mem => nomatch mem), fun _ => ?_⟩
  · have sound := QueueRun.sound_empty comm.sendQueue.maxSize
    rw [← queue] at sound
    exact sound
  · exact ⟨socket, connected, transmits, (List.append_nil _).symm⟩

theorem Reaches.linked {comm : InterSatComm H} {link : Link H} {destNodeId : Str} {socket : SendSocket}
    (reaches : Reaches destNodeId (fresh comm) link) (initially : Linked destNodeId socket (fresh comm)) :
    Linked destNodeId socket link := by
  refine Events.Reaches.keeps (fun event before after linked spares performed => ?_) reaches initially
  cases performed
  exact linked.perform spares

theorem ReachesLater.ordered {comm : InterSatComm H} (empty : comm.sendQueue.queue = []) {link : Link H} {destNodeId : Str}
    (reaches : ReachesLater destNodeId (fresh comm) link) : link.history.Ordered := by
  have initially : (fresh comm).history.Ordered := by
    have queue : comm.sendQueue = { maxSize := comm.sendQueue.maxSize } := by rw [← empty]
    have ordered := QueueRun.ordered_empty comm.sendQueue.maxSize
    rw [← queue] at ordered
    exact ordered
  have step : ∀ event (before after : Link H), before.history.Ordered → SparesLater destNodeId event before →
      some (before.perform event) = some after → after.history.Ordered := by
    intro event before after held may performed
    cases performed
    unfold Link.perform
    cases does : queueOperation before.comm event with
    | none => exact held
    | some operation =>
      cases operation with
      | push now message => exact held.push (may.2 _ does)
      | pop choice => exact held.pop choice
  exact reaches.keeps step initially

/-! ## The receiving side -/

/-- The frames of messages for a node, in whatever pieces they come, make one call of its handler each. -/
theorem receiveFrames_calls {K : Type} {destNodeId : Str} {messages : List Message}
    (each : ∀ message ∈ messages, Completed message ∧ Fits message ∧ message.header.destNodeId = destNodeId)
    {peer : RecvSocket} (delivers : peer.Delivers) (stream : peer.incoming = frames messages) :
    (receiveFrames peer messages.length).1 = messages.map (fun message => (true, serialize message)) ∧
      (receiveFrames peer messages.length).2.incoming = [] ∧
      ∀ (localHandlers : OrdMap Str (Option K)) (handler : K), localHandlers.find? destNodeId = some (some handler) →
        callsTo destNodeId (((receiveFrames peer messages.length).1.map Prod.snd).flatMap (receiveFrame localHandlers)) =
          messages.map fun message => { nodeId := destNodeId, handler, message } := by
  have sizes : ∀ frame ∈ messages.map serialize, 1 ≤ frame.length ∧ frame.length ≤ kMaxFrameSizeBytes.toNat := by
    intro frame mem
    obtain ⟨message, inside, rfl⟩ := List.mem_map.1 mem
    refine ⟨?_, (each message inside).2.1.frame⟩
    rw [InterSatComm.length_serialize]
    omega
  have whole : peer.incoming = (messages.map serialize).flatMap frameBytes ++ [] := stream.trans (List.append_nil _).symm
  obtain ⟨peer', received, rest⟩ := receiveFrames_delivers (messages.map serialize) peer [] delivers sizes whole
  rw [List.length_map] at received
  rw [received]
  refine ⟨by rw [List.map_map]; rfl, rest, fun localHandlers handler registered => ?_⟩
  rw [List.map_map, show (Prod.snd ∘ fun frame : Str => (true, frame)) = id from rfl, List.map_id]
  clear sizes whole received stream
  induction messages with
  | nil => rfl
  | cons message messages ih =>
    obtain ⟨⟨completed, fits, dest⟩, later⟩ := List.forall_mem_cons.1 each
    have own : messageFor destNodeId (serialize message) = some message := by
      unfold messageFor
      rw [deserializeMessage_completed completed fits]
      simp [Option.filter, completed.magic, dest]
    have split : ∀ calls more : List (Call K), callsTo destNodeId (calls ++ more) =
        callsTo destNodeId calls ++ callsTo destNodeId more := fun _ _ => List.filter_append ..
    rw [List.map_cons, List.flatMap_cons, split, callsTo_receiveFrame registered, own, ih later]
    rfl

/-! ## From end to end -/

/-- Once no message for the node waits any more, all that were accepted for it have arrived if they all fit a frame: the
connection is still there and carries their frames, and a peer that reads these, in whatever pieces, calls the node's
handler once for each of them and for nothing else. Within a priority they arrive in the order in which they were sent, if
the clock has stamped them so. -/
theorem link_delivers {K : Type} {comm : InterSatComm H} (empty : comm.sendQueue.queue = []) {destNodeId : Str}
    {socket : SendSocket} (connected : connection comm.nodes destNodeId = some socket) (transmits : socket.Transmits)
    {link : Link H} (reaches : Reaches destNodeId (fresh comm) link)
    (fits : ∀ message ∈ forNode destNodeId link.history.accepted, Fits message)
    (drained : ∀ pm ∈ link.comm.sendQueue.queue, pm.message.header.destNodeId ≠ destNodeId) :
    ∃ (socket' : SendSocket) (arrived : List Message), connection link.comm.nodes destNodeId = some socket' ∧
      arrived.Perm (forNode destNodeId link.history.accepted) ∧ socket'.wire = socket.wire ++ frames arrived ∧
      (ReachesLater destNodeId (fresh comm) link → ∀ priority, QueueRun.ofPriority priority arrived =
        QueueRun.ofPriority priority (forNode destNodeId link.history.accepted)) ∧
      ∀ peer : RecvSocket, peer.Delivers → peer.incoming = frames arrived →
        (receiveFrames peer arrived.length).1 = arrived.map (fun message => (true, serialize message)) ∧
        (receiveFrames peer arrived.length).2.incoming = [] ∧
        ∀ (localHandlers : OrdMap Str (Option K)) (handler : K), localHandlers.find? destNodeId = some (some handler) →
          callsTo destNodeId (((receiveFrames peer arrived.length).1.map Prod.snd).flatMap (receiveFrame localHandlers)) =
            arrived.map fun message => { nodeId := destNodeId, handler, message } := by
  have linked := reaches.linked (linked_fresh empty connected transmits)
  obtain ⟨capacity, sound⟩ := linked.sound
  have isFor : ∀ {message messages}, message ∈ forNode destNodeId messages →
      message ∈ messages ∧ message.header.destNodeId = destNodeId := fun mem =>
    ⟨(List.mem_filter.1 mem).1, of_decide_eq_true (List.mem_filter.1 mem).2⟩
  have popped : ∀ message ∈ forNode destNodeId link.history.popped,
      Completed message ∧ Fits message ∧ message.header.destNodeId = destNodeId := by
    intro message mem
    have among := linked.accepted_of_popped (isFor mem).1
    exact ⟨linked.completed message among, fits message (List.mem_filter.2 ⟨among, (List.mem_filter.1 mem).2⟩),
      (isFor mem).2⟩
  obtain ⟨socket', held, transmits', wire⟩ := linked.written fun message mem => (popped message mem).2.1
  have waits : forNode destNodeId link.history.queued = [] := by
    refine List.filter_eq_nil_iff.2 fun message mem own => ?_
    obtain ⟨pm, queued, rfl⟩ := List.mem_map.1 mem
    rw [← linked.queue] at queued
    exact drained pm queued (of_decide_eq_true own)
  refine ⟨socket', forNode destNodeId link.history.popped, held, ?_, wire, fun later priority => ?_,
    fun peer delivers stream => receiveFrames_calls popped delivers stream⟩
  · have balanced : (link.history.accepted).Perm (link.history.popped ++ link.history.queued) :=
      Multiset.coe_eq_coe.1 sound.balanced
    have shares := balanced.filter fun message => decide (message.header.destNodeId = destNodeId)
    rw [List.filter_append] at shares
    have all : (forNode destNodeId link.history.accepted).Perm
        (forNode destNodeId link.history.popped ++ forNode destNodeId link.history.queued) := shares
    rw [waits, List.append_nil] at all
    exact all.symm
  · have ordered := (later.ordered empty).accepted priority
    have swap : ∀ messages, QueueRun.ofPriority priority (forNode destNodeId messages) =
        forNode destNodeId (QueueRun.ofPriority priority messages) := fun messages => List.filter_comm ..
    have none : forNode destNodeId ((link.history.waiting priority).map PriorityMessage.message) = [] := by
      refine List.filter_eq_nil_iff.2 fun message mem own => ?_
      obtain ⟨pm, inside, rfl⟩ := List.mem_map.1 mem
      refine drained pm ?_ (of_decide_eq_true own)
      rw [linked.queue]
      exact (List.mem_filter.1 inside).1
    rw [swap, swap, ordered]
    unfold forNode at none ⊢
    rw [List.filter_append, none, List.append_nil]

/-! ## Two messages that overtake each other -/

/-- A usual message, and an urgent one that is sent behind it. -/
def overtaking : List LinkEvent := [
  .sendMessage 0 7 (lit "D") (InterSatComm.messageFrom (lit "S")),
  .sendMessage 0 8 (lit "D") { header := { sourceNodeId := lit "S", priority := .urgent }, payload := [3] },
  .sendThreadFunc 0, .sendThreadFunc 0]

/-- No event of another thread. -/
def isOwn : LinkEvent → Bool
  | .changeNodes _ => false
  | _ => true

/-- The peer reads a byte at a time. -/
theorem link_delivers_sample : ∃ (peer : RecvSocket) (arrived : List Message), peer.delivers = (fun _ => some 0) ∧
    arrived.length = 2 ∧
    callsTo (lit "D") (((receiveFrames peer 2).1.map Prod.snd).flatMap (receiveFrame (OrdMap.ofList [(lit "D", some ())]))) =
      arrived.map fun message => { nodeId := lit "D", handler := (), message } := by
  have ran : ∃ link, Events.run (fun event link => some (perform link event)) (fun event _ => isOwn event)
      (fresh InterSatComm.connectedNode) overtaking = some link ∧
      (∀ message ∈ forNode (lit "D") link.history.accepted, message.header.sourceNodeId.length ≤ 255 ∧
        message.header.destNodeId.length ≤ 255 ∧ (serialize message).length ≤ kMaxFrameSizeBytes.toNat) ∧
      (forNode (lit "D") link.history.accepted).length = 2 ∧ link.history.queue.queue = [] :=
    ⟨_, rfl, by decide, by decide, by decide⟩
  obtain ⟨link, ran, small, two, drained⟩ := ran
  have own : ∀ event (link : Link Unit), isOwn event = true → Spares (lit "D") event link := by
    intro event link own nodes changes
    rw [changes] at own
    cases own
  have reaches : Reaches (lit "D") (fresh InterSatComm.connectedNode) link := Events.reaches_of_run own ran
  have initially : Linked (lit "D") ⟨fun _ => some 65535, 0, []⟩ (fresh InterSatComm.connectedNode) :=
    linked_fresh rfl rfl fun _ => Option.some_ne_none _
  have linked := reaches.linked initially
  rw [← linked.queue] at drained
  obtain ⟨socket', arrived, -, perm, wire, -, delivered⟩ := link_delivers (K := Unit) rfl rfl (fun _ => Option.some_ne_none _)
    reaches (fun message mem => ⟨(small message mem).1, (small message mem).2.1, (small message mem).2.2⟩)
    (by rw [drained]; exact fun _ mem => nomatch mem)
  have length : arrived.length = 2 := perm.length_eq.trans two
  obtain ⟨-, -, calls⟩ := delivered ⟨fun _ => some 0, 0, socket'.wire⟩ (fun _ => Option.some_ne_none _) wire
  rw [length] at calls
  exact ⟨_, arrived, rfl, length, calls _ () rfl⟩

end Link

end Actuator.Coordinator
