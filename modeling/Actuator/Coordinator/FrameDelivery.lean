import Actuator.Coordinator.NodeTable

/-!
# Delivery of received frames

What a frame makes the local handlers do depends on the frame alone: a node's
handler is called once for a decoded message with the right magic number that
is for the node or for all (`callsTo_receiveFrame`). So it does not matter what
came before or what the frames do to the table of the connections
(`frames_delivered`). Nor do they cut their own connection off: its entry moves
from name to name, and the next pass finds the socket under the last one
(`Connected.perform`).
-/

namespace Actuator.Coordinator.NodeTable

open Actuator.Lib

variable {H : Type}

/-! ## Calls -/

/-- A call of the handler of a local node. -/
structure Call (H : Type) where
  nodeId : Str
  handler : H
  message : Message

/-- `processReceivedMessage`, as the calls that it makes. A registered handler may be an empty function. -/
def processReceivedMessage (localHandlers : OrdMap Str (Option H)) (message : Message) : List (Call H) :=
  if message.isValid then
    let handlers :=
      if message.isBroadcast then localHandlers.entries
      else
        match localHandlers.find? message.header.destNodeId with
        | some handler => [(message.header.destNodeId, handler)]
        | none => []
    handlers.filterMap fun entry => entry.2.map fun handler => { nodeId := entry.1, handler, message }
  else []

/-- What `receiveThreadFunc` calls for the bytes of a frame. -/
def receiveFrame (localHandlers : OrdMap Str (Option H)) (rawMessage : Str) : List (Call H) :=
  match deserializeMessage rawMessage with
  | some decoded => processReceivedMessage localHandlers decoded
  | none => []

/-- The message of a frame, if the frame is good and the message is for the node. -/
def messageFor (nodeId rawMessage : Str) : Option Message :=
  (deserializeMessage rawMessage).filter fun message =>
    message.header.magic == MessageHeader.magicNumber &&
      (message.header.destNodeId == nodeId || message.header.destNodeId == [])

def callsTo (nodeId : Str) (calls : List (Call H)) : List (Call H) := calls.filter fun call => call.nodeId = nodeId

/-- A good frame for the node calls its handler once, and no other frame does. -/
theorem callsTo_receiveFrame {localHandlers : OrdMap Str (Option H)} {nodeId : Str} {handler : H}
    (registered : localHandlers.find? nodeId = some (some handler)) (rawMessage : Str) :
    callsTo nodeId (receiveFrame localHandlers rawMessage) =
      ((messageFor nodeId rawMessage).map fun message => { nodeId, handler, message }).toList := by
  unfold receiveFrame messageFor
  cases decoded : deserializeMessage rawMessage with
  | none => rfl
  | some message =>
    simp only [processReceivedMessage, callsTo]
    by_cases valid : message.isValid = true
    · have magic : (message.header.magic == MessageHeader.magicNumber) = true := valid
      rw [if_pos valid]
      by_cases everyone : message.isBroadcast = true
      · have empty : message.header.destNodeId = [] := by simpa [Message.isBroadcast] using everyone
        rw [if_pos everyone, List.filter_filterMap]
        have own : (localHandlers.entries.filterMap fun entry =>
            (entry.2.map fun handler => ({ nodeId := entry.1, handler, message } : Call H)).filter
              fun call => call.nodeId = nodeId) =
            (localHandlers.entries.filter fun entry => entry.1 = nodeId).filterMap fun entry =>
              entry.2.map fun handler => { nodeId := entry.1, handler, message } := by
          rw [List.filterMap_filter]
          refine List.filterMap_congr fun entry _ => ?_
          by_cases same : entry.1 = nodeId <;> cases entry.2 <;> simp [same, Option.filter]
        rw [own, OrdMap.filter_key localHandlers registered fun entry => decide_eq_true_iff]
        simp [Option.filter, magic, empty]
      · have named : message.header.destNodeId ≠ [] := by simpa [Message.isBroadcast] using everyone
        rw [if_neg everyone]
        by_cases same : message.header.destNodeId = nodeId
        · rw [same, registered]
          simp [Option.filter, magic, same]
        · have other : ∀ found, (([(message.header.destNodeId, found)] : List (Str × Option H)).filterMap
              fun entry => entry.2.map fun handler => ({ nodeId := entry.1, handler, message } : Call H)).filter
              (fun call => call.nodeId = nodeId) = [] := by
            intro found
            cases found <;> simp [same]
          cases found : localHandlers.find? message.header.destNodeId with
          | none => simp [Option.filter, same, named]
          | some handler =>
            simp only [other handler]
            simp [Option.filter, same, named]
    · have magic : ¬ (message.header.magic == MessageHeader.magicNumber) = true := valid
      rw [if_neg valid]
      simp [Option.filter, magic]

/-! ## Runs -/

/-- A frame that was read from a connection, and the calls that were made for it. -/
structure Delivery (H : Type) where
  connection : Option Nat
  rawMessage : Str
  calls : List (Call H)

/-- The frame that an event reads, with what is called for it. -/
def deliveries (localHandlers : OrdMap Str (Option H)) : Event → State → List (Delivery H)
  | .receive rawMessage _, s =>
    match s.receiver.nodeSockets with
    | (_, socketFd) :: _ => [{
        connection := s.sockets.find? socketFd
        rawMessage
        calls := receiveFrame localHandlers rawMessage }]
    | [] => []
  | _, _ => []

/-- The given events, with the frames that they read in order. -/
def receiveRun (localHandlers : OrdMap Str (Option H)) : State → List Event → Option (List (Delivery H) × State)
  | s, [] => some ([], s)
  | s, e :: events =>
    (perform e s).bind fun next => (receiveRun localHandlers next events).map fun rest =>
      (deliveries localHandlers e s ++ rest.1, rest.2)

theorem calls_deliveries {localHandlers : OrdMap Str (Option H)} {e : Event} {s : State} :
    ∀ delivery ∈ deliveries localHandlers e s, delivery.calls = receiveFrame localHandlers delivery.rawMessage := by
  intro delivery mem
  unfold deliveries at mem
  split at mem
  · split at mem
    · rw [List.mem_singleton.1 mem]
    · cases mem
  · cases mem

theorem calls_receiveRun {localHandlers : OrdMap Str (Option H)} {s s' : State} {events : List Event}
    {log : List (Delivery H)} (ran : receiveRun localHandlers s events = some (log, s')) :
    ∀ delivery ∈ log, delivery.calls = receiveFrame localHandlers delivery.rawMessage := by
  induction events generalizing s log with
  | nil =>
    cases ran
    exact fun _ mem => nomatch mem
  | cons e events ih =>
    obtain ⟨next, _, continued⟩ := Option.bind_eq_some_iff.1 ran
    obtain ⟨rest, later, same⟩ := Option.map_eq_some_iff.1 continued
    cases same
    intro delivery mem
    rcases List.mem_append.1 mem with first | behind
    · exact calls_deliveries delivery first
    · exact ih later delivery behind

/-! ## The entry of a connection -/

/-- The socket has an entry, and an entry under a name for which the pass has the socket is one of this socket. -/
structure Connected (socketFd : Nat) (s : State) : Prop where
  entry : ∃ name node, s.nodes.find? name = some node ∧ node.socketFd = socketFd
  pass : ∀ name, (name, socketFd) ∈ s.receiver.nodeSockets → ∀ node, s.nodes.find? name = some node →
    node.socketFd = socketFd

/-- The event begins a pass, skips a socket or reads a frame from this one. -/
def readsOnly (socketFd : Nat) (s : State) : Event → Bool
  | .beginPass => true
  | .notReady => true
  | .receive _ _ => s.receiver.nodeSockets.head?.all fun head => head.2 == socketFd
  | _ => false

theorem Connected.update {socketFd : Nat} {s : State} {nodeId : Str} (connected : Connected socketFd s)
    (own : ∀ node, s.nodes.find? nodeId = some node → node.socketFd = socketFd) (size : Nat) (now : UInt64)
    (decoded : Message) : Connected socketFd (s.update nodeId size now decoded) := by
  unfold State.update
  cases found : s.nodes.find? nodeId with
  | none => exact connected
  | some node =>
    have socket := own node found
    dsimp only
    split
    · refine ⟨⟨_, _, OrdMap.find?_insert_self _ _ _, socket⟩, fun name noted other held => ?_⟩
      rw [OrdMap.find?_insert] at held
      split at held
      · cases held
        exact socket
      · rw [OrdMap.find?_erase] at held
        split at held
        · cases held
        · exact connected.pass name noted other held
    · refine ⟨⟨_, _, OrdMap.find?_insert_self _ _ _, socket⟩, fun name noted other held => ?_⟩
      rw [OrdMap.find?_insert] at held
      split at held
      · cases held
        exact socket
      · exact connected.pass name noted other held

/-- A frame of the connection, good or bad, leaves it in the table. -/
theorem Connected.perform {socketFd : Nat} {s s' : State} {e : Event} (connected : Connected socketFd s)
    (only : readsOnly socketFd s e = true) (performed : perform e s = some s') : Connected socketFd s' := by
  cases e with
  | beginPass =>
    simp only [NodeTable.perform] at performed
    split at performed
    · cases performed
      refine ⟨connected.entry, fun name noted node held => ?_⟩
      obtain ⟨entry, inside, same⟩ := List.mem_map.1 noted
      cases same
      rw [OrdMap.mem_entries.1 inside] at held
      cases held
      rfl
    · cases performed
  | notReady =>
    simp only [NodeTable.perform] at performed
    split at performed
    · cases performed
    · rename_i pass
      cases performed
      exact ⟨connected.entry, fun name noted => connected.pass name (pass ▸ List.mem_cons_of_mem _ noted)⟩
  | receive rawMessage now =>
    simp only [NodeTable.perform] at performed
    split at performed
    · cases performed
    · rename_i nodeId head rest pass
      have socket : head = socketFd := by simpa [readsOnly, pass] using only
      subst socket
      have later : Connected head { s with receiver.nodeSockets := rest } :=
        ⟨connected.entry, fun name noted => connected.pass name (pass ▸ List.mem_cons_of_mem _ noted)⟩
      split at performed
      · cases performed
        exact later
      · cases performed
        exact later.update (connected.pass nodeId (pass ▸ List.mem_cons_self)) _ _ _
  | _ => cases only

/-- All events of the run read from this socket only. -/
def allReadOnly (socketFd : Nat) : State → List Event → Bool
  | _, [] => true
  | s, e :: events => readsOnly socketFd s e && (perform e s).all fun next => allReadOnly socketFd next events

theorem connected_receiveRun {localHandlers : OrdMap Str (Option H)} {socketFd : Nat} {s s' : State} {events : List Event}
    {log : List (Delivery H)} (connected : Connected socketFd s) (only : allReadOnly socketFd s events = true)
    (ran : receiveRun localHandlers s events = some (log, s')) : Connected socketFd s' := by
  induction events generalizing s log with
  | nil =>
    cases ran
    exact connected
  | cons e events ih =>
    obtain ⟨next, performed, continued⟩ := Option.bind_eq_some_iff.1 ran
    obtain ⟨rest, later, same⟩ := Option.map_eq_some_iff.1 continued
    cases same
    unfold allReadOnly at only
    rw [performed, Bool.and_eq_true] at only
    exact ih (connected.perform only.1 performed) only.2 later

/-! ## The frames of one connection -/

/-- In any run of the threads, the calls to the handler of a local node for the frames of a connection are its good frames
for that node, in order and once each. As long as only this connection is read, it stays in the table whatever the frames
are. -/
theorem frames_delivered {localHandlers : OrdMap Str (Option H)} {s s' : State} {events : List Event}
    {log : List (Delivery H)} (ran : receiveRun localHandlers s events = some (log, s')) :
    (∀ connection nodeId handler, localHandlers.find? nodeId = some (some handler) →
      callsTo nodeId ((log.filter fun delivery => delivery.connection = connection).flatMap Delivery.calls) =
        (((log.filter fun delivery => delivery.connection = connection).map Delivery.rawMessage).filterMap
          (messageFor nodeId)).map fun message => { nodeId, handler, message }) ∧
    ∀ socketFd, allReadOnly socketFd s events = true → s.receiver.nodeSockets = [] →
      (∃ name node, s.nodes.find? name = some node ∧ node.socketFd = socketFd) →
        ∃ name node, s'.nodes.find? name = some node ∧ node.socketFd = socketFd := by
  refine ⟨fun connection nodeId handler registered => ?_, fun socketFd only fresh entry => ?_⟩
  · have made : ∀ delivery ∈ log.filter fun delivery => delivery.connection = connection,
        delivery.calls = receiveFrame localHandlers delivery.rawMessage :=
      fun delivery mem => calls_receiveRun ran delivery (List.mem_filter.1 mem).1
    generalize (log.filter fun delivery => delivery.connection = connection) = frames at made ⊢
    induction frames with
    | nil => rfl
    | cons delivery rest ih =>
      have first := made delivery List.mem_cons_self
      have later := ih fun other mem => made other (List.mem_cons_of_mem _ mem)
      have split : callsTo nodeId (delivery.calls ++ rest.flatMap Delivery.calls) =
          callsTo nodeId delivery.calls ++ callsTo nodeId (rest.flatMap Delivery.calls) := List.filter_append ..
      rw [List.flatMap_cons, split, later, first, callsTo_receiveFrame registered, List.map_cons]
      cases message : messageFor nodeId delivery.rawMessage with
      | none => rw [List.filterMap_cons_none message]; rfl
      | some message => rw [List.filterMap_cons_some ‹_›]; rfl
  · have connected : Connected socketFd s := ⟨entry, by rw [fresh]; exact fun _ mem => nomatch mem⟩
    exact (connected_receiveRun connected only ran).entry

/-! ## A broken frame, a foreign one and a good one -/

def connectedTable : State where
  heartbeatTimeoutMs := 5000
  nodes := OrdMap.ofList [(lit "10.0.0.2:9000", acceptedNode (lit "10.0.0.2") 9000 4 0)]
  sockets := OrdMap.ofList [(4, 0)]
  accepted := 1

def messageOf (magic : UInt32) (sourceNodeId : Str) : Message where
  header := { magic, sourceNodeId, destNodeId := lit "GROUND", priority := .normal }

/-- The second frame moves the entry although its magic number is wrong, and the third moves it on. -/
def threeFrames : List Event :=
  [.beginPass, .receive [1, 2, 3] 10, .beginPass, .receive (serialize (messageOf 0 (lit "N0"))) 20, .beginPass,
    .receive (serialize (messageOf MessageHeader.magicNumber (lit "N1"))) 30]

theorem frames_delivered_sample :
    ∃ log s', receiveRun (OrdMap.ofList [(lit "GROUND", some ())]) connectedTable threeFrames = some (log, s') ∧
      callsTo (lit "GROUND") ((log.filter fun delivery => delivery.connection = some 0).flatMap Delivery.calls) =
        [{ nodeId := lit "GROUND", handler := (), message := messageOf MessageHeader.magicNumber (lit "N1") }] ∧
      ∃ name node, s'.nodes.find? name = some node ∧ node.socketFd = 4 := by
  have good : (receiveRun (OrdMap.ofList [(lit "GROUND", some ())]) connectedTable threeFrames).map (fun result =>
      ((result.1.filter fun delivery => delivery.connection = some 0).map Delivery.rawMessage).filterMap
        (messageFor (lit "GROUND"))) = some [messageOf MessageHeader.magicNumber (lit "N1")] := by decide +kernel
  obtain ⟨⟨log, s'⟩, ran, messages⟩ := Option.map_eq_some_iff.1 good
  obtain ⟨calls, stays⟩ := frames_delivered ran
  have entered : connectedTable.nodes.find? (lit "10.0.0.2:9000") = some (acceptedNode (lit "10.0.0.2") 9000 4 0) := by
    rfl
  refine ⟨log, s', ran, ?_, stays 4 (by decide +kernel) rfl ⟨_, _, entered, rfl⟩⟩
  rw [calls (some 0) (lit "GROUND") () (by decide), messages]
  rfl

end Actuator.Coordinator.NodeTable
