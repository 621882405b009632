import Actuator.Coordinator.Wire
import Actuator.Lib.Events
import Actuator.Lib.OrdMap

/-!
# The table of connected nodes

Four threads work on `nodes_`. An accepted connection is entered under its
endpoint, a received message moves its entry to the name of the sender, and an
entry is removed by its name when receiving or sending has failed, or when its
node was silent for too long. One event is what a thread does during one hold of
`nodes_mutex_`, or one transfer that fails; the handlers of received messages do
not touch the table. An entry that comes under a name of the table replaces the
one there, and as long as none does, each open socket is that of exactly one
entry (`socket_has_one_entry`).
-/

namespace Actuator.Coordinator.NodeTable

open Actuator.Lib

/-- `RemoteNode`, but for the fields that nothing reads. -/
structure RemoteNode where
  nodeId : Str
  lastHeartbeatTimeMs : UInt64
  messagesSent : UInt64 := 0
  messagesReceived : UInt64 := 0
  bytesSent : UInt64 := 0
  bytesReceived : UInt64 := 0
  socketFd : Nat

/-- The local variables of a pass in `receiveThreadFunc`. A failure is noted with the connection the socket had. -/
structure Receiver where
  nodeSockets : List (Str × Nat) := []
  failedNodes : List (Str × Option Nat) := []

/-- Where `sendThreadFunc` is. -/
inductive Sender where
  | idle
  | sending (message : Message) (targetSocket : Nat)
  | failed (destNodeId : Str) (connection : Option Nat)

structure State where
  /-- `config_.heartbeat_timeout_ms`. -/
  heartbeatTimeoutMs : UInt32
  nodes : OrdMap Str RemoteNode := OrdMap.empty
  /-- The open sockets, each with the number of its connection. -/
  sockets : OrdMap Nat Nat := OrdMap.empty
  /-- How many connections were accepted. -/
  accepted : Nat := 0
  receiver : Receiver := {}
  sender : Sender := .idle
  /-- `timed_out_nodes`. -/
  timedOutNodes : List Str := []

/-! ## The steps under the mutex -/

def makeEndpointNodeId (ip : Str) (port : UInt16) : Str := ip ++ lit ":" ++ natToString port.toNat

/-- The node `acceptConnection` fills in. -/
def acceptedNode (ipAddress : Str) (port : UInt16) (clientSocket : Nat) (now : UInt64) : RemoteNode where
  nodeId := makeEndpointNodeId ipAddress port
  lastHeartbeatTimeMs := now
  socketFd := clientSocket

namespace State

def addNode (s : State) (node : RemoteNode) : State := { s with nodes := s.nodes.insert node.nodeId node }

/-- `removeNode`, with `closesocket`. -/
def removeNode (s : State) (nodeId : Str) : State :=
  match s.nodes.find? nodeId with
  | none => s
  | some node => { s with
      sockets := s.sockets.erase node.socketFd
      nodes := s.nodes.erase nodeId }

/-- What `receiveThreadFunc` does with the entry of the name behind a decoded message. -/
def update (s : State) (nodeId : Str) (size : Nat) (now : UInt64) (decoded : Message) : State :=
  match s.nodes.find? nodeId with
  | none => s
  | some node =>
    let current := { node with
      messagesReceived := node.messagesReceived + 1
      bytesReceived := node.bytesReceived + UInt64.ofNat size
      lastHeartbeatTimeMs := now }
    if decoded.header.sourceNodeId ≠ [] ∧ decoded.header.sourceNodeId ≠ nodeId then { s with
      nodes := (s.nodes.erase nodeId).insert decoded.header.sourceNodeId
        { current with nodeId := decoded.header.sourceNodeId } }
    else { s with nodes := s.nodes.insert nodeId current }

/-- `sendThreadFunc` transfers the message only to a connected destination. -/
def lookUp (s : State) (message : Message) : Sender :=
  match s.nodes.find? message.header.destNodeId with
  | none => .idle
  | some node => .sending message node.socketFd

/-- What `sendThreadFunc` does with the entry of the destination behind a transfer. -/
def countSent (s : State) (message : Message) (targetSocket : Nat) : State :=
  match s.nodes.find? message.header.destNodeId with
  | none => s
  | some node =>
    if node.socketFd = targetSocket then { s with
      nodes := s.nodes.insert message.header.destNodeId { node with
        messagesSent := node.messagesSent + 1
        bytesSent := node.bytesSent + UInt64.ofNat (serialize message).length } }
    else s

/-- The names `checkNodeTimeouts` notes. -/
def silentNodes (s : State) (now : UInt64) : List Str :=
  (s.nodes.entries.filter fun e => now - e.2.lastHeartbeatTimeMs > s.heartbeatTimeoutMs.toUInt64).map Prod.fst

end State

/-! ## The threads -/

inductive Event where
  /-- `accept` returns a socket that is not open, and its node is added. -/
  | accept (ipAddress : Str) (port : UInt16) (clientSocket : Nat) (now : UInt64)
  /-- A pass begins with all names and sockets. -/
  | beginPass
  /-- The next socket of the pass is not ready. -/
  | notReady
  /-- `receiveData` has returned these bytes from the next socket of the pass. -/
  | receive (rawMessage : Str) (now : UInt64)
  /-- `receiveData` fails on the next socket of the pass. -/
  | receiveFails
  /-- Behind the sockets of the pass, a failed node is removed. -/
  | removeFailed
  /-- The destination of a popped message is looked up. -/
  | lookUp (message : Message)
  | send
  | sendFails
  /-- The destination of a failed transfer is removed. -/
  | removeUnsent
  /-- The silent nodes are noted. -/
  | checkTimeouts (now : UInt64)
  | removeTimedOut

/-- What an event does. -/
def perform : Event → State → Option State
  | .accept ipAddress port clientSocket now, s =>
    if (s.sockets.find? clientSocket).isSome then none
    else some (State.addNode { s with
      sockets := s.sockets.insert clientSocket s.accepted
      accepted := s.accepted + 1 } (acceptedNode ipAddress port clientSocket now))
  | .beginPass, s =>
    match s.receiver with
    | ⟨[], []⟩ => some { s with receiver.nodeSockets := s.nodes.entries.map fun e => (e.1, e.2.socketFd) }
    | _ => none
  | .notReady, s =>
    match s.receiver.nodeSockets with
    | [] => none
    | _ :: rest => some { s with receiver.nodeSockets := rest }
  | .receive rawMessage now, s =>
    match s.receiver.nodeSockets with
    | [] => none
    | (nodeId, _) :: rest =>
      match deserializeMessage rawMessage with
      | none => some { s with receiver.nodeSockets := rest }
      | some decoded => some (State.update { s with receiver.nodeSockets := rest } nodeId rawMessage.length now decoded)
  | .receiveFails, s =>
    match s.receiver.nodeSockets with
    | [] => none
    | (nodeId, socketFd) :: rest => some { s with receiver := {
        nodeSockets := rest
        failedNodes := s.receiver.failedNodes ++ [(nodeId, s.sockets.find? socketFd)] } }
  | .removeFailed, s =>
    match s.receiver with
    | ⟨[], (nodeId, _) :: rest⟩ => some (State.removeNode { s with receiver.failedNodes := rest } nodeId)
    | _ => none
  | .lookUp message, s =>
    match s.sender with
    | .idle => some { s with sender := s.lookUp message }
    | _ => none
  | .send, s =>
    match s.sender with
    | .sending message targetSocket => some (State.countSent { s with sender := .idle } message targetSocket)
    | _ => none
  | .sendFails, s =>
    match s.sender with
    | .sending message targetSocket =>
      some { s with sender := .failed message.header.destNodeId (s.sockets.find? targetSocket) }
    | _ => none
  | .removeUnsent, s =>
    match s.sender with
    | .failed destNodeId _ => some (State.removeNode { s with sender := .idle } destNodeId)
    | _ => none
  | .checkTimeouts now, s =>
    match s.timedOutNodes with
    | [] => some { s with timedOutNodes := s.silentNodes now }
    | _ => none
  | .removeTimedOut, s =>
    match s.timedOutNodes with
    | [] => none
    | nodeId :: rest => some (State.removeNode { s with timedOutNodes := rest } nodeId)

/-! ## What an event can do to the table -/

/-- An entry that comes under a name, with its socket and the connection of the socket. -/
structure Insertion where
  name : Str
  socketFd : Nat
  connection : Option Nat

/-- The entry that a decoded message moves to another name. -/
def State.moves (s : State) (nodeId : Str) (decoded : Message) : Option Insertion :=
  match s.nodes.find? nodeId with
  | none => none
  | some node =>
    if decoded.header.sourceNodeId ≠ [] ∧ decoded.header.sourceNodeId ≠ nodeId then some {
      name := decoded.header.sourceNodeId
      socketFd := node.socketFd
      connection := s.sockets.find? node.socketFd }
    else none

/-- The entry that comes under a name with an event. -/
def inserts : Event → State → Option Insertion
  | .accept ipAddress port clientSocket _, s => some {
      name := makeEndpointNodeId ipAddress port
      socketFd := clientSocket
      connection := some s.accepted }
  | .receive rawMessage _, s =>
    match s.receiver.nodeSockets with
    | [] => none
    | (nodeId, _) :: _ => (deserializeMessage rawMessage).bind (s.moves nodeId)
  | _, _ => none

/-- The changes of the entries and the open sockets. -/
inductive Change (nodes : OrdMap Str RemoteNode) (sockets : OrdMap Nat Nat) :
    OrdMap Str RemoteNode → OrdMap Nat Nat → Option Insertion → Prop
  | same : Change nodes sockets nodes sockets none
  | accept {name : Str} {node : RemoteNode} {connection : Nat} (fresh : sockets.find? node.socketFd = none) :
    Change nodes sockets (nodes.insert name node) (sockets.insert node.socketFd connection)
      (some { name, socketFd := node.socketFd, connection := some connection })
  | count {name : Str} {node counted : RemoteNode} (found : nodes.find? name = some node)
    (socket : counted.socketFd = node.socketFd) :
    Change nodes sockets (nodes.insert name counted) sockets none
  | rename {name source : Str} {node named : RemoteNode} (found : nodes.find? name = some node) (other : source ≠ name)
    (socket : named.socketFd = node.socketFd) :
    Change nodes sockets ((nodes.erase name).insert source named) sockets
      (some { name := source, socketFd := node.socketFd, connection := sockets.find? node.socketFd })
  | remove {name : Str} {node : RemoteNode} (found : nodes.find? name = some node) :
    Change nodes sockets (nodes.erase name) (sockets.erase node.socketFd) none

theorem removeNode_change (s : State) (nodeId : Str) :
    Change s.nodes s.sockets (s.removeNode nodeId).nodes (s.removeNode nodeId).sockets none := by
  unfold State.removeNode
  split
  · exact .same
  · rename_i node found
    exact .remove found

theorem countSent_change (s : State) (message : Message) (targetSocket : Nat) :
    Change s.nodes s.sockets (s.countSent message targetSocket).nodes (s.countSent message targetSocket).sockets none := by
  unfold State.countSent
  split
  · exact .same
  · rename_i node found
    split
    · exact .count found rfl
    · exact .same

theorem update_change (s : State) (nodeId : Str) (size : Nat) (now : UInt64) (decoded : Message) :
    Change s.nodes s.sockets (s.update nodeId size now decoded).nodes (s.update nodeId size now decoded).sockets
      (s.moves nodeId decoded) := by
  unfold State.update State.moves
  cases found : s.nodes.find? nodeId with
  | none => exact .same
  | some node =>
    by_cases moved : decoded.header.sourceNodeId ≠ [] ∧ decoded.header.sourceNodeId ≠ nodeId
    · simp only [if_pos moved]
      exact .rename found moved.2 rfl
    · simp only [if_neg moved]
      exact .count found rfl

/-- Each event changes the table in one of these ways. -/
theorem perform_change {e : Event} {s s' : State} (performed : perform e s = some s') :
    Change s.nodes s.sockets s'.nodes s'.sockets (inserts e s) := by
  cases e with
  | accept ipAddress port clientSocket now =>
    change (if (s.sockets.find? clientSocket).isSome then none else some _) = some s' at performed
    split at performed
    · cases performed
    · rename_i fresh
      cases performed
      exact @Change.accept _ _ _ (acceptedNode ipAddress port clientSocket now) _ (Option.not_isSome_iff_eq_none.1 fresh)
  | receive rawMessage now =>
    simp only [perform] at performed
    simp only [inserts]
    split at performed
    · cases performed
    · rename_i nodeId socketFd rest pass
      split at performed
      · rename_i broken
        cases performed
        simp only [broken]
        exact .same
      · rename_i decoded read
        cases performed
        simp only [read]
        exact update_change { s with receiver.nodeSockets := rest } nodeId rawMessage.length now decoded
  | send =>
    simp only [perform] at performed
    split at performed
    · cases performed
      exact countSent_change { s with sender := .idle } _ _
    · cases performed
  | removeFailed =>
    simp only [perform] at performed
    split at performed
    · rename_i nodeId connection rest pass
      cases performed
      exact removeNode_change { s with receiver.failedNodes := rest } nodeId
    · cases performed
  | removeUnsent =>
    simp only [perform] at performed
    split at performed
    · cases performed
      exact removeNode_change { s with sender := .idle } _
    · cases performed
  | removeTimedOut =>
    simp only [perform] at performed
    split at performed
    · cases performed
    · rename_i nodeId rest noted
      cases performed
      exact removeNode_change { s with timedOutNodes := rest } nodeId
  | _ =>
    simp only [perform] at performed
    split at performed
    all_goals
      cases performed
      try exact .same

/-! ## Entries and sockets -/

section Table

variable {nodes nodes' : OrdMap Str RemoteNode} {sockets sockets' : OrdMap Nat Nat} {inserted : Option Insertion}

/-- Every entry has an open socket of its own. -/
structure Sound (nodes : OrdMap Str RemoteNode) (sockets : OrdMap Nat Nat) : Prop where
  opened : ∀ name node, nodes.find? name = some node → (sockets.find? node.socketFd).isSome
  distinct : ∀ name other node node', nodes.find? name = some node → nodes.find? other = some node' →
    node.socketFd = node'.socketFd → name = other

/-- What is found behind a change was there before with the same socket and the same connection, or is inserted. -/
theorem Change.origin (change : Change nodes sockets nodes' sockets' inserted) (sound : Sound nodes sockets)
    {name : Str} {node : RemoteNode} (found : nodes'.find? name = some node) :
    (∃ before, nodes.find? name = some before ∧ before.socketFd = node.socketFd ∧
      sockets'.find? node.socketFd = sockets.find? node.socketFd) ∨
    inserted = some { name, socketFd := node.socketFd, connection := sockets'.find? node.socketFd } := by
  cases change with
  | same => exact .inl ⟨node, found, rfl, rfl⟩
  | @accept under added connection fresh =>
    rw [OrdMap.find?_insert] at found
    split at found
    · rename_i here
      cases found
      rw [here, OrdMap.find?_insert_self]
      exact .inr rfl
    · have other : node.socketFd ≠ added.socketFd := by
        intro same
        have opened := sound.opened name node found
        rw [same, fresh] at opened
        cases opened
      exact .inl ⟨node, found, rfl, OrdMap.find?_insert_of_ne _ _ other⟩
  | @count under before counted was socket =>
    rw [OrdMap.find?_insert] at found
    split at found
    · rename_i here
      cases found
      exact .inl ⟨before, here ▸ was, socket.symm, rfl⟩
    · exact .inl ⟨node, found, rfl, rfl⟩
  | @rename under source before named was other socket =>
    rw [OrdMap.find?_insert] at found
    split at found
    · rename_i here
      cases found
      rw [here, socket]
      exact .inr rfl
    · rw [OrdMap.find?_erase] at found
      split at found
      · cases found
      · exact .inl ⟨node, found, rfl, rfl⟩
  | @remove under before was =>
    rw [OrdMap.find?_erase] at found
    split at found
    · cases found
    · rename_i different
      have other : node.socketFd ≠ before.socketFd :=
        fun same => different (sound.distinct name under node before found was same)
      refine .inl ⟨node, found, rfl, ?_⟩
      rw [OrdMap.find?_erase, if_neg other]

/-- The socket of an inserted entry is open, and no other entry has it. -/
theorem Change.alone (change : Change nodes sockets nodes' sockets' inserted) (sound : Sound nodes sockets)
    {i : Insertion} (comes : inserted = some i) : (sockets'.find? i.socketFd).isSome ∧
      ∀ name node, nodes'.find? name = some node → node.socketFd = i.socketFd → name = i.name := by
  cases change with
  | same => cases comes
  | @accept under added connection fresh =>
    cases comes
    refine ⟨by simp, fun name node found same => ?_⟩
    rw [OrdMap.find?_insert] at found
    split at found
    · assumption
    · have opened := sound.opened name node found
      rw [same, fresh] at opened
      cases opened
  | count => cases comes
  | @rename under source before named was other socket =>
    cases comes
    refine ⟨sound.opened under before was, fun name node found same => ?_⟩
    rw [OrdMap.find?_insert] at found
    split at found
    · assumption
    · rw [OrdMap.find?_erase] at found
      split at found
      · cases found
      · rename_i elsewhere
        exact absurd (sound.distinct name under node before found was same) elsewhere
  | remove => cases comes

/-- Every change leaves each entry an open socket of its own. -/
theorem Change.sound (change : Change nodes sockets nodes' sockets' inserted) (sound : Sound nodes sockets) :
    Sound nodes' sockets' := by
  refine ⟨fun name node found => ?_, fun name other node node' found found' shared => ?_⟩
  · rcases change.origin sound found with ⟨before, was, socket, connection⟩ | comes
    · rw [connection, ← socket]
      exact sound.opened name before was
    · exact (change.alone sound comes).1
  · rcases change.origin sound found with ⟨before, was, socket, _⟩ | comes
    · rcases change.origin sound found' with ⟨before', was', socket', _⟩ | comes
      · exact sound.distinct name other before before' was was' (socket.trans (shared.trans socket'.symm))
      · exact (change.alone sound comes).2 name node found shared
    · exact ((change.alone sound comes).2 other node' found' shared.symm).symm

/-- Every open socket is that of an entry. -/
def Held (nodes : OrdMap Str RemoteNode) (sockets : OrdMap Nat Nat) : Prop :=
  ∀ fd, (sockets.find? fd).isSome → ∃ name node, nodes.find? name = some node ∧ node.socketFd = fd

/-- A change that inserts under no name of the table loses no socket. -/
theorem Change.held (change : Change nodes sockets nodes' sockets' inserted) (held : Held nodes sockets)
    (free : ∀ i, inserted = some i → nodes.find? i.name = none) : Held nodes' sockets' := by
  intro fd opened
  cases change with
  | same => exact held fd opened
  | @accept under added connection fresh =>
    rw [OrdMap.find?_insert] at opened
    split at opened
    · rename_i here
      exact ⟨under, added, OrdMap.find?_insert_self .., here.symm⟩
    · obtain ⟨name, node, found, own⟩ := held fd opened
      have other : name ≠ under := by
        rintro rfl
        cases found.symm.trans (free _ rfl)
      exact ⟨name, node, by rw [OrdMap.find?_insert_of_ne _ _ other, found], own⟩
  | @count under before counted was socket =>
    obtain ⟨name, node, found, own⟩ := held fd opened
    by_cases here : name = under
    · subst here
      cases was.symm.trans found
      exact ⟨name, counted, OrdMap.find?_insert_self .., socket.trans own⟩
    · exact ⟨name, node, by rw [OrdMap.find?_insert_of_ne _ _ here, found], own⟩
  | @rename under source before named was other socket =>
    obtain ⟨name, node, found, own⟩ := held fd opened
    by_cases here : name = under
    · subst here
      cases was.symm.trans found
      exact ⟨source, named, OrdMap.find?_insert_self .., socket.trans own⟩
    · have apart : name ≠ source := by
        rintro rfl
        cases found.symm.trans (free _ rfl)
      exact ⟨name, node, by rw [OrdMap.find?_insert_of_ne _ _ apart, OrdMap.find?_erase, if_neg here, found], own⟩
  | @remove under before was =>
    rw [OrdMap.find?_erase] at opened
    split at opened
    · cases opened
    · rename_i apart
      obtain ⟨name, node, found, own⟩ := held fd opened
      have other : name ≠ under := by
        rintro rfl
        cases was.symm.trans found
        exact apart own.symm
      exact ⟨name, node, by rw [OrdMap.find?_erase, if_neg other, found], own⟩

end Table

/-! ## Every socket keeps its entry -/

/-- An entry only comes under a name that is not in the table. -/
def keepsEntries (e : Event) (s : State) : Bool := (inserts e s).all fun i => (s.nodes.find? i.name).isNone

/-- What is reached by allowed events from the start of the module. -/
abbrev Reaches (allowed : Event → State → Prop) (heartbeatTimeoutMs : UInt32) (s : State) : Prop :=
  Events.Reaches perform allowed { heartbeatTimeoutMs } s

/-- Each open socket is that of exactly one entry. -/
structure OneEach (s : State) : Prop where
  sound : Sound s.nodes s.sockets
  held : Held s.nodes s.sockets

theorem OneEach.step {e : Event} {s s' : State} (one : OneEach s) (free : keepsEntries e s = true)
    (performed : perform e s = some s') : OneEach s' := by
  have change := perform_change performed
  refine ⟨change.sound one.sound, change.held one.held fun i comes => ?_⟩
  unfold keepsEntries at free
  rw [comes] at free
  exact Option.isNone_iff_eq_none.1 free

theorem sound_empty : Sound OrdMap.empty OrdMap.empty := by
  refine ⟨fun name node found => ?_, fun name other node node' found => ?_⟩
  · cases found
  · cases found

/-- In every run, whatever is received and in whatever order the threads act: as long as no accepted connection and no
received message brings an entry under a name that is in the table, every open socket is that of exactly one entry. -/
theorem socket_has_one_entry {heartbeatTimeoutMs : UInt32} {s : State}
    (reaches : Reaches (fun e s => keepsEntries e s = true) heartbeatTimeoutMs s) {fd : Nat}
    (opened : (s.sockets.find? fd).isSome) : ∃ name node, s.nodes.find? name = some node ∧ node.socketFd = fd ∧
      ∀ other node', s.nodes.find? other = some node' → node'.socketFd = fd → other = name := by
  have initially : OneEach { heartbeatTimeoutMs } := by
    refine ⟨sound_empty, fun fd none => ?_⟩
    cases none
  have one : OneEach s := reaches.keeps (fun e s s' => OneEach.step) initially
  obtain ⟨name, node, found, own⟩ := one.held fd opened
  refine ⟨name, node, found, own, fun other node' found' own' => ?_⟩
  exact one.sound.distinct other name node' node found' found (own'.trans own.symm)

/-- The bytes of a message with this sender. -/
def bytesFrom (sourceNodeId : Str) : Str := serialize {
  header := {
    magic := MessageHeader.magicNumber
    version := MessageHeader.protocolVersion
    msgType := .heartbeat
    sourceNodeId
    priority := .normal } }

/-- Two peers connect and give their names. -/
def greetings (one two : Str) : List Event := [
  .accept (lit "10.0.0.1") 5000 3 0,
  .accept (lit "10.0.0.2") 5000 4 0,
  .beginPass,
  .receive (bytesFrom one) 10,
  .receive (bytesFrom two) 10]

theorem greetings_apart : (Events.run perform keepsEntries { heartbeatTimeoutMs := 15000 }
    (greetings (lit "A") (lit "B"))).any (fun s => (s.sockets.find? 3).isSome && (s.nodes.find? (lit "B")).isSome) =
      true := by decide +kernel

theorem socket_has_one_entry_sample : ∃ s, Reaches (fun e s => keepsEntries e s = true) 15000 s ∧
    (s.nodes.find? (lit "B")).isSome ∧ ∃ name node, s.nodes.find? name = some node ∧ node.socketFd = 3 ∧
      ∀ other node', s.nodes.find? other = some node' → node'.socketFd = 3 → other = name := by
  obtain ⟨s, ran, ended⟩ := (Option.any_eq_true _ _).1 greetings_apart
  obtain ⟨opened, named⟩ := Bool.and_eq_true_iff.1 ended
  have reaches := Events.reaches_of_run (fun _ _ => id) ran
  exact ⟨s, reaches, named, socket_has_one_entry reaches opened⟩

theorem greetings_alike : (Events.run perform (fun _ _ => true) { heartbeatTimeoutMs := 15000 }
    (greetings (lit "A") (lit "A"))).any (fun s => (s.sockets.find? 3).isSome &&
      s.nodes.entries.all fun e => e.2.socketFd ≠ 3) = true := by decide +kernel

/-- Two peers give the same name, and the socket of the first has no entry any more. -/
theorem socket_without_entry : ∃ s, Reaches (fun _ _ => True) 15000 s ∧ (s.sockets.find? 3).isSome ∧
    ∀ name node, s.nodes.find? name = some node → node.socketFd ≠ 3 := by
  obtain ⟨s, ran, ended⟩ := (Option.any_eq_true _ _).1 greetings_alike
  obtain ⟨opened, others⟩ := Bool.and_eq_true_iff.1 ended
  refine ⟨s, Events.reaches_of_run (fun _ _ _ => trivial) ran, opened, fun name node found => ?_⟩
  exact of_decide_eq_true (List.all_eq_true.1 others (name, node) (OrdMap.mem_entries.2 found))

end Actuator.Coordinator.NodeTable
