import Actuator.Coordinator.NodeTable

/-!
# Removal behind a failure

A thread notes names and sockets while it holds `nodes_mutex_`, and acts on them
later: a transfer on a noted socket fails, and what is removed then is the entry
with the noted name. As long as no other connection comes under a noted name, the
removal closes what has failed (`removal_closes_failed`).
-/

namespace Actuator.Coordinator.NodeTable

open Actuator.Lib

/-! ## Notes -/

/-- What a thread has noted about an entry, to act on it later: its socket, or the connection that has failed. -/
inductive Note where
  | socket (name : Str) (socketFd : Nat)
  | failure (name : Str) (connection : Option Nat)

def Sender.notes : Sender → List Note
  | idle => []
  | sending message targetSocket => [.socket message.header.destNodeId targetSocket]
  | failed destNodeId connection => [.failure destNodeId connection]

/-- The notes of the threads that receive and send. -/
def State.notes (s : State) : List Note :=
  s.receiver.nodeSockets.map (fun p => .socket p.1 p.2) ++ s.receiver.failedNodes.map (fun p => .failure p.1 p.2) ++
    s.sender.notes

/-- The note does not name the inserted entry, or is about its connection. -/
def Note.allows (i : Insertion) : Note → Bool
  | socket name socketFd => i.name ≠ name || i.socketFd = socketFd
  | failure name connection => i.name ≠ name || i.connection = connection

/-- An entry only comes under a name if every note with this name is about its connection. -/
def sparesNotes (e : Event) (s : State) : Bool := (inserts e s).all fun i => s.notes.all (Note.allows i)

/-- The connection whose failure is the reason for a removal. -/
def failure : Event → State → Option (Option Nat)
  | .removeFailed, s =>
    match s.receiver with
    | ⟨[], (_, connection) :: _⟩ => some connection
    | _ => none
  | .removeUnsent, s =>
    match s.sender with
    | .failed _ connection => some connection
    | _ => none
  | _, _ => none

/-- If the noted name is in the table, it is with what was noted. -/
def Note.Holds (nodes : OrdMap Str RemoteNode) (sockets : OrdMap Nat Nat) : Note → Prop
  | socket name socketFd => ∀ node, nodes.find? name = some node → node.socketFd = socketFd
  | failure name connection => ∀ node, nodes.find? name = some node → sockets.find? node.socketFd = connection

/-! ## What becomes of notes -/

theorem Change.holds {nodes nodes' : OrdMap Str RemoteNode} {sockets sockets' : OrdMap Nat Nat}
    {inserted : Option Insertion} (change : Change nodes sockets nodes' sockets' inserted) (sound : Sound nodes sockets)
    {note : Note} (holds : note.Holds nodes sockets) (allowed : ∀ i, inserted = some i → note.allows i = true) :
    note.Holds nodes' sockets' := by
  cases note with
  | socket name socketFd =>
    intro node found
    rcases change.origin sound found with ⟨before, was, socket, _⟩ | comes
    · exact socket.symm.trans (holds before was)
    · simpa [Note.allows] using allowed _ comes
  | failure name connection =>
    intro node found
    rcases change.origin sound found with ⟨before, was, socket, still⟩ | comes
    · rw [still, ← socket]
      exact holds before was
    · simpa [Note.allows] using allowed _ comes

theorem mem_notes {s : State} {note : Note} : note ∈ s.notes ↔
    (∃ p ∈ s.receiver.nodeSockets, .socket p.1 p.2 = note) ∨ (∃ p ∈ s.receiver.failedNodes, .failure p.1 p.2 = note) ∨
      note ∈ s.sender.notes := by
  unfold State.notes
  rw [List.append_assoc, List.mem_append, List.mem_append, List.mem_map, List.mem_map]

/-- Where the threads have noted no more, there are no new notes. -/
theorem notes_subset {s s' : State} {note : Note} (mem : note ∈ s'.notes)
    (nodeSockets : ∀ p ∈ s'.receiver.nodeSockets, p ∈ s.receiver.nodeSockets)
    (failedNodes : ∀ p ∈ s'.receiver.failedNodes, p ∈ s.receiver.failedNodes)
    (sender : ∀ note ∈ s'.sender.notes, note ∈ s.sender.notes) : note ∈ s.notes := by
  rcases mem_notes.1 mem with ⟨p, among, rfl⟩ | ⟨p, among, rfl⟩ | sending
  · exact mem_notes.2 (.inl ⟨p, nodeSockets p among, rfl⟩)
  · exact mem_notes.2 (.inr (.inl ⟨p, failedNodes p among, rfl⟩))
  · exact mem_notes.2 (.inr (.inr (sender note sending)))

theorem removeNode_notes (s : State) (nodeId : Str) : (s.removeNode nodeId).notes = s.notes := by
  unfold State.removeNode
  split
  · rfl
  · rfl

theorem update_notes (s : State) (nodeId : Str) (size : Nat) (now : UInt64) (decoded : Message) :
    (s.update nodeId size now decoded).notes = s.notes := by
  unfold State.update
  split
  · rfl
  · dsimp only
    split
    · rfl
    · rfl

theorem countSent_notes (s : State) (message : Message) (targetSocket : Nat) :
    (s.countSent message targetSocket).notes = s.notes := by
  unfold State.countSent
  split
  · rfl
  · split
    · rfl
    · rfl

/-- A pass notes what is in the table. -/
theorem beginPass_notes {s s' : State} (performed : perform .beginPass s = some s') {note : Note} (mem : note ∈ s'.notes) :
    note ∈ s.notes ∨ note.Holds s'.nodes s'.sockets := by
  simp only [perform] at performed
  split at performed
  · cases performed
    rcases mem_notes.1 mem with ⟨p, among, rfl⟩ | ⟨p, among, rfl⟩ | sending
    · obtain ⟨⟨name, node⟩, entry, rfl⟩ := List.mem_map.1 among
      refine .inr fun other found => ?_
      cases found.symm.trans (OrdMap.mem_entries.1 entry)
      rfl
    · exact .inl (mem_notes.2 (.inr (.inl ⟨p, among, rfl⟩)))
    · exact .inl (mem_notes.2 (.inr (.inr sending)))
  · cases performed

/-- The connection of a socket that fails is that of the entry, if the entry still has the socket. -/
theorem receiveFails_notes {s s' : State} (performed : perform .receiveFails s = some s')
    (holds : ∀ note ∈ s.notes, note.Holds s.nodes s.sockets) {note : Note} (mem : note ∈ s'.notes) :
    note ∈ s.notes ∨ note.Holds s'.nodes s'.sockets := by
  simp only [perform] at performed
  split at performed
  · cases performed
  · rename_i nodeId socketFd rest pass
    cases performed
    rcases mem_notes.1 mem with ⟨p, among, rfl⟩ | ⟨p, among, rfl⟩ | sending
    · exact .inl (mem_notes.2 (.inl ⟨p, pass ▸ List.mem_cons_of_mem _ among, rfl⟩))
    · rcases List.mem_append.1 among with earlier | last
      · exact .inl (mem_notes.2 (.inr (.inl ⟨p, earlier, rfl⟩)))
      · cases List.mem_singleton.1 last
        have noted : .socket nodeId socketFd ∈ s.notes :=
          mem_notes.2 (.inl ⟨(nodeId, socketFd), pass ▸ List.mem_cons_self, rfl⟩)
        exact .inr fun node found => congrArg s.sockets.find? (holds _ noted node found)
    · exact .inl (mem_notes.2 (.inr (.inr sending)))

/-- The sender notes what is in the table. -/
theorem lookUp_notes {s s' : State} {message : Message} (performed : perform (.lookUp message) s = some s') {note : Note}
    (mem : note ∈ s'.notes) : note ∈ s.notes ∨ note.Holds s'.nodes s'.sockets := by
  simp only [perform] at performed
  split at performed
  · cases performed
    rcases mem_notes.1 mem with pass | failed | sending
    · exact .inl (mem_notes.2 (.inl pass))
    · exact .inl (mem_notes.2 (.inr (.inl failed)))
    · change note ∈ (s.lookUp message).notes at sending
      unfold State.lookUp at sending
      split at sending
      · cases sending
      · rename_i node found
        cases List.mem_singleton.1 sending
        refine .inr fun other found' => ?_
        cases found.symm.trans found'
        rfl
  · cases performed

theorem sendFails_notes {s s' : State} (performed : perform .sendFails s = some s')
    (holds : ∀ note ∈ s.notes, note.Holds s.nodes s.sockets) {note : Note} (mem : note ∈ s'.notes) :
    note ∈ s.notes ∨ note.Holds s'.nodes s'.sockets := by
  simp only [perform] at performed
  split at performed
  · rename_i message targetSocket busy
    cases performed
    rcases mem_notes.1 mem with pass | failed | sending
    · exact .inl (mem_notes.2 (.inl pass))
    · exact .inl (mem_notes.2 (.inr (.inl failed)))
    · cases List.mem_singleton.1 sending
      have noted : .socket message.header.destNodeId targetSocket ∈ s.notes := by
        refine mem_notes.2 (.inr (.inr ?_))
        rw [busy]
        exact List.mem_singleton_self _
      exact .inr fun node found => congrArg s.sockets.find? (holds _ noted node found)
  · cases performed

/-- The other events only drop notes. -/
theorem perform_notes {e : Event} {s s' : State} (performed : perform e s = some s')
    (holds : ∀ note ∈ s.notes, note.Holds s.nodes s.sockets) {note : Note} (mem : note ∈ s'.notes) :
    note ∈ s.notes ∨ note.Holds s'.nodes s'.sockets := by
  cases e with
  | beginPass => exact beginPass_notes performed mem
  | receiveFails => exact receiveFails_notes performed holds mem
  | lookUp message => exact lookUp_notes performed mem
  | sendFails => exact sendFails_notes performed holds mem
  | accept ipAddress port clientSocket now =>
    simp only [perform] at performed
    split at performed
    · cases performed
    · cases performed
      exact .inl mem
  | notReady =>
    simp only [perform] at performed
    split at performed
    · cases performed
    · rename_i next rest pass
      cases performed
      refine .inl (notes_subset mem (fun p among => ?_) (fun _ => id) fun _ => id)
      exact pass ▸ List.mem_cons_of_mem _ among
  | receive rawMessage now =>
    simp only [perform] at performed
    split at performed
    · cases performed
    · rename_i nodeId socketFd rest pass
      have kept : note ∈ ({ s with receiver.nodeSockets := rest } : State).notes → note ∈ s.notes := by
        intro left
        refine notes_subset left (fun p among => ?_) (fun _ => id) fun _ => id
        exact pass ▸ List.mem_cons_of_mem _ among
      split at performed
      · cases performed
        exact .inl (kept mem)
      · cases performed
        rw [update_notes] at mem
        exact .inl (kept mem)
  | removeFailed =>
    simp only [perform] at performed
    split at performed
    · rename_i nodeId connection rest pass
      cases performed
      rw [removeNode_notes] at mem
      refine .inl (notes_subset mem (fun _ => id) (fun p among => ?_) fun _ => id)
      exact pass ▸ List.mem_cons_of_mem _ among
    · cases performed
  | send =>
    simp only [perform] at performed
    split at performed
    · cases performed
      rw [countSent_notes] at mem
      refine .inl (notes_subset mem (fun _ => id) (fun _ => id) fun note sending => ?_)
      cases sending
    · cases performed
  | removeUnsent =>
    simp only [perform] at performed
    split at performed
    · cases performed
      rw [removeNode_notes] at mem
      refine .inl (notes_subset mem (fun _ => id) (fun _ => id) fun note sending => ?_)
      cases sending
    · cases performed
  | checkTimeouts now =>
    simp only [perform] at performed
    split at performed
    · cases performed
      exact .inl mem
    · cases performed
  | removeTimedOut =>
    simp only [perform] at performed
    split at performed
    · cases performed
    · cases performed
      rw [removeNode_notes] at mem
      exact .inl mem

/-! ## Runs -/

/-- All notes hold. -/
structure Noted (s : State) : Prop where
  sound : Sound s.nodes s.sockets
  holds : ∀ note ∈ s.notes, note.Holds s.nodes s.sockets

theorem Noted.step {e : Event} {s s' : State} (noted : Noted s) (spares : sparesNotes e s = true)
    (performed : perform e s = some s') : Noted s' := by
  have change := perform_change performed
  refine ⟨change.sound noted.sound, fun note mem => ?_⟩
  rcases perform_notes performed noted.holds mem with kept | made
  · refine change.holds noted.sound (noted.holds note kept) fun i comes => ?_
    unfold sparesNotes at spares
    rw [comes] at spares
    exact List.all_eq_true.1 spares note kept
  · exact made

/-- A removal closes the socket of the entry that it removes, and no other. -/
theorem removeNode_closes {s : State} {nodeId : Str} {fd : Nat} (opened : (s.sockets.find? fd).isSome)
    (closed : (s.removeNode nodeId).sockets.find? fd = none) :
    ∃ node, s.nodes.find? nodeId = some node ∧ node.socketFd = fd := by
  unfold State.removeNode at closed
  split at closed
  · rw [closed] at opened
    cases opened
  · rename_i node found
    rw [OrdMap.find?_erase] at closed
    split at closed
    · rename_i same
      exact ⟨node, found, same.symm⟩
    · rw [closed] at opened
      cases opened

/-- What is removed because of a failure was noted. -/
theorem Noted.removal {e : Event} {s s' : State} {failed : Option Nat} (noted : Noted s)
    (because : failure e s = some failed) (performed : perform e s = some s') {fd : Nat}
    (opened : (s.sockets.find? fd).isSome) (closed : s'.sockets.find? fd = none) : s.sockets.find? fd = failed := by
  cases e with
  | removeFailed =>
    simp only [failure] at because
    split at because
    · rename_i nodeId connection rest pass
      cases because
      rw [perform, pass] at performed
      cases performed
      obtain ⟨node, found, rfl⟩ := removeNode_closes (s := { s with receiver := { failedNodes := rest } }) opened closed
      have mem : .failure nodeId failed ∈ s.notes := mem_notes.2 (.inr (.inl ⟨(nodeId, failed), by simp [pass], rfl⟩))
      exact noted.holds _ mem node found
    · cases because
  | removeUnsent =>
    simp only [failure] at because
    split at because
    · rename_i destNodeId connection unsent
      cases because
      simp only [perform, unsent] at performed
      cases performed
      obtain ⟨node, found, rfl⟩ := removeNode_closes (s := { s with sender := .idle }) opened closed
      have mem : .failure destNodeId failed ∈ s.notes := by
        refine mem_notes.2 (.inr (.inr ?_))
        rw [unsent]
        exact List.mem_singleton_self _
      exact noted.holds _ mem node found
    · cases because
  | _ => cases because

/-- In every run, whatever is received and in whatever order the threads act: as long as an entry only comes under a name
when no pass and no transfer has noted another connection under this name, a removal behind a failure closes the
connection that has failed or none. -/
theorem removal_closes_failed {heartbeatTimeoutMs : UInt32} {s : State}
    (reaches : Reaches (fun e s => sparesNotes e s = true) heartbeatTimeoutMs s) {e : Event} {s' : State}
    {failed : Option Nat} (because : failure e s = some failed) (performed : perform e s = some s') {fd : Nat}
    (opened : (s.sockets.find? fd).isSome) (closed : s'.sockets.find? fd = none) : s.sockets.find? fd = failed := by
  have initially : Noted { heartbeatTimeoutMs } := by
    refine ⟨sound_empty, fun note mem => ?_⟩
    cases mem
  have noted : Noted s := reaches.keeps (fun e s s' => Noted.step) initially
  exact noted.removal because performed opened closed

/-! ## A peer that connects once more -/

/-- A peer connects and gives its name, and another one connects. -/
def greetingAndPass : List Event := [
  .accept (lit "10.0.0.1") 5000 3 0,
  .beginPass,
  .receive (bytesFrom (lit "A")) 10,
  .accept (lit "10.0.0.2") 5000 4 20,
  .beginPass]

theorem failure_removed : (Events.run perform sparesNotes { heartbeatTimeoutMs := 15000 }
    (greetingAndPass ++ [.notReady, .receiveFails])).any (fun s =>
      failure .removeFailed s == some (some 0) && (s.sockets.find? 3).isSome &&
        (perform .removeFailed s).any fun s' => s'.sockets.find? 3 == none) = true := by decide +kernel

theorem removal_closes_failed_sample : ∃ s s', Reaches (fun e s => sparesNotes e s = true) 15000 s ∧
    failure .removeFailed s = some (some 0) ∧ perform .removeFailed s = some s' ∧ s'.sockets.find? 3 = none ∧
    s.sockets.find? 3 = some 0 := by
  obtain ⟨s, ran, ended⟩ := (Option.any_eq_true _ _).1 failure_removed
  simp only [Bool.and_eq_true, beq_iff_eq] at ended
  obtain ⟨⟨because, opened⟩, removed⟩ := ended
  obtain ⟨s', performed, closed⟩ := (Option.any_eq_true _ _).1 removed
  have reaches := Events.reaches_of_run (fun _ _ => id) ran
  have gone := beq_iff_eq.1 closed
  exact ⟨s, s', reaches, because, performed, gone, removal_closes_failed reaches because performed opened gone⟩

theorem reconnection_removed : (Events.run perform (fun _ _ => true) { heartbeatTimeoutMs := 15000 }
    (greetingAndPass ++ [.receive (bytesFrom (lit "A")) 30, .receiveFails])).any (fun s =>
      failure .removeFailed s == some (some 0) && s.sockets.find? 4 == some 1 &&
        (perform .removeFailed s).any fun s' => s'.sockets.find? 4 == none) = true := by decide +kernel

/-- A peer has connected once more and given its name, and when its first connection fails, the second one is closed. -/
theorem removal_closes_other : ∃ s s', Reaches (fun _ _ => True) 15000 s ∧
    failure .removeFailed s = some (some 0) ∧ perform .removeFailed s = some s' ∧ s.sockets.find? 4 = some 1 ∧
    s'.sockets.find? 4 = none := by
  obtain ⟨s, ran, ended⟩ := (Option.any_eq_true _ _).1 reconnection_removed
  simp only [Bool.and_eq_true, beq_iff_eq] at ended
  obtain ⟨⟨because, opened⟩, removed⟩ := ended
  obtain ⟨s', performed, closed⟩ := (Option.any_eq_true _ _).1 removed
  have reaches : Reaches (fun _ _ => True) 15000 s := Events.reaches_of_run (fun _ _ _ => trivial) ran
  exact ⟨s, s', reaches, because, performed, opened, beq_iff_eq.1 closed⟩

end Actuator.Coordinator.NodeTable
