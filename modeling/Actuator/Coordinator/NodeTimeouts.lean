import Actuator.Coordinator.NodeTable

/-!
# Silent nodes

`checkNodeTimeouts` reads the clock before it locks the table, and takes the age
of each entry as a difference of unsigned numbers. An entry that is younger than
the reading has an age that wraps. Exactly the expired nodes are removed if and
only if no such age exceeds the timeout (`checkNodeTimeouts_exact_iff`).
-/

namespace Actuator.Coordinator.NodeTable

open Actuator.Lib

/-! ## The names that are noted -/

/-- The last message came more than the timeout before the reading. -/
def RemoteNode.Expired (node : RemoteNode) (now : UInt64) (heartbeatTimeoutMs : UInt32) : Prop :=
  (heartbeatTimeoutMs.toNat : ℤ) < (now.toNat : ℤ) - node.lastHeartbeatTimeMs.toNat

/-- The last message came behind the reading, and the age that wraps exceeds the timeout. -/
def RemoteNode.Wraps (node : RemoteNode) (now : UInt64) (heartbeatTimeoutMs : UInt32) : Prop :=
  now < node.lastHeartbeatTimeMs ∧
    heartbeatTimeoutMs.toNat + (node.lastHeartbeatTimeMs.toNat - now.toNat) < 2 ^ 64

/-- An age exceeds the timeout if the node has expired, and also if it wraps. -/
theorem age_gt_iff (node : RemoteNode) (now : UInt64) (heartbeatTimeoutMs : UInt32) :
    now - node.lastHeartbeatTimeMs > heartbeatTimeoutMs.toUInt64 ↔
      node.Expired now heartbeatTimeoutMs ∨ node.Wraps now heartbeatTimeoutMs := by
  have nowBound := now.toNat_lt
  have lastBound := node.lastHeartbeatTimeMs.toNat_lt
  have timeoutBound := heartbeatTimeoutMs.toNat_lt
  unfold RemoteNode.Expired RemoteNode.Wraps
  rw [gt_iff_lt, UInt64.lt_iff_toNat_lt, UInt64.toNat_sub, UInt32.toNat_toUInt64, UInt64.lt_iff_toNat_lt]
  omega

theorem RemoteNode.Wraps.not_expired {node : RemoteNode} {now : UInt64} {heartbeatTimeoutMs : UInt32}
    (wraps : node.Wraps now heartbeatTimeoutMs) : ¬ node.Expired now heartbeatTimeoutMs := by
  have ahead := UInt64.lt_iff_toNat_lt.1 wraps.1
  unfold RemoteNode.Expired
  omega

theorem mem_silentNodes {s : State} {now : UInt64} {name : Str} : name ∈ s.silentNodes now ↔
    ∃ node, s.nodes.find? name = some node ∧
      (node.Expired now s.heartbeatTimeoutMs ∨ node.Wraps now s.heartbeatTimeoutMs) := by
  unfold State.silentNodes
  simp only [List.mem_map, List.mem_filter, decide_eq_true_eq, age_gt_iff]
  constructor
  · intro noted
    obtain ⟨⟨_, node⟩, ⟨entry, silent⟩, rfl⟩ := noted
    exact ⟨node, OrdMap.mem_entries.1 entry, silent⟩
  · intro silent
    obtain ⟨node, found, silent⟩ := silent
    exact ⟨(name, node), ⟨OrdMap.mem_entries.2 found, silent⟩, rfl⟩

/-! ## Their removal -/

/-- `checkNodeTimeouts`, when no other thread changes the table on the way. -/
def State.checkNodeTimeouts (s : State) (now : UInt64) : State := (s.silentNodes now).foldl State.removeNode s

theorem find?_removeNode (s : State) (nodeId name : Str) :
    (s.removeNode nodeId).nodes.find? name = if name = nodeId then none else s.nodes.find? name := by
  unfold State.removeNode
  cases found : s.nodes.find? nodeId with
  | some node =>
    change (s.nodes.erase nodeId).find? name = _
    rw [OrdMap.find?_erase]
    by_cases same : name = nodeId
    · rw [if_pos same, if_pos same]
    · rw [if_neg same, if_neg same]
  | none =>
    by_cases same : name = nodeId
    · rw [if_pos same, same]
      exact found
    · rw [if_neg same]

theorem find?_removeNodes (s : State) (names : List Str) (name : Str) :
    (names.foldl State.removeNode s).nodes.find? name = if name ∈ names then none else s.nodes.find? name := by
  induction names generalizing s with
  | nil => rw [if_neg List.not_mem_nil]; rfl
  | cons nodeId names ih =>
    rw [List.foldl_cons, ih, find?_removeNode]
    by_cases later : name ∈ names
    · rw [if_pos later, if_pos (List.mem_cons_of_mem _ later)]
    · rw [if_neg later]
      by_cases same : name = nodeId
      · rw [if_pos same, if_pos (List.mem_cons.2 (.inl same))]
      · rw [if_neg same, if_neg (List.mem_cons.not.2 (not_or.2 ⟨same, later⟩))]

/-- The socket is that of one of the named nodes. -/
def State.SocketOf (s : State) (names : List Str) (socketFd : Nat) : Prop :=
  ∃ name ∈ names, ∃ node, s.nodes.find? name = some node ∧ node.socketFd = socketFd

theorem socketOf_cons {s : State} {nodeId : Str} {names : List Str} {socketFd : Nat} :
    s.SocketOf (nodeId :: names) socketFd ↔
      s.SocketOf [nodeId] socketFd ∨ (s.removeNode nodeId).SocketOf names socketFd := by
  unfold State.SocketOf
  simp only [find?_removeNode]
  constructor
  · intro own
    obtain ⟨name, mem, node, found, rfl⟩ := own
    by_cases same : name = nodeId
    · exact .inl ⟨name, List.mem_singleton.2 same, node, found, rfl⟩
    · exact .inr ⟨name, (List.mem_cons.1 mem).resolve_left same, node, by rw [if_neg same]; exact found, rfl⟩
  · intro either
    rcases either with ⟨name, mem, node, found, rfl⟩ | ⟨name, mem, node, found, rfl⟩
    · exact ⟨name, List.mem_cons.2 (.inl (List.mem_singleton.1 mem)), node, found, rfl⟩
    · split at found
      · cases found
      · exact ⟨name, List.mem_cons_of_mem _ mem, node, found, rfl⟩

theorem socket_removeNode (s : State) (nodeId : Str) (socketFd : Nat) :
    (s.SocketOf [nodeId] socketFd → (s.removeNode nodeId).sockets.find? socketFd = none) ∧
      (¬ s.SocketOf [nodeId] socketFd → (s.removeNode nodeId).sockets.find? socketFd = s.sockets.find? socketFd) := by
  unfold State.removeNode State.SocketOf
  simp only [List.mem_singleton, exists_eq_left]
  cases found : s.nodes.find? nodeId with
  | none => exact ⟨fun own => by simp at own, fun _ => rfl⟩
  | some node =>
    simp only [Option.some.injEq, exists_eq_left', OrdMap.find?_erase]
    constructor
    · intro own
      rw [if_pos own.symm]
    · intro other
      rw [if_neg (Ne.symm other)]

/-- The sockets of the removed nodes are closed, and no others. -/
theorem socket_removeNodes (s : State) (names : List Str) (socketFd : Nat) :
    (s.SocketOf names socketFd → (names.foldl State.removeNode s).sockets.find? socketFd = none) ∧
      (¬ s.SocketOf names socketFd →
        (names.foldl State.removeNode s).sockets.find? socketFd = s.sockets.find? socketFd) := by
  induction names generalizing s with
  | nil =>
    refine ⟨fun own => ?_, fun _ => rfl⟩
    obtain ⟨name, mem, _⟩ := own
    cases mem
  | cons nodeId names ih =>
    obtain ⟨closes, spares⟩ := socket_removeNode s nodeId socketFd
    obtain ⟨closed, spared⟩ := ih (s.removeNode nodeId)
    rw [List.foldl_cons, socketOf_cons]
    constructor
    · intro own
      by_cases later : (s.removeNode nodeId).SocketOf names socketFd
      · exact closed later
      · rw [spared later]
        exact closes (own.resolve_right later)
    · intro other
      obtain ⟨first, later⟩ := not_or.1 other
      rw [spared later, spares first]

theorem removeNode_timedOutNodes (s : State) (names : List Str) (nodeId : Str) :
    State.removeNode { s with timedOutNodes := names } nodeId = { s.removeNode nodeId with timedOutNodes := names } := by
  unfold State.removeNode
  cases s.nodes.find? nodeId with
  | none => rfl
  | some node => rfl

theorem run_removeTimedOut {s : State} (idle : s.timedOutNodes = []) (names : List Str) :
    Events.run perform (fun _ _ => true) { s with timedOutNodes := names } (List.replicate names.length .removeTimedOut) =
      some (names.foldl State.removeNode s) := by
  induction names generalizing s with
  | nil =>
    cases s
    cases idle
    rfl
  | cons nodeId names ih =>
    have performed : perform .removeTimedOut { s with timedOutNodes := nodeId :: names } =
        some { s.removeNode nodeId with timedOutNodes := names } :=
      congrArg some (removeNode_timedOutNodes s names nodeId)
    have still : (s.removeNode nodeId).timedOutNodes = [] := by
      unfold State.removeNode
      split
      · exact idle
      · exact idle
    rw [List.length_cons, List.replicate_succ, Events.run, if_pos rfl, performed]
    exact ih still

/-- The thread carries the check out with one event for the table and one for each name that it notes. -/
theorem run_checkTimeouts {s : State} (idle : s.timedOutNodes = []) (now : UInt64) :
    Events.run perform (fun _ _ => true) s
      (.checkTimeouts now :: List.replicate (s.silentNodes now).length .removeTimedOut) =
        some (s.checkNodeTimeouts now) := by
  have performed : perform (.checkTimeouts now) s = some { s with timedOutNodes := s.silentNodes now } := by
    simp only [perform, idle]
  rw [Events.run, if_pos rfl, performed]
  exact run_removeTimedOut idle _

/-! ## Exactly the expired nodes -/

/-- Exactly the expired nodes are removed, exactly their sockets are closed, and the other entries are as they were. -/
structure RemovesExpired (s s' : State) (now : UInt64) : Prop where
  removed : ∀ name node, s.nodes.find? name = some node → node.Expired now s.heartbeatTimeoutMs →
    s'.nodes.find? name = none ∧ s'.sockets.find? node.socketFd = none
  kept : ∀ name, (∀ node, s.nodes.find? name = some node → ¬ node.Expired now s.heartbeatTimeoutMs) →
    s'.nodes.find? name = s.nodes.find? name
  spared : ∀ socketFd, (∀ name node, s.nodes.find? name = some node → node.socketFd = socketFd →
    ¬ node.Expired now s.heartbeatTimeoutMs) → s'.sockets.find? socketFd = s.sockets.find? socketFd

/-- For every table and every reading of the clock, exactly the expired nodes are removed if and only if no entry is so
far ahead of the reading that its age wraps to more than the timeout. -/
theorem checkNodeTimeouts_exact_iff (s : State) (now : UInt64) :
    RemovesExpired s (s.checkNodeTimeouts now) now ↔
      ∀ name node, s.nodes.find? name = some node → ¬ node.Wraps now s.heartbeatTimeoutMs := by
  have nodes := find?_removeNodes s (s.silentNodes now)
  have sockets := socket_removeNodes s (s.silentNodes now)
  constructor
  · intro exact name node found wraps
    have kept := exact.kept name fun other same => by
      cases found.symm.trans same
      exact wraps.not_expired
    have noted : name ∈ s.silentNodes now := mem_silentNodes.2 ⟨node, found, .inr wraps⟩
    unfold State.checkNodeTimeouts at kept
    rw [nodes, if_pos noted, found] at kept
    cases kept
  · intro none
    have noted : ∀ {name}, name ∈ s.silentNodes now ↔
        ∃ node, s.nodes.find? name = some node ∧ node.Expired now s.heartbeatTimeoutMs := by
      intro name
      rw [mem_silentNodes]
      constructor
      · intro silent
        obtain ⟨node, found, silent⟩ := silent
        exact ⟨node, found, silent.resolve_right (none name node found)⟩
      · intro expired
        obtain ⟨node, found, expired⟩ := expired
        exact ⟨node, found, .inl expired⟩
    refine ⟨fun name node found expired => ?_, fun name fresh => ?_, fun socketFd fresh => ?_⟩
    · have mem := noted.2 ⟨node, found, expired⟩
      exact ⟨(nodes name).trans (if_pos mem), (sockets _).1 ⟨name, mem, node, found, rfl⟩⟩
    · refine (nodes name).trans (if_neg fun mem => ?_)
      obtain ⟨node, found, expired⟩ := noted.1 mem
      exact fresh node found expired
    · refine (sockets socketFd).2 fun own => ?_
      obtain ⟨name, mem, node, found, socket⟩ := own
      obtain ⟨node', found', expired⟩ := noted.1 mem
      cases found.symm.trans found'
      exact fresh name node found socket expired

/-! ## A message behind the reading -/

/-- One node, whose message came at this time. -/
def tableAt (last : UInt64) : State where
  heartbeatTimeoutMs := 15000
  nodes := OrdMap.empty.insert (lit "A") { nodeId := lit "A", lastHeartbeatTimeMs := last, socketFd := 3 }
  sockets := OrdMap.empty.insert 3 0

/-- The node has sent one millisecond behind the reading of the clock, and is removed. -/
theorem fresh_node_removed :
    (tableAt 1001).nodes.find? (lit "A") = some { nodeId := lit "A", lastHeartbeatTimeMs := 1001, socketFd := 3 } ∧
      (1000 : ℤ) - 1001 ≤ 15000 ∧ ((tableAt 1001).checkNodeTimeouts 1000).nodes.find? (lit "A") = none ∧
      ((tableAt 1001).checkNodeTimeouts 1000).sockets.find? 3 = none ∧ ¬ RemovesExpired (tableAt 1001)
        ((tableAt 1001).checkNodeTimeouts 1000) 1000 := by
  have found : (tableAt 1001).nodes.find? (lit "A") =
      some { nodeId := lit "A", lastHeartbeatTimeMs := 1001, socketFd := 3 } :=
    OrdMap.find?_insert_self _ _ _
  have removed : ((tableAt 1001).checkNodeTimeouts 1000).nodes.find? (lit "A") = none := by decide
  refine ⟨found, by decide, removed, by decide, fun exact => ?_⟩
  have kept := exact.kept (lit "A") fun node same => by
    cases found.symm.trans same
    unfold RemoteNode.Expired
    decide
  rw [removed, found] at kept
  cases kept

end Actuator.Coordinator.NodeTable
