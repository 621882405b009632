import Actuator.Coordinator.Dispatch
import Actuator.Coordinator.Verdict
import Actuator.Lib.Accounts

/-!
# The end of a run

Every thread of a run has a known number of actions left, and every satellite
with tasks has a thread that still has to bring its acknowledgement to the
coordinator, or is finished. So `run` never waits in vain, and in whatever order
the threads take their turns, the run ends after the same number of actions
(`run_completes`). At its end each satellite has executed the tasks that the
document lists for it (`run_executes_document`).
-/

namespace Actuator.Coordinator

open Actuator.Lib Actuator.Core Actuator.Parser Actuator.Executor

variable {D : Type} [CxxDouble D] (setting : Setting D)

/-! ## Accounts -/

/-- The satellite is listed with at least one task. -/
def Busy (satId : Str) : Prop := satId ∈ setting.schedule.satelliteIds ∧ tasksOf setting.schedule satId ≠ []

/-- The handlers of the coordinator and of the satellites with tasks are known, and no other satellites are tracked. -/
structure Ready (s : Shared) : Prop where
  coordinator : s.comm.localHandlers.find? setting.coordinatorId = some .coordinator
  satellites : ∀ satId, Busy setting satId → s.comm.localHandlers.find? satId = some (.satellite satId)
  expected : ∀ satId, Busy setting satId → (s.tracking.expectedCounts.find? satId).isSome
  finished : ∀ satId, (s.tracking.finished.find? satId).isSome → Busy setting satId

/-- The message acknowledges a batch of the satellite. -/
structure BringsAck (satId : Str) (message : Message) : Prop where
  msgType : message.header.msgType = .batchTaskAssignAck
  payload : ∃ ack, parseBatchTaskAssignAckPayload setting.json message.payload = some ack ∧ ack.satelliteId = satId

/-- The actions of a satellite behind a batch of so many tasks, up to the entry of its acknowledgement. -/
def batchActions (tasks : Nat) : Nat := 5 * tasks + 5

/-- The threads that handlers start, with their accounts. -/
inductive Opens : Thread D Unit → Account Str → Prop
  | batch {satId : Str} {message : Message} (busy : Busy setting satId) (carries : CarriesBatch setting satId message) :
    Opens (handle setting.json setting.coordinatorId (.satellite satId) message)
      ⟨batchActions (tasksOf setting.schedule satId).length, [satId]⟩
  | ack {satId : Str} {message : Message} (busy : Busy setting satId) (brings : BringsAck setting satId message) :
    Opens (handle setting.json setting.coordinatorId .coordinator message) ⟨1, [satId]⟩
  | passive {handler : Handler} {message : Message} (ignores : Ignores message handler) :
    Opens (handle setting.json setting.coordinatorId handler message) .closed

/-- The accounts of a run are about the satellites that have to be finished, and only the coordinator waits for them. -/
def ledger : Ledger (Action D) Action.Response Shared Str where
  ok := Ready setting
  holds satId s := s.tracking.finished.find? satId = some true
  waits action := action = .awaitAcks
  opens := Opens setting

/-- The piece of a thread keeps to its account. -/
abbrev Pays {α : Type} (x : Thread D α) (account : Account Str) (post : α → Account Str → Prop) : Prop :=
  (ledger setting).Pays (system setting) x account post

/-! ## Single actions -/

section Actions

variable {setting} {n : Nat} {duties : List Str}

/-- An action that reads something from outside. -/
theorem pays_reading (action : Action D) {post : action.Response → Account Str → Prop} (value : action.Response)
    (reads : ∀ s r s' threads, performs setting action s r s' threads ↔ s' = s ∧ threads = [])
    (ends : ∀ r, post r ⟨n, duties⟩) : Pays setting (perform action) ⟨n + 1, duties⟩ post := by
  refine Ledger.pays_quiet (fun s _ => ⟨value, s, [], (reads s value s []).2 ⟨rfl, rfl⟩⟩) ?_ ends
  intro s r s' threads ok acts
  obtain ⟨rfl, none⟩ := (reads s r s' threads).1 acts
  exact ⟨ok, fun _ => id, none⟩

theorem pays_throwing {payload : Except Str Str} {text : Str} {account : Account Str}
    {post : Str → Account Str → Prop} (written : payload = .ok text) (ends : post text account) :
    Pays setting (throwing payload) account post := by
  subst written
  exact ends

omit [CxxDouble D] in
/-- A state in which only the queue and the counters of the module are others. -/
theorem Ready.frame {s s' : Shared} (ready : Ready setting s) (same : Same s s') : Ready setting s' := by
  refine ⟨?_, ?_, ?_, ?_⟩
  · rw [same.handlers]
    exact ready.coordinator
  · rw [same.handlers]
    exact ready.satellites
  · rw [same.tracking]
    exact ready.expected
  · rw [same.tracking]
    exact ready.finished

/-- A send to a known handler starts a thread for it. -/
theorem pays_sendMessage {dest : Str} {message : Message} {account : Account Str} {post : Bool → Account Str → Prop}
    (handler : Handler) (account' new : Account Str) (named : InterSatComm.targetNode dest message ≠ [])
    (known : ∀ s, Ready setting s → s.comm.localHandlers.find? (InterSatComm.targetNode dest message) = some handler)
    (opens : ∀ s outbound, Ready setting s → InterSatComm.Outbound s.comm dest message outbound →
      Opens setting (handle setting.json setting.coordinatorId handler outbound) new)
    (actions : account.actions = account'.actions + new.actions + 1)
    (duties : ∀ satId ∈ account.duties, satId ∈ account'.duties ∨ satId ∈ new.duties) (ends : post true account') :
    Pays setting (perform (.sendMessage dest message)) account post := by
  refine Ledger.pays_perform (fun s _ => ⟨_, _, _, 0, 0, rfl, rfl, rfl⟩) ?_
  intro s sent s' threads ready acts
  obtain ⟨now, pushedAt, state, result, begun⟩ := acts
  obtain ⟨handlers, detached⟩ := s.comm.sendMessage_detached now pushedAt dest message
  have same : Same s s' := by
    rw [state]
    exact ⟨handlers, rfl, rfl, rfl⟩
  obtain ⟨outbound, outcome⟩ := s.comm.sendMessage_of_handler now pushedAt named (known s ready)
  obtain ⟨_, completed⟩ := detached handler outbound outcome
  rw [outcome] at begun result
  refine ⟨account', [new], ⟨ready.frame same, ?_, ?_, ?_, ?_⟩, ?_⟩
  · intro satId held
    show s'.tracking.finished.find? satId = some true
    rw [same.tracking]
    exact held
  · simpa using actions
  · intro satId owed
    rcases duties satId owed with own | begins
    · exact .inr ⟨account', by simp, own⟩
    · exact .inr ⟨new, by simp, begins⟩
  · rw [begun]
    exact .cons (opens s outbound ready completed) .nil
  · rw [result]
    exact ends

end Actions

/-! ## The satellite -/

section Satellite

variable {setting} {satId : Str} {n : Nat} {duties : List Str}

/-- Progress and completion are reported to a handler that does nothing. -/
theorem pays_report {type : MessageType} {priority : Priority} {payload : Except Str Str} {text : Str}
    {post : Unit → Account Str → Prop} (named : setting.coordinatorId ≠ []) (ack : type ≠ .batchTaskAssignAck)
    (written : payload = .ok text) (ends : post () ⟨n, duties⟩) :
    Pays setting (SatelliteSimulator.report { satelliteId := satId, coordinatorId := setting.coordinatorId }
      simulatorHost type priority payload) ⟨n + 2, duties⟩ post := by
  apply Ledger.Pays.bind
  apply pays_throwing written
  apply Ledger.Pays.bind
  apply pays_reading .stamp { now := 0, header := {} } fun _ _ _ _ => Iff.rfl
  intro stamp
  have target : InterSatComm.targetNode setting.coordinatorId
      (buildMessage stamp type satId setting.coordinatorId priority text) = setting.coordinatorId := ite_self _
  apply Ledger.Pays.bind
  apply pays_sendMessage .coordinator ⟨n, duties⟩ .closed
  · rw [target]
    exact named
  · intro s ready
    rw [target]
    exact ready.coordinator
  · exact fun s outbound _ completed => .passive fun heard => ack (completed.msgType.symm.trans heard)
  · exact rfl
  · exact fun _ => .inl
  · exact ends

theorem pays_runTask {taskTotal : Int32} {st : BatchState} {taskMsg : TaskAssignMessage D}
    {post : BatchState → Account Str → Prop} (named : setting.coordinatorId ≠ [])
    (utf8 : TaskUtf8 (taskAssignToSegment taskMsg satId))
    (ends : ∀ taskOk, post (st.record taskMsg.taskId taskOk) ⟨n, duties⟩) :
    Pays setting (SatelliteSimulator.runTask setting.json
      { satelliteId := satId, coordinatorId := setting.coordinatorId } simulatorHost taskTotal st taskMsg)
      ⟨n + 5, duties⟩ post := by
  obtain ⟨progress, started, _⟩ := setting.json.parse_dump _
    (TaskProgressMessage.printable (runningProgress_utf8 utf8.segmentId utf8.taskId st.completed taskTotal))
  apply Ledger.Pays.bind
  apply pays_report named (by decide) started
  apply Ledger.Pays.bind
  apply Ledger.pays_quiet
  · exact fun s _ => ⟨true, _, _, rfl, rfl⟩
  · intro s taskOk s' threads ready acts
    obtain ⟨rfl, none⟩ := acts
    exact ⟨⟨ready.coordinator, ready.satellites, ready.expected, ready.finished⟩, fun _ => id, none⟩
  · intro taskOk
    obtain ⟨complete, finished, _⟩ := setting.json.parse_dump _
      (TaskCompleteMessage.printable (taskComplete_utf8 utf8.segmentId utf8.taskId taskOk))
    apply Ledger.Pays.bind
    apply pays_report named (by decide) finished
    exact ends taskOk

theorem pays_runTasks {taskTotal : Int32} {st : BatchState} {tasks : List (TaskAssignMessage D)}
    {post : BatchState → Account Str → Prop} (named : setting.coordinatorId ≠ [])
    (utf8 : ∀ taskMsg ∈ tasks, TaskUtf8 (taskAssignToSegment taskMsg satId))
    (ends : ∀ outcomes : List (Str × Bool), outcomes.map Prod.fst = tasks.map (·.taskId) →
      post (st.recordAll outcomes) ⟨n, duties⟩) :
    Pays setting (SatelliteSimulator.runTasks setting.json
      { satelliteId := satId, coordinatorId := setting.coordinatorId } simulatorHost taskTotal st tasks)
      ⟨5 * tasks.length + n, duties⟩ post := by
  induction tasks generalizing st with
  | nil =>
    rw [List.length_nil, Nat.mul_zero, Nat.zero_add]
    exact ends [] rfl
  | cons taskMsg tasks ih =>
    obtain ⟨first, later⟩ := List.forall_mem_cons.1 utf8
    rw [List.length_cons, Nat.mul_succ, Nat.add_right_comm]
    apply Ledger.Pays.bind
    apply pays_runTask named first
    intro taskOk
    apply ih later
    intro outcomes ids
    exact ends ((taskMsg.taskId, taskOk) :: outcomes) (congrArg (taskMsg.taskId :: ·) ids)

/-- The acknowledgement is brought to the coordinator by a thread of its own. -/
theorem pays_sendAck {ack : BatchTaskAssignAck} (named : setting.coordinatorId ≠ []) (busy : Busy setting satId)
    (utf8 : ack.Utf8) (own : ack.satelliteId = satId) :
    Pays setting (SatelliteSimulator.sendAck setting.json
      { satelliteId := satId, coordinatorId := setting.coordinatorId } simulatorHost ack) ⟨3, [satId]⟩
      fun _ rest => rest = .closed := by
  obtain ⟨text, written, reads⟩ := parseBatchTaskAssignAckPayload_serialize setting.json utf8
  apply Ledger.Pays.bind
  apply pays_throwing written
  apply Ledger.Pays.bind
  apply pays_reading .stamp { now := 0, header := {} } fun _ _ _ _ => Iff.rfl
  intro stamp
  have target : InterSatComm.targetNode setting.coordinatorId
      (buildMessage stamp .batchTaskAssignAck satId setting.coordinatorId .normal text) = setting.coordinatorId :=
    ite_self _
  apply Ledger.Pays.bind
  apply pays_sendMessage .coordinator .closed ⟨1, [satId]⟩
  · rw [target]
    exact named
  · intro s ready
    rw [target]
    exact ready.coordinator
  · intro s outbound _ completed
    refine .ack busy ⟨completed.msgType, ack, ?_, own⟩
    rw [completed.payload]
    exact reads
  · rfl
  · exact fun _ => .inr
  · rfl

theorem pays_batch (wellFormed : setting.schedule.WellFormed) (named : setting.coordinatorId ≠ []) {message : Message}
    (busy : Busy setting satId) (carries : CarriesBatch setting satId message) :
    Pays setting (handle setting.json setting.coordinatorId (.satellite satId) message)
      ⟨batchActions (tasksOf setting.schedule satId).length, [satId]⟩ fun _ rest => rest = .closed := by
  show Pays setting (SatelliteSimulator.handleMessage setting.json _ simulatorHost message) _ _
  unfold SatelliteSimulator.handleMessage
  rw [if_pos carries.msgType]
  apply Ledger.Pays.bind
  apply pays_reading .now 0 fun _ _ _ _ => Iff.rfl
  intro timestamp
  apply Ledger.Pays.bind
  apply pays_reading .held ⟨.normal, 0, CxxDouble.ofInt 0, CxxDouble.ofInt 0⟩ fun _ _ _ _ => Iff.rfl
  intro held
  obtain ⟨batch, parsed, messageId, segments⟩ := carries.payload held
  have utf8 : ∀ taskMsg ∈ batch.scheduledTasks, TaskUtf8 (taskAssignToSegment taskMsg satId) := by
    intro taskMsg mem
    exact tasksOf_utf8 wellFormed (segments ▸ List.mem_map_of_mem mem)
  have length : (tasksOf setting.schedule satId).length = batch.scheduledTasks.length := by
    rw [← segments, List.length_map]
  rw [length]
  simp only [parsed]
  apply Ledger.Pays.bind
  apply pays_runTasks named utf8
  intro outcomes ids
  have ready : BatchTaskAssignAck.Utf8 { initialAck satId timestamp with messageId := batch.messageId } :=
    ⟨messageId, carries.utf8, carries.utf8, by simp [initialAck], by simp [initialAck],
      by simp [Json.Utf8Map, initialAck]⟩
  have named' : ∀ outcome ∈ outcomes, ValidUtf8 outcome.1 := by
    intro outcome mem
    have listed : outcome.1 ∈ batch.scheduledTasks.map (·.taskId) := ids ▸ List.mem_map_of_mem mem
    obtain ⟨taskMsg, among, same⟩ := List.mem_map.1 listed
    rw [← same]
    exact (utf8 taskMsg among).taskId
  have ack := BatchState.recordAll_utf8 (show ({ completed := 0, allSuccess := true, ack := _ } : BatchState).ack.Utf8
    from ready) named'
  apply pays_sendAck named busy
  · exact ⟨ack.messageId, ack.satelliteId, ack.nodeId, ack.acceptedTaskIds, ack.rejectedTaskIds, ack.rejectionReasons⟩
  · exact BatchState.recordAll_satelliteId _ _

/-- The entry of an acknowledgement finishes its satellite. -/
theorem pays_ack {message : Message} (busy : Busy setting satId) (brings : BringsAck setting satId message) :
    Pays setting (handle setting.json setting.coordinatorId .coordinator message) ⟨1, [satId]⟩
      fun _ rest => rest = .closed := by
  obtain ⟨ack, parsed, own⟩ := brings.payload
  show Pays setting (handleCoordinatorMessage setting.json message) _ _
  unfold handleCoordinatorMessage onCoordinatorBatchAck
  rw [if_pos brings.msgType]
  simp only [parsed]
  refine Ledger.pays_perform (fun s _ => ⟨(), _, _, rfl, rfl⟩) ?_
  intro s _ s' threads ready acts
  obtain ⟨rfl, none⟩ := acts
  obtain ⟨count, expected⟩ := Option.isSome_iff_exists.1 (ready.expected satId busy)
  have recorded : s.tracking.recordAck ack = { s.tracking with
      finished := s.tracking.finished.insert satId true
      results := s.tracking.results.insert satId (Tracking.succeeds count ack) } := by
    unfold Tracking.recordAck
    rw [own, expected]
  rw [recorded]
  refine ⟨.closed, [], ⟨⟨ready.coordinator, ready.satellites, ready.expected, ?_⟩, ?_, rfl, ?_, none ▸ .nil⟩, rfl⟩
  · intro other found
    rw [OrdMap.find?_insert] at found
    split at found
    · rename_i same
      exact same ▸ busy
    · exact ready.finished other found
  · intro other held
    show (s.tracking.finished.insert satId true).find? other = some true
    rw [OrdMap.find?_insert, show s.tracking.finished.find? other = some true from held, ite_self]
  · intro other owed
    cases List.mem_singleton.1 owed
    exact .inl (OrdMap.find?_insert_self _ _ _)

/-- The thread of a handler pays what it owes. -/
theorem pays_opened (wellFormed : setting.schedule.WellFormed) (named : setting.coordinatorId ≠ []) {thread : Thread D Unit}
    {account : Account Str} (opens : Opens setting thread account) :
    Pays setting thread account fun _ rest => rest = .closed := by
  cases opens with
  | batch busy carries => exact pays_batch wellFormed named busy carries
  | ack busy brings => exact pays_ack busy brings
  | passive ignores =>
    rw [handle_ignored ignores]
    rfl

end Satellite

/-! ## The coordinator -/

/-- The actions that a round of the distribution leads to. -/
def roundActions (satId : Str) : Nat :=
  if (tasksOf setting.schedule satId).isEmpty then 1 else batchActions (tasksOf setting.schedule satId).length + 2

/-- All actions of a run. -/
def runActions : Nat := (setting.schedule.satelliteIds.map (roundActions setting)).sum + 2

/-- Those of the ids whose satellites have tasks. -/
def busyIds (satIds : List Str) : List Str := satIds.filter fun satId => !(tasksOf setting.schedule satId).isEmpty

/-- Every satellite with tasks has a simulator, and none takes the id of the coordinator. -/
structure Staffed : Prop where
  named : setting.coordinatorId ≠ []
  apart : setting.coordinatorId ∉ setting.schedule.satelliteIds
  simulated : ∀ satId, Busy setting satId → setting.simulators satId = true

section Coordinator

variable {setting} {n : Nat} {duties : List Str}

omit [CxxDouble D] in
theorem mem_busyIds {satId : Str} : satId ∈ busyIds setting setting.schedule.satelliteIds ↔ Busy setting satId := by
  simp [busyIds, Busy]

/-- A round of the distribution leaves a satellite without tasks alone. -/
theorem pays_distributeTo_idle {satId : Str} {round : Round D} {counts : Counts} {post : Counts → Account Str → Prop}
    (idle : tasksOf setting.schedule satId = []) (ends : ∀ counts', post counts' ⟨n, duties⟩) :
    Pays setting (distributeTo setting.json setting.coordinatorId coordinatorHost setting.schedule round satId counts)
      ⟨n, duties⟩ post := by
  unfold distributeTo
  unfold tasksOf at idle
  cases found : setting.schedule.satelliteTasks.find? satId with
  | none => exact ends counts
  | some tasks =>
    obtain rfl : tasks = [] := by simpa [found] using idle
    exact ends counts

/-- To a satellite with tasks it gives a thread that will bring the acknowledgement. -/
theorem pays_distributeTo_busy (wellFormed : setting.schedule.WellFormed) (described : setting.schedule.Described)
    {satId : Str} (busy : Busy setting satId) {round : Round D} {counts : Counts} {post : Counts → Account Str → Prop}
    (ends : ∀ counts', post counts' ⟨n, duties⟩) :
    Pays setting (distributeTo setting.json setting.coordinatorId coordinatorHost setting.schedule round satId counts)
      ⟨batchActions (tasksOf setting.schedule satId).length + 1 + n, satId :: duties⟩ post := by
  obtain ⟨listed, some⟩ := busy
  unfold distributeTo
  cases found : setting.schedule.satelliteTasks.find? satId with
  | none => simp [tasksOf, found] at some
  | some tasks =>
    obtain ⟨named, known⟩ := described satId (by rw [found]; rfl)
    have held : tasksOf setting.schedule satId = tasks := by simp [tasksOf, found]
    rw [held] at some ⊢
    cases node : setting.schedule.satellites.find? fun info => info.satelliteId = satId with
    | none =>
      obtain ⟨info, among, name⟩ := List.mem_map.1 known
      exact absurd (List.find?_eq_none.1 node info among) (by simpa using name)
    | some info =>
      have among := List.mem_of_find?_eq_some node
      obtain ⟨text, dumped, _⟩ := setting.json.parse_dump _
        (BatchTaskAssignMessage.printable (batchFor_utf8 wellFormed listed among found round))
      have target : InterSatComm.targetNode satId (batchMessage setting.coordinatorId round satId text) = satId :=
        ite_self satId
      simp only [List.isEmpty_eq_false_iff.2 some, Bool.false_eq_true, if_false]
      apply Ledger.Pays.bind
      apply pays_throwing dumped
      apply Ledger.Pays.bind
      apply pays_sendMessage (.satellite satId) ⟨n, duties⟩ ⟨batchActions tasks.length, [satId]⟩
      · rw [target]
        exact named
      · intro s ready
        rw [target]
        exact ready.satellites satId ⟨listed, held ▸ some⟩
      · intro s outbound _ completed
        rw [← held]
        exact .batch ⟨listed, held ▸ some⟩
          (carriesBatch_of_outbound wellFormed listed among found dumped named completed.msgType completed.payload)
      · show batchActions tasks.length + 1 + n = n + batchActions tasks.length + 1
        omega
      · intro other owed
        rcases List.mem_cons.1 owed with rfl | later
        · exact .inr List.mem_cons_self
        · exact .inl later
      · exact ends _

theorem pays_distributeFrom (wellFormed : setting.schedule.WellFormed) (described : setting.schedule.Described)
    {satIds : List Str} (listed : ∀ satId ∈ satIds, satId ∈ setting.schedule.satelliteIds) (k : Nat) {counts : Counts}
    {post : Counts → Account Str → Prop} (ends : ∀ counts', post counts' ⟨n, []⟩) :
    Pays setting (distributeFrom setting.json setting.coordinatorId coordinatorHost setting.schedule k satIds counts)
      ⟨(satIds.map (roundActions setting)).sum + n, busyIds setting satIds⟩ post := by
  induction satIds generalizing k counts with
  | nil =>
    rw [List.map_nil, List.sum_nil, Nat.zero_add]
    exact ends counts
  | cons satId satIds ih =>
    obtain ⟨first, later⟩ := List.forall_mem_cons.1 listed
    rw [List.map_cons, List.sum_cons]
    have round : Round D := ⟨0, 0, 0, {}, fun _ => ⟨.normal, 0, CxxDouble.ofInt 0, CxxDouble.ofInt 0⟩⟩
    by_cases idle : tasksOf setting.schedule satId = []
    · have actions : roundActions setting satId = 1 := by simp [roundActions, idle]
      have same : busyIds setting (satId :: satIds) = busyIds setting satIds := by simp [busyIds, idle]
      rw [actions, same, Nat.add_assoc, Nat.add_comm 1]
      apply Ledger.Pays.bind
      apply pays_reading .round round fun _ _ _ _ => Iff.rfl
      intro round
      apply Ledger.Pays.bind
      exact pays_distributeTo_idle idle fun _ => ih later (k + 1)
    · have actions : roundActions setting satId = batchActions (tasksOf setting.schedule satId).length + 2 := by
        simp [roundActions, idle]
      have more : busyIds setting (satId :: satIds) = satId :: busyIds setting satIds := by simp [busyIds, idle]
      rw [actions, more, Nat.add_assoc, ← Nat.add_assoc _ 1 1, Nat.add_right_comm]
      apply Ledger.Pays.bind
      apply pays_reading .round round fun _ _ _ _ => Iff.rfl
      intro round
      apply Ledger.Pays.bind
      exact pays_distributeTo_busy wellFormed described ⟨first, idle⟩ fun _ => ih later (k + 1)

/-- What `run` does behind its first block. -/
theorem pays_run (wellFormed : setting.schedule.WellFormed) (described : setting.schedule.Described) :
    Pays setting (do
        let _distributed ← distributeAllTasks setting.json setting.coordinatorId coordinatorHost setting.schedule
        let _finished ← perform .awaitAcks
        return : Thread D Unit)
      ⟨(setting.schedule.satelliteIds.map (roundActions setting)).sum + 1, busyIds setting setting.schedule.satelliteIds⟩
      fun _ rest => rest = .closed := by
  apply Ledger.Pays.bind
  apply Ledger.Pays.bind
  apply pays_distributeFrom wellFormed described fun _ => id
  intro counts
  apply Ledger.Pays.bind
  refine ⟨fun s _ => .inr ⟨rfl, rfl⟩, fun s finished s' threads ready acts => ⟨.closed, [], ?_, rfl⟩⟩
  have none : ∀ satId ∈ ([] : List Str), (ledger setting).Covered satId s' [.closed] := fun _ owed => by cases owed
  obtain ⟨rfl, ⟨_, _, rfl⟩ | ⟨_, _, _, rfl⟩⟩ := acts
  · exact ⟨ready, fun _ => id, rfl, none, .nil⟩
  · refine ⟨⟨ready.coordinator, ready.satellites, ready.expected, fun satId found => ?_⟩, fun satId held => ?_, rfl,
      none, .nil⟩
    · change ((s.tracking.finished.mapValues fun _ => true).find? satId).isSome at found
      rw [OrdMap.find?_mapValues, Option.isSome_map] at found
      exact ready.finished satId found
    · show (s.tracking.finished.mapValues fun _ => true).find? satId = some true
      rw [OrdMap.find?_mapValues, show s.tracking.finished.find? satId = some true from held]
      rfl

end Coordinator

/-! ## The beginning -/

section Beginning

variable {setting}

omit [CxxDouble D] in
theorem find?_foldl_registerLocalHandler (satIds : List Str) (comm : InterSatComm Handler) (id : Str) :
    (satIds.foldl (fun comm satId =>
      if setting.simulators satId then comm.registerLocalHandler satId (.satellite satId) else comm)
      comm).localHandlers.find? id =
      if id ∈ satIds ∧ setting.simulators id = true ∧ id ≠ [] then some (.satellite id) else comm.localHandlers.find? id := by
  induction satIds generalizing comm with
  | nil => simp
  | cons satId satIds ih =>
    rw [List.foldl_cons, ih]
    by_cases own : id = satId
    · subst own
      by_cases simulated : setting.simulators id = true
      · by_cases named : id = []
        · simp [named, InterSatComm.registerLocalHandler]
        · simp [simulated, named, InterSatComm.registerLocalHandler]
      · simp [simulated]
    · have before : (if setting.simulators satId then comm.registerLocalHandler satId (.satellite satId)
          else comm).localHandlers.find? id = comm.localHandlers.find? id := by
        unfold InterSatComm.registerLocalHandler
        split
        · split
          · rfl
          · exact OrdMap.find?_insert_of_ne _ _ own
        · rfl
      rw [before]
      simp [own]

omit [CxxDouble D] in
/-- Only satellites with tasks are tracked. -/
theorem busy_of_start {satId : Str}
    (tracked : ((Tracking.start setting.schedule).finished.find? satId).isSome) : Busy setting satId := by
  refine List.foldlRecOn (motive := fun tracking : Tracking => ∀ satId, (tracking.finished.find? satId).isSome →
    Busy setting satId) setting.schedule.satelliteIds _ (fun satId found => by simp at found) ?_ satId tracked
  intro tracking busy other listed satId found
  unfold Tracking.track at found
  split at found
  · exact busy satId found
  · rename_i some
    change ((tracking.finished.insert other false).find? satId).isSome at found
    rw [OrdMap.find?_insert] at found
    split at found
    · rename_i same
      exact ⟨same ▸ listed, by simpa [same] using some⟩
    · exact busy satId found

omit [CxxDouble D] in
theorem described_of_tasks (described : setting.schedule.Described) {satId : Str}
    (some : tasksOf setting.schedule satId ≠ []) :
    satId ≠ [] ∧ satId ∈ setting.schedule.satellites.map (·.satelliteId) := by
  refine described satId ?_
  cases found : setting.schedule.satelliteTasks.find? satId with
  | none => exact absurd (by simp [tasksOf, found]) some
  | some tasks => rfl

/-- Behind the first block of `run` the accounts balance. -/
theorem balanced_started (wellFormed : setting.schedule.WellFormed) (described : setting.schedule.Described)
    (staffed : Staffed setting) {comm : InterSatComm Handler} {pool : Pool (Action D) Action.Response Shared}
    (first : (system setting).Step (initialPool setting comm) pool) :
    (ledger setting).Balanced (system setting) (busyIds setting setting.schedule.satelliteIds) pool
      (runActions setting - 1) := by
  obtain ⟨r, s', started, acts, rfl⟩ := Machine.step_alone first
  obtain ⟨rfl, rfl⟩ := acts
  have pays := pays_run wellFormed described
  refine ⟨⟨?_, fun satId busy => ?_, fun satId busy => ?_, fun satId => busy_of_start⟩, _, .cons pays .nil, ?_, ?_⟩
  · show (registerLocalMessageHandlers setting _).localHandlers.find? _ = _
    unfold registerLocalMessageHandlers
    rw [find?_foldl_registerLocalHandler, if_neg fun among => staffed.apart among.1]
    simp [InterSatComm.registerLocalHandler, staffed.named]
  · show (registerLocalMessageHandlers setting _).localHandlers.find? _ = _
    unfold registerLocalMessageHandlers
    rw [find?_foldl_registerLocalHandler, if_pos]
    exact ⟨busy.1, staffed.simulated satId busy, (described_of_tasks described busy.2).1⟩
  · show ((Tracking.start setting.schedule).expectedCounts.find? satId).isSome
    rw [(Tracking.start_tracks busy.1 busy.2).1]
    rfl
  · simp [runActions]
  · intro satId busy
    exact .inr ⟨_, List.mem_singleton_self _, busy⟩

/-- Once all satellites with tasks are finished, the wait is over. -/
theorem awaitAcks_possible (action : Action D) (s : Shared) (waits : (ledger setting).waits action)
    (ready : (ledger setting).ok s)
    (held : ∀ satId ∈ busyIds setting setting.schedule.satelliteIds, (ledger setting).holds satId s) :
    ∃ r s' started, (system setting).performs action s r s' started := by
  obtain rfl : action = .awaitAcks := waits
  refine ⟨true, s, [], rfl, .inl ⟨rfl, List.all_eq_true.2 fun entry listed => ?_, rfl⟩⟩
  have found := OrdMap.mem_entries.1 listed
  have finished := held entry.1 (mem_busyIds.2 (ready.finished entry.1 (by rw [found]; rfl)))
  exact Option.some.inj (found.symm.trans finished)

end Beginning

/-! ## Runs -/

section Runs

variable {setting}

/-- What the balance says about a pool behind so many steps. -/
theorem completes_of_described (wellFormed : setting.schedule.WellFormed) (described : setting.schedule.Described)
    (staffed : Staffed setting) {comm : InterSatComm Handler} {k : Nat} {pool : Pool (Action D) Action.Response Shared}
    (steps : (system setting).Steps k (initialPool setting comm) pool) :
    k ≤ runActions setting ∧ (k < runActions setting ↔ ∃ next, (system setting).Step pool next) ∧
      (k = runActions setting ↔ ∀ thread ∈ pool.threads, thread = .done ()) ∧
      (k = runActions setting → ∀ satId, Busy setting satId → pool.shared.tracking.finished.find? satId = some true) := by
  have some : runActions setting ≠ 0 := by simp [runActions]
  cases k with
  | zero =>
    cases steps
    refine ⟨Nat.zero_le _, ?_, ?_, fun none => absurd none.symm some⟩
    · exact iff_of_true (Nat.pos_of_ne_zero some) (Ledger.step_of_mem List.mem_cons_self ⟨(), _, _, rfl, rfl⟩)
    · refine iff_of_false some.symm fun all => ?_
      cases all _ List.mem_cons_self
  | succ k =>
    obtain ⟨between, first, rest⟩ := steps.head
    obtain ⟨bound, moves, ends, facts⟩ := (balanced_started wellFormed described staffed first).completes
      awaitAcks_possible (fun t account opens => pays_opened wellFormed staffed.named opens) rest
    refine ⟨by omega, ?_, ?_, fun last satId busy => facts (by omega) satId (mem_busyIds.2 busy)⟩
    · rw [← moves]
      omega
    · rw [← ends]
      omega

end Runs

/-- `run` and the handlers it starts perform a number of actions that the schedule fixes, whichever thread takes each
turn: as long as some are left, some thread can act. Behind the last, all threads are done and each satellite with tasks
is finished. -/
theorem run_completes (setting : Setting D) (scheduleFile : Option Str)
    (read : setting.schedule = parseAllSatellites setting.json scheduleFile) (staffed : Staffed setting)
    (comm : InterSatComm Handler) {k : Nat} {pool : Pool (Action D) Action.Response Shared}
    (steps : (system setting).Steps k (initialPool setting comm) pool) :
    k ≤ runActions setting ∧ (k < runActions setting ↔ ∃ next, (system setting).Step pool next) ∧
      (k = runActions setting ↔ ∀ thread ∈ pool.threads, thread = .done ()) ∧
      (k = runActions setting → ∀ satId, Busy setting satId → pool.shared.tracking.finished.find? satId = some true) :=
  completes_of_described (read ▸ parseAllSatellites_wellFormed setting.json scheduleFile)
    (read ▸ parseAllSatellites_described setting.json scheduleFile) staffed steps

theorem sampleSetting_read : sampleSetting.schedule =
    parseAllSatellites sampleSetting.json (some (JsonText.print distinctSchedule)) := by
  dsimp only [sampleSetting]

theorem sampleSetting_staffed : Staffed sampleSetting := by
  refine ⟨by decide, by decide +kernel, fun satId _ => rfl⟩

theorem sampleSetting_actions : runActions sampleSetting = 26 := by decide +kernel

/-- The pool that the sample order leads to, with its number of steps. -/
theorem samplePool_steps : ∃ pool, (system sampleSetting).Steps 25 (initialPool sampleSetting sampleComm) pool := by
  obtain ⟨pool, reached, _⟩ := (Option.any_eq_true _ _).1 samplePool_ended
  exact ⟨pool, Machine.steps_of_turns (outcome_sound sampleSetting sampleRound _) reached⟩

theorem run_completes_sample : ∃ pool, (system sampleSetting).Steps 26 (initialPool sampleSetting sampleComm) pool ∧
    (∀ thread ∈ pool.threads, thread = .done ()) ∧ pool.shared.tracking.finished.find? (lit "S2") = some true := by
  obtain ⟨pool, before⟩ := samplePool_steps
  obtain ⟨_, moves, _⟩ := run_completes sampleSetting _ sampleSetting_read sampleSetting_staffed sampleComm before
  obtain ⟨last, step⟩ := moves.1 (by rw [sampleSetting_actions]; decide)
  obtain ⟨_, _, ends, facts⟩ := run_completes sampleSetting _ sampleSetting_read sampleSetting_staffed sampleComm
    (before.tail step)
  exact ⟨last, before.tail step, ends.1 sampleSetting_actions.symm,
    facts sampleSetting_actions.symm (lit "S2") ⟨by decide +kernel, by decide +kernel⟩⟩

/-! ## What a run has done -/

section Executed

variable {setting}

/-- Nothing is executed on a satellite without tasks. -/
theorem idle_calls (wellFormed : setting.schedule.WellFormed) (distinct : setting.schedule.satelliteIds.Nodup)
    (inTime : setting.timesOut = false) {comm : InterSatComm Handler} {pool : Pool (Action D) Action.Response Shared}
    (reaches : (system setting).Reaches (initialPool setting comm) pool) {satId : Str}
    (idle : tasksOf setting.schedule satId = []) : callsOf pool.shared satId = [] := by
  have holds : ∃ roles, Protocol.Plays (system setting) (protocol setting)
      (fun s roles => Inv setting.schedule setting.coordinatorId s roles ∧ callsOf s satId = []) pool roles := by
    obtain ⟨inv, follows⟩ := plays_initialPool wellFormed inTime comm
    apply Protocol.reaches_inv (fun g => acts_startable wellFormed) _ _ ⟨_, ⟨inv, rfl⟩, follows⟩ reaches
    · exact fun s roles held => held.1.handlers
    · intro action s g s' g' before after new held step _
      obtain ⟨inv, none⟩ := held
      refine ⟨keeps_inv distinct inv step, ?_⟩
      cases step with
      | quiet started working same passive => rw [same.callsOf, none]
      | dispatch same => rw [same.callsOf, none]
      | acknowledge same => rw [same.callsOf, none]
      | @execute _ other outcomes task remaining taskOk =>
        have valid := inv.valid (.working other outcomes (task :: remaining)) (by simp)
        have others : other ≠ satId := by
          rintro rfl
          simpa [idle] using valid.2.2
        rw [callsOf_append, none, if_neg others]
        rfl
      | _ => exact none
  obtain ⟨roles, plays⟩ := holds
  exact plays.1.2

/-- With one entry for each id, the tasks of a satellite are those that the document lists under its id. -/
theorem tasksOf_eq_listedUnder {json : JsonLibrary D} {text : Str} {document : Json D}
    (accepted : AcceptedBy json text document) (distinct : ((satelliteEntries document).filterMap satelliteIdOf).Nodup)
    (satId : Str) : tasksOf (parseAllSatellites json (some text)) satId = listedUnder satId document := by
  have once := List.nodup_iff_count_le_one.1 distinct satId
  rw [count_ids] at once
  unfold tasksOf listedUnder
  rw [(records_of_acceptedBy accepted).satelliteTasks satId]
  generalize (satelliteEntries document).filter (carries satId) = entries at once ⊢
  rcases entries with _ | ⟨entry, _ | _⟩
  · rfl
  · simp
  · simp at once

/-- When no thread can act any more, each satellite has executed its tasks, and its result is whether all succeeded. -/
theorem executed_of_ended (wellFormed : setting.schedule.WellFormed) (described : setting.schedule.Described)
    (ids : setting.schedule.satelliteIds = setting.schedule.satellites.map (·.satelliteId))
    (distinct : setting.schedule.satelliteIds.Nodup) (staffed : Staffed setting) (inTime : setting.timesOut = false)
    {comm : InterSatComm Handler} {pool : Pool (Action D) Action.Response Shared}
    (reaches : (system setting).Reaches (initialPool setting comm) pool) (ended : ¬∃ next, (system setting).Step pool next)
    (satId : Str) :
    (callsOf pool.shared satId).map Prod.fst = tasksOf setting.schedule satId ∧ (tasksOf setting.schedule satId ≠ [] →
      pool.shared.tracking.results.find? satId = some ((callsOf pool.shared satId).all (·.2))) := by
  by_cases idle : tasksOf setting.schedule satId = []
  · rw [idle, idle_calls wellFormed distinct inTime reaches idle]
    exact ⟨rfl, fun some => absurd rfl some⟩
  · have listed : satId ∈ setting.schedule.satelliteIds := ids ▸ (described_of_tasks described idle).2
    obtain ⟨k, steps⟩ := Machine.steps_of_reaches reaches
    obtain ⟨bound, moves, _, facts⟩ := completes_of_described wellFormed described staffed steps
    have last : k = runActions setting := le_antisymm bound (not_lt.1 fun more => ended (moves.1 more))
    obtain ⟨roles, plays⟩ := plays_of_reaches wellFormed distinct inTime reaches
    obtain ⟨result, tasks, _⟩ := plays.1.settled satId (facts last satId ⟨listed, idle⟩)
    exact ⟨tasks, fun _ => result⟩

/-- The tasks of the schedule are executed as the document lists them. -/
theorem executed_of_document {text : Str} {document : Json D} (accepted : AcceptedBy setting.json text document)
    (read : setting.schedule = parseAllSatellites setting.json (some text))
    (distinct : ((satelliteEntries document).filterMap satelliteIdOf).Nodup) (staffed : Staffed setting)
    (inTime : setting.timesOut = false) {comm : InterSatComm Handler}
    {pool : Pool (Action D) Action.Response Shared}
    (reaches : (system setting).Reaches (initialPool setting comm) pool) (ended : ¬∃ next, (system setting).Step pool next)
    (satId : Str) :
    (callsOf pool.shared satId).map Prod.fst = listedUnder satId document ∧ (listedUnder satId document ≠ [] →
      pool.shared.tracking.results.find? satId = some ((callsOf pool.shared satId).all (·.2))) := by
  have ids := (records_of_acceptedBy accepted).satelliteIds
  rw [← tasksOf_eq_listedUnder accepted distinct, ← read]
  refine executed_of_ended (read ▸ parseAllSatellites_wellFormed setting.json (some text))
    (read ▸ parseAllSatellites_described setting.json (some text)) ?_ ?_ staffed inTime reaches ended satId
  · rw [read, (records_of_acceptedBy accepted).satellites]
  · rw [read, ids]
    exact distinct

end Executed

/-- At the end of a run every satellite has executed the tasks that the document lists for it, each once and in their
order, and its result is whether all of them succeeded. -/
theorem run_executes_document (setting : Setting D) {text : Str} {document : Json D}
    (accepted : AcceptedBy setting.json text document)
    (read : setting.schedule = parseAllSatellites setting.json (some text))
    (distinct : ((satelliteEntries document).filterMap satelliteIdOf).Nodup) (staffed : Staffed setting)
    (inTime : setting.timesOut = false) (comm : InterSatComm Handler)
    {pool : Pool (Action D) Action.Response Shared}
    (reaches : (system setting).Reaches (initialPool setting comm) pool) (ended : ¬∃ next, (system setting).Step pool next)
    (satId : Str) :
    (callsOf pool.shared satId).map Prod.fst = listedUnder satId document ∧
      (listedUnder satId document ≠ [] →
        pool.shared.tracking.results.find? satId = some ((callsOf pool.shared satId).all (·.2))) :=
  executed_of_document accepted read distinct staffed inTime reaches ended satId

/-- The sample run with its last step. -/
theorem samplePool_ends : ∃ pool, (system sampleSetting).Reaches (initialPool sampleSetting sampleComm) pool ∧
    ¬∃ next, (system sampleSetting).Step pool next := by
  obtain ⟨pool, before⟩ := samplePool_steps
  have described := sampleSetting_read ▸ parseAllSatellites_described sampleSetting.json _
  obtain ⟨_, moves, _⟩ := completes_of_described sampleSetting_wellFormed described sampleSetting_staffed before
  obtain ⟨last, step⟩ := moves.1 (by rw [sampleSetting_actions]; decide)
  obtain ⟨_, stops, _⟩ := completes_of_described sampleSetting_wellFormed described sampleSetting_staffed
    (before.tail step)
  refine ⟨last, (before.tail step).reaches, ?_⟩
  rw [← stops, sampleSetting_actions]
  exact Nat.lt_irrefl 26

theorem run_executes_document_sample : ∃ pool,
    (system sampleSetting).Reaches (initialPool sampleSetting sampleComm) pool ∧
      (callsOf pool.shared (lit "S1")).map Prod.fst = listedUnder (lit "S1") distinctSchedule ∧
      pool.shared.tracking.results.find? (lit "S1") = some ((callsOf pool.shared (lit "S1")).all (·.2)) := by
  obtain ⟨pool, reaches, ended⟩ := samplePool_ends
  obtain ⟨tasks, result⟩ := run_executes_document sampleSetting distinctSchedule_accepted sampleSetting_read
    (by decide) sampleSetting_staffed rfl sampleComm reaches ended (lit "S1")
  exact ⟨pool, reaches, tasks, result (by decide)⟩

end Actuator.Coordinator
