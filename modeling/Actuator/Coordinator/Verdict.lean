import Actuator.Coordinator.Roles

/-!
# The verdict of a run

The programs of the threads play the roles, so what the roles keep holds in
every state of a run. A satellite counts as finished only behind its own
acknowledgement, and once the wait of `run` ends, its result says whether all
of its tasks succeeded (`run_verdict`).
-/

namespace Actuator.Coordinator

open Actuator.Lib Actuator.Core Actuator.Parser Actuator.Executor

variable {D : Type} [CxxDouble D] (setting : Setting D)

/-! ## The programs of the roles -/

/-- The message brings the satellite its tasks, whatever the reader's local message held before. -/
structure CarriesBatch (satId : Str) (message : Message) : Prop where
  msgType : message.header.msgType = .batchTaskAssign
  named : satId ≠ []
  utf8 : ValidUtf8 satId
  payload : ∀ held, ∃ batch, parseBatchTaskAssignPayload setting.json held message.payload = some batch ∧
    ValidUtf8 batch.messageId ∧
    batch.scheduledTasks.map (taskAssignToSegment · satId) = tasksOf setting.schedule satId

/-- The message acknowledges the satellite's tasks with these outcomes. -/
structure CarriesAck (satId : Str) (outcomes : List Outcome) (message : Message) : Prop where
  msgType : message.header.msgType = .batchTaskAssignAck
  payload : ∃ ack, parseBatchTaskAssignAckPayload setting.json message.payload = some ack ∧
    Acknowledges setting.schedule satId outcomes message ack

/-- The handler does nothing that others see. -/
def Ignores (message : Message) : Handler → Prop
  | .coordinator => message.header.msgType ≠ .batchTaskAssignAck
  | .satellite _ => message.header.msgType ≠ .batchTaskAssign

/-- What the thread of a new role runs. -/
def Role.thread : Role → Thread D Unit
  | starting => pure ()
  | distributing _ => pure ()
  | batch satId message => handle setting.json setting.coordinatorId (.satellite satId) message
  | working _ _ _ => pure ()
  | acking _ _ message => handle setting.json setting.coordinatorId .coordinator message
  | passive handler message => handle setting.json setting.coordinatorId handler message
  | idle => pure ()

/-- The roles of new threads. -/
def Role.Startable : Role → Prop
  | starting => False
  | distributing _ => False
  | batch satId message => CarriesBatch setting satId message
  | working _ _ _ => False
  | acking satId outcomes message => CarriesAck setting satId outcomes message
  | passive handler message => Ignores message handler
  | idle => False

def protocol : Protocol (Action D) Action.Response Shared Role where
  thread := Role.thread setting
  startable := Role.Startable setting
  ok s := Handlers setting.coordinatorId s.comm.localHandlers
  step := RoleStep setting.schedule

/-- In its role, the piece of a thread returns with what `post` says. -/
abbrev Acts {α : Type} (x : Thread D α) (g : Role) (post : Role → α → Prop) : Prop :=
  (protocol setting).Follows (system setting) x g post

/-! ## Single actions -/

section Actions

variable {setting} {g : Role}

/-- An action that reads something from outside. -/
theorem acts_reading {action : Action D} {post : Role → action.Response → Prop}
    (reads : ∀ s r s' threads, performs setting action s r s' threads → s' = s ∧ threads = [])
    (started : g ≠ .starting) (working : action ≠ .awaitAcks) (ends : ∀ r, post g r) :
    Acts setting (perform action) g post := by
  apply Protocol.follows_perform
  intro s r s' threads _ acts
  obtain ⟨rfl, none⟩ := reads s r s' threads acts
  exact ⟨g, .quiet started working (same_refl _) (by simp), none, ends r⟩

/-- Nothing comes behind an exception. -/
theorem acts_throwing {payload : Except Str Str} {post : Role → Str → Prop}
    (ends : ∀ text, payload = .ok text → post g text) : Acts setting (throwing payload) g post := by
  cases payload with
  | ok text => exact ends text rfl
  | error what =>
    intro s r s' threads _ acts
    exact acts.elim

/-- A send is quiet unless a handler of the destination hears it. -/
theorem acts_sendMessage {dest : Str} {message : Message} {post : Role → Bool → Prop} (started : g ≠ .starting)
    (unheard : ∀ sent, post g sent)
    (heard : ∀ s s' handler outbound, Same s s' → InterSatComm.targetNode dest message ≠ [] →
      (handler = .satellite (InterSatComm.targetNode dest message) ∨
        handler = .coordinator ∧ InterSatComm.targetNode dest message = setting.coordinatorId) →
      InterSatComm.Outbound s.comm dest message outbound →
      ∃ g' role, RoleStep setting.schedule (.sendMessage dest message : Action D) s g s' g' [role] ∧ role.Startable setting ∧
        role.thread setting = handle setting.json setting.coordinatorId handler outbound ∧ post g' true) :
    Acts setting (perform (.sendMessage dest message)) g post := by
  intro s sent s' threads ok acts
  obtain ⟨now, pushedAt, state, result, begun⟩ := acts
  obtain ⟨handlers, detached⟩ := s.comm.sendMessage_detached now pushedAt dest message
  have same : Same s s' := by
    rw [state]
    exact ⟨handlers, rfl, rfl, rfl⟩
  have alone : threads = [] → ∃ g' new, RoleStep setting.schedule (.sendMessage dest message : Action D) s g s' g' new ∧
      (∀ role ∈ new, role.Startable setting) ∧ threads = new.map (Role.thread setting) ∧ post g' sent :=
    fun none => ⟨g, [], .quiet started (by simp) same (by simp), by simp, none, unheard sent⟩
  rcases outcome : (s.comm.sendMessage now pushedAt dest message).1 with _ | ⟨handler, outbound⟩ | _
  · rw [outcome] at begun
    exact alone begun
  · obtain ⟨found, completed⟩ := detached handler outbound outcome
    obtain ⟨named, known⟩ := ok _ _ found
    obtain ⟨g', role, step, startable, plays, ends⟩ := heard s s' handler outbound same named known completed
    rw [outcome] at begun result
    refine ⟨g', [role], step, List.forall_mem_singleton.2 startable, ?_, ?_⟩
    · rw [begun, List.map_singleton]
      exact congrArg (fun thread => [thread]) plays.symm
    · rw [result]
      exact ends
  · rw [outcome] at begun
    exact alone begun

end Actions

theorem tasksOf_utf8 {schedule : MultiSatSchedule} (wellFormed : schedule.WellFormed) {satId : Str} {task : TaskSegment}
    (mem : task ∈ tasksOf schedule satId) : TaskUtf8 task := by
  unfold tasksOf at mem
  cases found : schedule.satelliteTasks.find? satId with
  | none => simp [found] at mem
  | some tasks =>
    rw [found] at mem
    exact wellFormed.satelliteTasks satId tasks found task mem

/-! ## The satellite -/

section Satellite

variable {setting} {satId : Str} {outcomes : List Outcome} {batch : BatchTaskAssignMessage D}

/-- Progress and completion are reported without effect on the roles. -/
theorem acts_report {type : MessageType} {priority : Priority} {payload : Except Str Str} {g : Role}
    {post : Role → Unit → Prop} (started : g ≠ .starting) (ack : type ≠ .batchTaskAssignAck)
    (assign : type ≠ .batchTaskAssign) (ends : post g ()) :
    Acts setting (SatelliteSimulator.report { satelliteId := satId, coordinatorId := setting.coordinatorId }
      simulatorHost type priority payload) g post := by
  apply Protocol.Follows.bind
  apply acts_throwing
  intro text _
  apply Protocol.Follows.bind
  apply acts_reading (fun _ _ _ _ => id) started (by simp)
  intro stamp
  apply Protocol.Follows.bind
  apply acts_sendMessage started
  · exact fun _ => ends
  · intro s s' handler outbound same _ _ completed
    refine ⟨g, .passive handler outbound, .quiet started (by simp) same (by simp), ?_, rfl, ends⟩
    cases handler with
    | coordinator => exact fun heard => ack (completed.msgType.symm.trans heard)
    | satellite other => exact fun heard => assign (completed.msgType.symm.trans heard)

theorem acts_runTask {taskTotal : Int32} {st : BatchState} {taskMsg : TaskAssignMessage D} {rest : List TaskSegment}
    {post : Role → BatchState → Prop}
    (ends : ∀ taskOk, post (.working satId (outcomes ++ [(taskAssignToSegment taskMsg satId, taskOk)]) rest)
      (st.record taskMsg.taskId taskOk)) :
    Acts setting (SatelliteSimulator.runTask setting.json
        { satelliteId := satId, coordinatorId := setting.coordinatorId } simulatorHost taskTotal st taskMsg)
      (.working satId outcomes (taskAssignToSegment taskMsg satId :: rest)) post := by
  apply Protocol.Follows.bind
  apply acts_report (by simp) (by decide) (by decide)
  apply Protocol.Follows.bind
  apply Protocol.follows_perform
  intro s taskOk s' threads _ acts
  obtain ⟨rfl, none⟩ := acts
  refine ⟨_, .execute taskOk, none, ?_⟩
  apply Protocol.Follows.bind
  apply acts_report (by simp) (by decide) (by decide)
  exact ends taskOk

theorem acts_runTasks {taskTotal : Int32} {st : BatchState} {tasks : List (TaskAssignMessage D)}
    {post : Role → BatchState → Prop}
    (ends : ∀ more : List Outcome, more.map (·.1) = tasks.map (taskAssignToSegment · satId) →
      post (.working satId (outcomes ++ more) []) (st.recordAll (more.map fun o => (o.1.taskId, o.2)))) :
    Acts setting (SatelliteSimulator.runTasks setting.json
        { satelliteId := satId, coordinatorId := setting.coordinatorId } simulatorHost taskTotal st tasks)
      (.working satId outcomes (tasks.map (taskAssignToSegment · satId))) post := by
  induction tasks generalizing st outcomes with
  | nil =>
    have done := ends [] rfl
    rw [List.append_nil] at done
    exact done
  | cons taskMsg tasks ih =>
    apply Protocol.Follows.bind
    apply acts_runTask
    intro taskOk
    apply ih
    intro more executed
    have done := ends ((taskAssignToSegment taskMsg satId, taskOk) :: more) (congrArg _ executed)
    rw [List.append_cons] at done
    exact done

/-- The acknowledgement starts the coordinator's handler with a message that the handler can read. -/
theorem acts_sendAck {ack : BatchTaskAssignAck} (named : satId ≠ []) (utf8 : ack.Utf8)
    (acknowledges : ∀ message : Message, message.header.sourceNodeId = satId →
      Acknowledges setting.schedule satId outcomes message ack) :
    Acts setting (SatelliteSimulator.sendAck setting.json
        { satelliteId := satId, coordinatorId := setting.coordinatorId } simulatorHost ack)
      (.working satId outcomes []) fun _ _ => True := by
  apply Protocol.Follows.bind
  apply acts_throwing
  intro text dumped
  have parsed : parseBatchTaskAssignAckPayload setting.json text = some ack := by
    obtain ⟨payload, written, reads⟩ := parseBatchTaskAssignAckPayload_serialize setting.json utf8
    cases dumped.symm.trans written
    exact reads
  apply Protocol.Follows.bind
  apply acts_reading (fun _ _ _ _ => id) (by simp) (by simp)
  intro stamp
  apply Protocol.Follows.bind
  apply acts_sendMessage (by simp)
  · exact fun _ => trivial
  · intro s s' handler outbound same _ known completed
    rcases known with rfl | ⟨rfl, _⟩
    · refine ⟨_, .passive (.satellite _) outbound, .quiet (by simp) (by simp) same (by simp), ?_, rfl, trivial⟩
      apply ne_of_eq_of_ne completed.msgType
      show MessageType.batchTaskAssignAck ≠ .batchTaskAssign
      decide
    · have source : outbound.header.sourceNodeId = satId := by
        rw [completed.source]
        show (if satId.isEmpty then s.comm.config.nodeId else satId) = satId
        exact if_neg (by simpa using named)
      have payload : outbound.payload = text := completed.payload
      refine ⟨.idle, .acking satId outcomes outbound, .acknowledge same, ⟨completed.msgType, ack, ?_, ?_⟩, rfl, trivial⟩
      · rw [payload, parsed]
      · exact acknowledges outbound source

/-- The satellite executes the tasks of the batch and acknowledges them. -/
theorem acts_runBatch (wellFormed : setting.schedule.WellFormed) {timestamp : UInt64} (named : satId ≠ [])
    (utf8 : ValidUtf8 satId) (messageId : ValidUtf8 batch.messageId)
    (segments : batch.scheduledTasks.map (taskAssignToSegment · satId) = tasksOf setting.schedule satId) :
    Acts setting (SatelliteSimulator.runBatch setting.json
        { satelliteId := satId, coordinatorId := setting.coordinatorId } simulatorHost (initialAck satId timestamp) batch)
      (.working satId [] (tasksOf setting.schedule satId)) fun _ _ => True := by
  apply Protocol.Follows.bind
  rw [← segments]
  apply acts_runTasks
  intro outcomes executed
  rw [segments] at executed
  have ids : ∀ outcome ∈ outcomes.map fun o => (o.1.taskId, o.2), ValidUtf8 outcome.1 := by
    intro outcome mem
    obtain ⟨o, among, rfl⟩ := List.mem_map.1 mem
    have task : o.1 ∈ tasksOf setting.schedule satId := executed ▸ List.mem_map_of_mem among
    exact (tasksOf_utf8 wellFormed task).taskId
  have ready : BatchTaskAssignAck.Utf8 { initialAck satId timestamp with messageId := batch.messageId } :=
    ⟨messageId, utf8, utf8, by simp [initialAck], by simp [initialAck], by simp [Json.Utf8Map, initialAck]⟩
  have ack := BatchState.recordAll_utf8 (show ({ completed := 0, allSuccess := true, ack := _ } : BatchState).ack.Utf8
    from ready) ids
  apply acts_sendAck named
  · exact ⟨ack.messageId, ack.satelliteId, ack.nodeId, ack.acceptedTaskIds, ack.rejectedTaskIds, ack.rejectionReasons⟩
  · intro message source
    refine ⟨source, ?_, ?_, ?_, executed⟩
    · exact BatchState.recordAll_satelliteId _ _
    · apply (BatchState.recordAll_allSuccess _ _).trans
      rw [Bool.true_and, List.all_map]
      rfl
    · apply (BatchState.recordAll_length _ _).trans
      simp [initialAck]

/-- A batch is taken up with its first action. -/
theorem acts_batch (wellFormed : setting.schedule.WellFormed) {message : Message}
    (carries : CarriesBatch setting satId message) :
    Acts setting (handle setting.json setting.coordinatorId (.satellite satId) message) (.batch satId message)
      fun _ _ => True := by
  show Acts setting (SatelliteSimulator.handleMessage setting.json _ simulatorHost message) _ _
  unfold SatelliteSimulator.handleMessage
  rw [if_pos carries.msgType]
  apply Protocol.Follows.bind
  apply Protocol.follows_perform
  intro s timestamp s' threads _ acts
  obtain ⟨rfl, none⟩ := acts
  refine ⟨_, .begin, none, ?_⟩
  apply Protocol.Follows.bind
  apply acts_reading (fun _ _ _ _ => id) (by simp) (by simp)
  intro held
  obtain ⟨batch, parsed, messageId, segments⟩ := carries.payload held
  simp only [parsed]
  exact acts_runBatch wellFormed carries.named carries.utf8 messageId segments

end Satellite

/-! ## The coordinator -/

section Coordinator

variable {setting}

theorem acts_acking {satId : Str} {outcomes : List Outcome} {message : Message}
    (carries : CarriesAck setting satId outcomes message) :
    Acts setting (handle setting.json setting.coordinatorId .coordinator message) (.acking satId outcomes message)
      fun _ _ => True := by
  obtain ⟨ack, parsed, acknowledges⟩ := carries.payload
  show Acts setting (handleCoordinatorMessage setting.json message) _ _
  unfold handleCoordinatorMessage onCoordinatorBatchAck
  rw [if_pos carries.msgType]
  simp only [parsed]
  apply Protocol.follows_perform
  intro s _ s' threads _ acts
  obtain ⟨rfl, none⟩ := acts
  exact ⟨_, .record acknowledges, none, trivial⟩

theorem handle_ignored {handler : Handler} {message : Message} (ignores : Ignores message handler) :
    handle setting.json setting.coordinatorId handler message = pure () := by
  cases handler with
  | coordinator =>
    show handleCoordinatorMessage setting.json message = pure ()
    unfold handleCoordinatorMessage onCoordinatorTaskProgress onCoordinatorTaskComplete
    rw [if_neg ignores]
    split
    · split
      · rfl
      · rfl
    · split
      · split
        · rfl
        · rfl
      · rfl
  | satellite satId => exact if_neg ignores

theorem acts_passive {handler : Handler} {message : Message} (ignores : Ignores message handler) (g : Role) :
    Acts setting (handle setting.json setting.coordinatorId handler message) g fun _ _ => True := by
  rw [handle_ignored ignores]
  trivial

/-- The thread of a new role plays it. -/
theorem acts_startable (wellFormed : setting.schedule.WellFormed) {g : Role} (startable : g.Startable setting) :
    Acts setting (g.thread setting) g fun _ _ => True := by
  cases g with
  | starting => exact startable.elim
  | distributing remaining => exact startable.elim
  | batch satId message => exact acts_batch wellFormed startable
  | working satId outcomes remaining => exact startable.elim
  | acking satId outcomes message => exact acts_acking startable
  | passive handler message => exact acts_passive startable _
  | idle => exact startable.elim

/-- A batch message of `distributeTo` brings the satellite its tasks. -/
theorem carriesBatch_of_outbound (wellFormed : setting.schedule.WellFormed) {satId : Str} {node : SatelliteInfo}
    {tasks : List TaskSegment} (listed : satId ∈ setting.schedule.satelliteIds)
    (known : node ∈ setting.schedule.satellites) (found : setting.schedule.satelliteTasks.find? satId = some tasks)
    {round : Round D} {text : Str}
    (dumped : serializeBatchTaskAssign setting.json (batchFor round satId node tasks) = .ok text) (named : satId ≠ [])
    {message : Message} (msgType : message.header.msgType = .batchTaskAssign) (payload : message.payload = text) :
    CarriesBatch setting satId message := by
  refine ⟨msgType, named, wellFormed.satelliteIds satId listed, fun held => ?_⟩
  have utf8 := batchFor_utf8 wellFormed listed known found round
  obtain ⟨written, same, reads⟩ := parseBatchTaskAssignPayload_serialize setting.json held utf8
  cases dumped.symm.trans same
  rw [payload]
  refine ⟨_, reads, utf8.messageId, ?_⟩
  have segments := batchFor_segments round satId node (wellFormed.owners satId tasks found)
  unfold tasksOf BatchTaskAssignMessage.received
  rw [found, Option.getD_some, List.map_map]
  exact segments

/-- A round of the distribution gives away the token of its satellite or keeps it. -/
theorem acts_distributeTo (wellFormed : setting.schedule.WellFormed) {satId : Str} {rest remaining : List Str}
    (listed : satId ∈ setting.schedule.satelliteIds) (left : satId :: rest <:+ remaining) {round : Round D}
    {counts : Counts} {post : Role → Counts → Prop}
    (ends : ∀ counts' remaining', rest <:+ remaining' → post (.distributing remaining') counts') :
    Acts setting (distributeTo setting.json setting.coordinatorId coordinatorHost setting.schedule round satId counts)
      (.distributing remaining) post := by
  have kept : ∀ counts', post (.distributing remaining) counts' :=
    fun counts' => ends counts' remaining ((List.suffix_cons satId rest).trans left)
  unfold distributeTo
  cases found : setting.schedule.satelliteTasks.find? satId with
  | none => exact kept _
  | some tasks =>
    cases tasks with
    | nil => exact kept _
    | cons task tasks =>
      cases node : setting.schedule.satellites.find? fun info => info.satelliteId = satId with
      | none => exact kept _
      | some info =>
        apply Protocol.Follows.bind
        apply acts_throwing
        intro text dumped
        apply Protocol.Follows.bind
        apply acts_sendMessage (by simp)
        · exact fun _ => kept _
        · intro s s' handler outbound same named handled completed
          have target : InterSatComm.targetNode satId (batchMessage setting.coordinatorId round satId text) = satId :=
            ite_self satId
          rw [target] at named handled
          have msgType : outbound.header.msgType = .batchTaskAssign := completed.msgType
          rcases handled with rfl | ⟨rfl, _⟩
          · refine ⟨.distributing rest, .batch satId outbound, .dispatch same left listed ?_, ?_, rfl, ?_⟩
            · simp [tasksOf, found]
            · exact carriesBatch_of_outbound wellFormed listed (List.mem_of_find?_eq_some node) found dumped named
                msgType completed.payload
            · exact ends _ rest List.suffix_rfl
          · refine ⟨_, .passive .coordinator outbound, .quiet (by simp) (by simp) same (by simp), ?_, rfl, kept _⟩
            apply ne_of_eq_of_ne msgType
            decide

theorem acts_distributeFrom (wellFormed : setting.schedule.WellFormed) {satIds remaining : List Str}
    (listed : ∀ satId ∈ satIds, satId ∈ setting.schedule.satelliteIds) (left : satIds <:+ remaining) (n : Nat)
    {counts : Counts} {post : Role → Counts → Prop}
    (ends : ∀ counts' remaining', post (.distributing remaining') counts') :
    Acts setting (distributeFrom setting.json setting.coordinatorId coordinatorHost setting.schedule n satIds counts)
      (.distributing remaining) post := by
  induction satIds generalizing n counts remaining with
  | nil => exact ends counts remaining
  | cons satId satIds ih =>
    obtain ⟨first, later⟩ := List.forall_mem_cons.1 listed
    apply Protocol.Follows.bind
    apply acts_reading (fun _ _ _ _ => id) (by simp) (by simp)
    intro round
    apply Protocol.Follows.bind
    apply acts_distributeTo wellFormed first left
    intro counts' remaining' left'
    exact ih later left' (n + 1)

theorem acts_distributeAllTasks (wellFormed : setting.schedule.WellFormed) {post : Role → Bool → Prop}
    (ends : ∀ distributed remaining, post (.distributing remaining) distributed) :
    Acts setting (distributeAllTasks setting.json setting.coordinatorId coordinatorHost setting.schedule)
      (.distributing setting.schedule.satelliteIds) post := by
  apply Protocol.Follows.bind
  apply acts_distributeFrom wellFormed (fun _ => id) List.suffix_rfl
  exact fun counts remaining => ends _ remaining

/-- `run` waits in the role of the distributing thread. -/
theorem acts_run (wellFormed : setting.schedule.WellFormed) (inTime : setting.timesOut = false) :
    Acts setting (run setting.json setting.coordinatorId setting.schedule) .starting fun _ _ => True := by
  apply Protocol.Follows.bind
  apply Protocol.follows_perform
  intro s _ s' threads _ acts
  obtain ⟨rfl, none⟩ := acts
  refine ⟨_, .start, none, ?_⟩
  apply Protocol.Follows.bind
  apply acts_distributeAllTasks wellFormed
  intro distributed remaining
  apply Protocol.Follows.bind
  apply Protocol.follows_perform
  intro s finished s' threads _ acts
  obtain ⟨none, ⟨_, _, rfl⟩ | ⟨_, late, _⟩⟩ := acts
  · exact ⟨_, .wait, none, trivial⟩
  · rw [inTime] at late
    cases late

end Coordinator

/-! ## Runs -/

section Runs

variable {setting}

omit [CxxDouble D] in
theorem find?_registerLocalHandler {comm : InterSatComm Handler} {id other : Str} {handler registered : Handler}
    (found : (comm.registerLocalHandler id handler).localHandlers.find? other = some registered) :
    other = id ∧ id ≠ [] ∧ registered = handler ∨ comm.localHandlers.find? other = some registered := by
  unfold InterSatComm.registerLocalHandler at found
  split at found
  · exact .inr found
  · rename_i named
    change (comm.localHandlers.insert id handler).find? other = some registered at found
    rw [OrdMap.find?_insert] at found
    split at found
    · rename_i same
      cases found
      exact .inl ⟨same, by simpa using named, rfl⟩
    · exact .inr found

omit [CxxDouble D] in
/-- Where there was no handler, the registered ones are those of satellites of the schedule and the coordinator's. -/
theorem find?_registerLocalMessageHandlers {comm : InterSatComm Handler} (none : comm.localHandlers = OrdMap.empty)
    {id : Str} {handler : Handler}
    (found : (registerLocalMessageHandlers setting comm).localHandlers.find? id = some handler) :
    id ≠ [] ∧ (handler = .satellite id ∧ id ∈ setting.schedule.satelliteIds ∨
      handler = .coordinator ∧ id = setting.coordinatorId) := by
  unfold registerLocalMessageHandlers at found
  refine List.foldlRecOn (motive := fun comm : InterSatComm Handler => ∀ {id handler},
    comm.localHandlers.find? id = some handler → id ≠ [] ∧ (handler = .satellite id ∧
      id ∈ setting.schedule.satelliteIds ∨ handler = .coordinator ∧ id = setting.coordinatorId))
    setting.schedule.satelliteIds _ ?_ ?_ found
  · intro other registered found
    rcases find?_registerLocalHandler found with ⟨rfl, named, rfl⟩ | before
    · exact ⟨named, .inr ⟨rfl, rfl⟩⟩
    · rw [none] at before
      cases before
  · intro comm held satId listed other registered found
    split at found
    · rcases find?_registerLocalHandler found with ⟨rfl, named, rfl⟩ | before
      · exact ⟨named, .inl ⟨rfl, listed⟩⟩
      · exact held before
    · exact held found

omit [CxxDouble D] in
theorem handlers_registerLocalMessageHandlers {comm : InterSatComm Handler} (none : comm.localHandlers = OrdMap.empty) :
    Handlers setting.coordinatorId (registerLocalMessageHandlers setting comm).localHandlers := by
  intro id handler found
  obtain ⟨named, own⟩ := find?_registerLocalMessageHandlers none found
  exact ⟨named, own.imp_left And.left⟩

theorem plays_initialPool (wellFormed : setting.schedule.WellFormed) (inTime : setting.timesOut = false)
    (comm : InterSatComm Handler) :
    Protocol.Plays (system setting) (protocol setting) (Inv setting.schedule setting.coordinatorId)
      (initialPool setting comm) [.starting] := by
  refine ⟨⟨handlers_registerLocalMessageHandlers rfl, ?_, fun satId => ?_, ?_⟩,
    .cons (acts_run wellFormed inTime) .nil⟩
  · exact List.forall_mem_singleton.2 fun satId => rfl
  · exact le_refl 1
  · intro satId finished
    cases finished

/-- The threads of every state that is reached play roles with the invariant. -/
theorem plays_of_reaches (wellFormed : setting.schedule.WellFormed) (distinct : setting.schedule.satelliteIds.Nodup)
    (inTime : setting.timesOut = false) {comm : InterSatComm Handler}
    {pool : Pool (Action D) Action.Response Shared}
    (reaches : (system setting).Reaches (initialPool setting comm) pool) :
    ∃ roles, Protocol.Plays (system setting) (protocol setting) (Inv setting.schedule setting.coordinatorId) pool
      roles := by
  apply Protocol.reaches_inv _ _ _ ⟨_, plays_initialPool wellFormed inTime comm⟩ reaches
  · exact fun g => acts_startable wellFormed
  · exact fun s roles inv => inv.handlers
  · exact fun action s g s' g' before after new inv step _ => keeps_inv distinct inv step

/-- A satellite is finished only behind its own acknowledgement, and when the wait of `run` ends, a satellite with tasks
has a positive result if and only if each of its tasks was executed with success. -/
theorem run_verdict (setting : Setting D) (wellFormed : setting.schedule.WellFormed)
    (distinct : setting.schedule.satelliteIds.Nodup) (inTime : setting.timesOut = false) (comm : InterSatComm Handler)
    {pool : Pool (Action D) Action.Response Shared}
    (reaches : (system setting).Reaches (initialPool setting comm) pool) :
    (∀ satId, pool.shared.tracking.finished.find? satId = some true → ∃ message ack, (message, ack) ∈ pool.shared.acks ∧
      message.header.sourceNodeId = satId ∧ ack.satelliteId = satId) ∧
    ∀ next, .act .awaitAcks next ∈ pool.threads → pool.shared.tracking.allFinished = true →
      ∀ satId ∈ setting.schedule.satelliteIds, tasksOf setting.schedule satId ≠ [] →
        (callsOf pool.shared satId).map Prod.fst = tasksOf setting.schedule satId ∧
          (pool.shared.tracking.results.find? satId = some true ↔
            ∀ outcome ∈ callsOf pool.shared satId, outcome.2 = true) := by
  obtain ⟨roles, plays⟩ := plays_of_reaches wellFormed distinct inTime reaches
  have inv := plays.1
  refine ⟨fun satId finished => (inv.settled satId finished).acknowledged, ?_⟩
  intro next waiting all satId listed busy
  obtain ⟨g, among, follows⟩ := plays.role waiting
  obtain ⟨g', new, step, _⟩ := follows _ true _ [] inv.handlers ⟨rfl, .inl ⟨rfl, all, rfl⟩⟩
  cases step with
  | wait =>
    obtain ⟨tracked, _⟩ := inv.valid _ among
    have finished := Tracking.finished_of_allFinished all (tracked satId listed busy).2
    obtain ⟨result, tasks, _⟩ := inv.settled satId finished
    refine ⟨tasks, ?_⟩
    rw [result, Option.some_inj, List.all_eq_true]
  | quiet _ working => exact absurd rfl working

end Runs

/-! ## A run with two satellites -/

/-- One outcome of each action, where the clock stands still. -/
def outcome (round : Round D) (taskOk : TaskSegment → Bool) :
    (a : Action D) → Shared → Option (a.Response × Shared × List (Thread D Unit))
  | .now, s => some (0, s, [])
  | .stamp, s => some ({ now := 0, header := {} }, s, [])
  | .held, s => some (round.held 0, s, [])
  | .round, s => some (round, s, [])
  | .sendMessage dest message, s =>
    let sending := s.comm.sendMessage 0 0 dest message
    some (sending.1.sent, { s with comm := sending.2 }, sending.1.started (handle setting.json setting.coordinatorId))
  | .executeSingleTask satId task, s =>
    some (taskOk task, { s with calls := s.calls ++ [{ satId, task, taskOk := taskOk task }] }, [])
  | .startTracking, s => some ((), { s with tracking := .start setting.schedule }, [])
  | .recordAck message ack, s =>
    some ((), { s with tracking := s.tracking.recordAck ack, acks := s.acks ++ [(message, ack)] }, [])
  | .awaitAcks, s => if s.tracking.allFinished then some (true, s, []) else none
  | .terminate _, _ => none

theorem outcome_sound (round : Round D) (taskOk : TaskSegment → Bool) (a : Action D) (s : Shared)
    (out : a.Response × Shared × List (Thread D Unit)) (known : outcome setting round taskOk a s = some out) :
    (system setting).performs a s out.1 out.2.1 out.2.2 := by
  cases a with
  | awaitAcks =>
    change (if s.tracking.allFinished then some (true, s, []) else none) = some out at known
    split at known
    · rename_i all
      cases known
      exact ⟨rfl, .inl ⟨rfl, all, rfl⟩⟩
    · cases known
  | sendMessage dest message =>
    cases known
    exact ⟨0, 0, rfl, rfl, rfl⟩
  | terminate what => cases known
  | _ =>
    cases known
    exact ⟨rfl, rfl⟩

/-- The thread waits for the acknowledgements. -/
def waiting (thread : Thread D Unit) : Bool :=
  match thread with
  | .act .awaitAcks _ => true
  | _ => false

def sampleSetting : Setting FixedPoint where
  json := JsonText.library
  coordinatorId := lit "COORD"
  schedule := parseAllSatellites JsonText.library (some (JsonText.print distinctSchedule))
  simulators _ := true
  timesOut := false

def sampleComm : InterSatComm Handler where
  config := { nodeId := lit "COORD" }
  nodes := OrdMap.empty
  localHandlers := OrdMap.empty
  sendQueue := { maxSize := 100 }
  sequenceId := 1

/-- The batches are sent first, the satellites alternate, and the acknowledgement of the second comes before that of
the first. -/
def sampleOrder : List Nat := [0, 0, 0, 0, 0, 1, 2, 1, 2, 1, 2, 1, 2, 1, 2, 1, 2, 1, 2, 1, 2, 1, 2, 8, 7]

/-- The task of the second satellite fails. -/
def samplePool : Option (Pool (Action FixedPoint) Action.Response Shared) :=
  Machine.turns (outcome sampleSetting sampleRound fun task => task.taskId = lit "T1")
    (initialPool sampleSetting sampleComm) sampleOrder

omit [CxxDouble D] in
theorem waiting_iff {thread : Thread D Unit} : waiting thread = true ↔ ∃ next, thread = .act .awaitAcks next := by
  constructor
  · intro waits
    unfold waiting at waits
    split at waits
    · exact ⟨_, rfl⟩
    · cases waits
  · intro waits
    obtain ⟨next, rfl⟩ := waits
    rfl

theorem samplePool_ended : samplePool.any (fun pool => pool.threads.any waiting && pool.shared.tracking.allFinished &&
    pool.shared.tracking.results.find? (lit "S1") == some true &&
    pool.shared.tracking.results.find? (lit "S2") == some false) = true := by decide +kernel

theorem sampleSetting_wellFormed : sampleSetting.schedule.WellFormed := by
  dsimp only [sampleSetting]
  exact parseAllSatellites_wellFormed JsonText.library (some (JsonText.print distinctSchedule))

theorem run_verdict_sample : ∃ pool, (system sampleSetting).Reaches (initialPool sampleSetting sampleComm) pool ∧
    (∃ next, .act .awaitAcks next ∈ pool.threads) ∧ pool.shared.tracking.allFinished = true ∧
    (∀ outcome ∈ callsOf pool.shared (lit "S1"), outcome.2 = true) ∧
    ¬∀ outcome ∈ callsOf pool.shared (lit "S2"), outcome.2 = true := by
  obtain ⟨pool, reached, ended⟩ := (Option.any_eq_true _ _).1 samplePool_ended
  simp only [Bool.and_eq_true, List.any_eq_true, beq_iff_eq] at ended
  obtain ⟨⟨⟨⟨thread, mem, waits⟩, all⟩, first⟩, second⟩ := ended
  obtain ⟨next, rfl⟩ := waiting_iff.1 waits
  have reaches := Machine.reaches_of_turns (outcome_sound sampleSetting sampleRound _) reached
  have distinct : sampleSetting.schedule.satelliteIds.Nodup := by decide +kernel
  obtain ⟨_, verdict⟩ := run_verdict sampleSetting sampleSetting_wellFormed distinct rfl sampleComm reaches
  have one := verdict next mem all (lit "S1") (by decide +kernel) (by decide +kernel)
  have two := verdict next mem all (lit "S2") (by decide +kernel) (by decide +kernel)
  refine ⟨pool, reaches, ⟨next, mem⟩, all, one.2.1 first, fun succeeded => ?_⟩
  rw [two.2.2 succeeded] at second
  cases second

end Actuator.Coordinator
