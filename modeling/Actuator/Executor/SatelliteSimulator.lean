import Actuator.Coordinator.TaskMessageRoundTrip

/-!
# The satellite simulator

`SatelliteSimulator::handleMessage`: a batch of tasks is executed one after the
other, with a report before and behind each, and acknowledged at the end. The
handler is written over any monad that offers what it uses of the rest of the
program.
-/

namespace Actuator.Executor

open Actuator.Lib Actuator.Core Actuator.Coordinator

variable {D : Type}

structure SatelliteSimulatorConfig where
  satelliteId : Str
  coordinatorId : Str

/-- What `buildMessage` reads: the clock, and what its local message holds before anything is assigned to it. -/
structure Stamp where
  now : UInt64
  header : MessageHeader

def buildMessage (stamp : Stamp) (type : MessageType) (source dest : Str) (priority : Priority) (payload : Str) :
    Message where
  header := { stamp.header with
    magic := MessageHeader.magicNumber
    version := MessageHeader.protocolVersion
    msgType := type
    sourceNodeId := source
    destNodeId := dest
    priority
    timestampMs := stamp.now
    payloadSize := UInt32.ofNat payload.length
    checksum := 0 }
  payload

/-- What the handler uses: the clock, indeterminate members, exceptions, the communication module and the executor. -/
structure SimulatorHost (m : Type → Type) (D : Type) where
  now : m UInt64
  stamp : m Stamp
  held : m (Indeterminate D)
  throwing : Except Str Str → m Str
  sendMessage : Str → Message → m Bool
  executeSingleTask : Str → TaskSegment → m Bool

/-- The variables of the loop over the tasks. -/
structure BatchState where
  completed : Int32
  allSuccess : Bool
  ack : BatchTaskAssignAck

/-- What a task's outcome adds to the acknowledgement. -/
def BatchState.record (st : BatchState) (taskId : Str) (taskOk : Bool) : BatchState where
  completed := st.completed + 1
  allSuccess := st.allSuccess && taskOk
  ack :=
    if taskOk then { st.ack with acceptedTaskIds := st.ack.acceptedTaskIds ++ [taskId] }
    else { st.ack with
      rejectedTaskIds := st.ack.rejectedTaskIds ++ [taskId]
      rejectionReasons := st.ack.rejectionReasons.insert taskId (lit "task execution failed") }

/-- `static_cast<uint8_t>((completed * 100) / std::max(1, task_total))`. -/
def progressPercent (completed taskTotal : Int32) : UInt8 :=
  (completed * 100 / if 1 < taskTotal then taskTotal else 1).toUInt32.toUInt8

def runningProgress (task : TaskSegment) (completed taskTotal : Int32) : TaskProgressMessage where
  segmentId := task.segmentId
  taskId := task.taskId
  status := .running
  progressPercent := progressPercent completed taskTotal
  currentAction := lit "execute_task"
  message := lit "task started"

def taskComplete (task : TaskSegment) (taskOk : Bool) : TaskCompleteMessage where
  segmentId := task.segmentId
  taskId := task.taskId
  success := taskOk
  actualStart := []
  actualEnd := []
  actualProfit := 0
  resultSummary := lit (if taskOk then "task completed" else "task failed")

/-- The acknowledgement before the payload was read. -/
def initialAck (satelliteId : Str) (timestamp : UInt64) : BatchTaskAssignAck where
  messageId := []
  satelliteId
  nodeId := satelliteId
  timestamp
  accepted := false

namespace SatelliteSimulator

variable {m : Type → Type} [Monad m] (json : JsonLibrary D) (config : SatelliteSimulatorConfig)
  (host : SimulatorHost m D)

/-- A message to the coordinator. -/
def report (type : MessageType) (priority : Priority) (payload : Except Str Str) : m Unit := do
  let payload ← host.throwing payload
  let stamp ← host.stamp
  let _sent ← host.sendMessage config.coordinatorId
    (buildMessage stamp type config.satelliteId config.coordinatorId priority payload)
  return

/-- One round of the loop over the tasks. -/
def runTask (taskTotal : Int32) (st : BatchState) (taskMsg : TaskAssignMessage D) : m BatchState := do
  let task := taskAssignToSegment taskMsg config.satelliteId
  report config host .taskProgress .normal
    (serializeTaskProgressPayload json (runningProgress task st.completed taskTotal))
  let taskOk ← host.executeSingleTask config.satelliteId task
  report config host .taskComplete (if taskOk then .normal else .urgent)
    (serializeTaskCompletePayload json (taskComplete task taskOk))
  return st.record task.taskId taskOk

def runTasks (taskTotal : Int32) : BatchState → List (TaskAssignMessage D) → m BatchState
  | st, [] => pure st
  | st, taskMsg :: tasks => do
    let st ← runTask json config host taskTotal st taskMsg
    runTasks taskTotal st tasks

def sendAck (ack : BatchTaskAssignAck) : m Unit :=
  report config host .batchTaskAssignAck .normal (serializeBatchTaskAssignAckPayload json ack)

/-- A batch whose payload was read. -/
def runBatch (ack : BatchTaskAssignAck) (batch : BatchTaskAssignMessage D) : m Unit := do
  let st ← runTasks json config host (Int32.ofNat batch.scheduledTasks.length)
    { completed := 0, allSuccess := true, ack := { ack with messageId := batch.messageId } } batch.scheduledTasks
  sendAck json config host { st.ack with accepted := st.allSuccess }

variable [CxxDouble D]

def handleBatchTaskAssign (message : Message) : m Unit := do
  let timestamp ← host.now
  let held ← host.held
  let ack := initialAck config.satelliteId timestamp
  match parseBatchTaskAssignPayload json held message.payload with
  | none =>
    sendAck json config host
      { ack with rejectionReasons := ack.rejectionReasons.insert (lit "payload") (lit "invalid batch task payload") }
  | some batch => runBatch json config host ack batch

def handleMessage (message : Message) : m Unit :=
  if message.header.msgType = .batchTaskAssign then handleBatchTaskAssign json config host message else pure ()

end SatelliteSimulator

/-! ## The acknowledgement of a batch -/

/-- The loop state behind a list of task ids with their outcomes. -/
def BatchState.recordAll (st : BatchState) (outcomes : List (Str × Bool)) : BatchState :=
  outcomes.foldl (fun st outcome => st.record outcome.1 outcome.2) st

theorem BatchState.recordAll_satelliteId (st : BatchState) (outcomes : List (Str × Bool)) :
    (st.recordAll outcomes).ack.satelliteId = st.ack.satelliteId := by
  induction outcomes generalizing st with
  | nil => rfl
  | cons outcome outcomes ih =>
    apply (ih (st.record outcome.1 outcome.2)).trans
    unfold record
    split
    · rfl
    · rfl

theorem BatchState.recordAll_allSuccess (st : BatchState) (outcomes : List (Str × Bool)) :
    (st.recordAll outcomes).allSuccess = (st.allSuccess && outcomes.all (·.2)) := by
  induction outcomes generalizing st with
  | nil => simp [recordAll]
  | cons outcome outcomes ih =>
    show (BatchState.recordAll (st.record outcome.1 outcome.2) outcomes).allSuccess = _
    rw [ih]
    simp [record, Bool.and_assoc]

/-- Each task is either accepted or rejected. -/
theorem BatchState.recordAll_length (st : BatchState) (outcomes : List (Str × Bool)) :
    (st.recordAll outcomes).ack.acceptedTaskIds.length + (st.recordAll outcomes).ack.rejectedTaskIds.length =
      st.ack.acceptedTaskIds.length + st.ack.rejectedTaskIds.length + outcomes.length := by
  induction outcomes generalizing st with
  | nil => rfl
  | cons outcome outcomes ih =>
    show (BatchState.recordAll (st.record outcome.1 outcome.2) outcomes).ack.acceptedTaskIds.length +
      (BatchState.recordAll (st.record outcome.1 outcome.2) outcomes).ack.rejectedTaskIds.length = _
    rw [ih, List.length_cons]
    unfold record
    split
    · simp
      omega
    · simp
      omega

theorem BatchState.record_utf8 {st : BatchState} {taskId : Str} (utf8 : st.ack.Utf8) (id : ValidUtf8 taskId)
    (taskOk : Bool) : (st.record taskId taskOk).ack.Utf8 := by
  have added : ∀ {ids : List Str}, (∀ other ∈ ids, ValidUtf8 other) → ∀ other ∈ ids ++ [taskId], ValidUtf8 other := by
    intro ids all
    exact List.forall_mem_append.2 ⟨all, List.forall_mem_singleton.2 id⟩
  unfold record
  cases taskOk with
  | true => exact { utf8 with acceptedTaskIds := added utf8.acceptedTaskIds }
  | false =>
    exact { utf8 with
      rejectedTaskIds := added utf8.rejectedTaskIds
      rejectionReasons := utf8.rejectionReasons.insert id (validUtf8_lit _) }

theorem BatchState.recordAll_utf8 {st : BatchState} {outcomes : List (Str × Bool)} (utf8 : st.ack.Utf8)
    (ids : ∀ outcome ∈ outcomes, ValidUtf8 outcome.1) : (st.recordAll outcomes).ack.Utf8 := by
  induction outcomes generalizing st with
  | nil => exact utf8
  | cons outcome outcomes ih =>
    obtain ⟨id, later⟩ := List.forall_mem_cons.1 ids
    exact ih (BatchState.record_utf8 utf8 id outcome.2) later

end Actuator.Executor
