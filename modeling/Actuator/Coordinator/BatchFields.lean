import Actuator.Coordinator.TaskMessageRoundTrip
import Actuator.Lib.JsonText

/-!
# The fields of a batch

The encoder of the coordinator writes the target, the resources and the
constraints of every task. The decoder of the satellite reads none of them, so
a batch comes through whole only when it has no task
(`parseBatchTaskAssignPayload_recovers_iff`).
-/

namespace Actuator.Coordinator

open Actuator.Lib

variable {D : Type}

/-- The received task has everything that is written of the task. -/
structure TaskAssignMessage.Recovers (task received : TaskAssignMessage D) : Prop where
  segmentId : received.segmentId = task.segmentId
  taskId : received.taskId = task.taskId
  taskName : received.taskName = task.taskName
  profit : received.profit = task.profit
  target : received.target = task.target
  behaviorRef : received.behaviorRef = task.behaviorRef
  behaviorParams : received.behaviorParams = task.behaviorParams
  resourceRequirements : received.resourceRequirements = task.resourceRequirements
  constraints : received.constraints = task.constraints

/-- The received batch has everything that is written of the batch, with the tasks in order. -/
structure BatchTaskAssignMessage.Recovers (msg received : BatchTaskAssignMessage D) : Prop where
  messageId : received.messageId = msg.messageId
  satelliteId : received.satelliteId = msg.satelliteId
  nodeId : received.nodeId = msg.nodeId
  planId : received.planId = msg.planId
  timestamp : received.timestamp = msg.timestamp
  requireAck : received.requireAck = msg.requireAck
  ackTimeoutMs : received.ackTimeoutMs = msg.ackTimeoutMs
  scheduledTasks : List.Forall₂ TaskAssignMessage.Recovers msg.scheduledTasks received.scheduledTasks

theorem BatchTaskAssignMessage.recovers_received {msg : BatchTaskAssignMessage D} (none : msg.scheduledTasks = [])
    (held : Indeterminate D) : msg.Recovers (msg.received held) := by
  refine ⟨rfl, rfl, rfl, rfl, rfl, rfl, rfl, ?_⟩
  unfold BatchTaskAssignMessage.received
  rw [none]
  exact .nil

/-- With a task there is something that the local task can hold instead of its target. -/
theorem BatchTaskAssignMessage.not_recovers_received [Nontrivial D] {msg : BatchTaskAssignMessage D}
    {task : TaskAssignMessage D} {tasks : List (TaskAssignMessage D)} (some : msg.scheduledTasks = task :: tasks) :
    ∃ held, ¬msg.Recovers (msg.received held) := by
  obtain ⟨other, different⟩ := exists_ne task.target.latitudeDeg
  refine ⟨{ priority := ⟨0⟩, profit := 0, latitudeDeg := other, longitudeDeg := other }, fun recovers => ?_⟩
  have each := recovers.scheduledTasks
  unfold BatchTaskAssignMessage.received at each
  rw [some] at each
  cases each with
  | cons first _ => exact different (congrArg TaskTarget.latitudeDeg first.target)

section Recovery

variable [CxxDouble D] (json : JsonLibrary D)

/-- A batch of valid texts comes through whole, whatever the decoder's local task happens to hold, if and only if it has
no task. -/
theorem parseBatchTaskAssignPayload_recovers_iff [Nontrivial D] {msg : BatchTaskAssignMessage D} (utf8 : msg.Utf8) :
    (∃ payload, serializeBatchTaskAssign json msg = .ok payload ∧
      ∀ held, ∃ received, parseBatchTaskAssignPayload json held payload = some received ∧ msg.Recovers received) ↔
    msg.scheduledTasks = [] := by
  constructor
  · intro whole
    obtain ⟨payload, dumped, parses⟩ := whole
    cases tasks : msg.scheduledTasks with
    | nil => rfl
    | cons task rest =>
      obtain ⟨held, lost⟩ := BatchTaskAssignMessage.not_recovers_received tasks
      obtain ⟨received, parsed, recovers⟩ := parses held
      obtain ⟨payload', dumped', parsed'⟩ := parseBatchTaskAssignPayload_serialize json held utf8
      cases dumped.symm.trans dumped'
      cases parsed.symm.trans parsed'
      exact absurd recovers lost
  · intro none
    obtain ⟨payload, dumped, _⟩ := json.parse_dump msg.toJson (BatchTaskAssignMessage.printable utf8)
    refine ⟨payload, dumped, fun held => ?_⟩
    obtain ⟨payload', dumped', parsed⟩ := parseBatchTaskAssignPayload_serialize json held utf8
    cases dumped.symm.trans dumped'
    exact ⟨_, parsed, BatchTaskAssignMessage.recovers_received none held⟩

end Recovery

/-! ## A task with resources and constraints -/

def constrainedTask : TaskAssignMessage FixedPoint where
  segmentId := lit "SEG_1"
  taskId := lit "T1"
  taskName := lit "T1"
  priority := .normal
  profit := 7
  target := { latitudeDeg := ⟨30⟩, longitudeDeg := ⟨120⟩ }
  behaviorRef := lit "Main"
  behaviorParams := OrdMap.empty
  resourceRequirements := [{ resourceId := lit "CAMERA", usageType := lit "EXCLUSIVE", acquireAt := lit "START"
                             holdDurationS := 10 }]
  constraints := { staticConstraints := [{ name := lit "window", hard := true, deadline := lit "2025-01-01" }] }

def constrainedBatch (tasks : List (TaskAssignMessage FixedPoint)) : BatchTaskAssignMessage FixedPoint where
  messageId := lit "BATCH_S1_1000"
  satelliteId := lit "S1"
  nodeId := lit "S1"
  planId := []
  timestamp := 1000
  scheduledTasks := tasks
  requireAck := true
  ackTimeoutMs := 60000

theorem constrainedTask_utf8 : constrainedTask.Utf8 where
  segmentId := validUtf8_lit _
  taskId := validUtf8_lit _
  taskName := validUtf8_lit _
  behaviorRef := validUtf8_lit _
  behaviorParams := by simp [Json.Utf8Map, constrainedTask]
  resourceRequirements := by simp [constrainedTask]
  staticConstraints := by simp [constrainedTask]
  dynamicConstraints := by simp [constrainedTask]

theorem constrainedBatch_utf8 {tasks : List (TaskAssignMessage FixedPoint)} (all : ∀ task ∈ tasks, task.Utf8) :
    (constrainedBatch tasks).Utf8 :=
  ⟨validUtf8_lit _, validUtf8_lit _, validUtf8_lit _, validUtf8_nil, all⟩

instance fixedPointNontrivial : Nontrivial FixedPoint := ⟨⟨0⟩, ⟨1⟩, by decide⟩

theorem parseBatchTaskAssignPayload_recovers_iff_sample : ∃ payload,
    serializeBatchTaskAssign JsonText.library (constrainedBatch []) = .ok payload ∧
      ∀ held, ∃ received, parseBatchTaskAssignPayload JsonText.library held payload = some received ∧
        (constrainedBatch []).Recovers received :=
  (parseBatchTaskAssignPayload_recovers_iff JsonText.library (constrainedBatch_utf8 (by simp))).2 rfl

/-- The satellite sees neither the resource nor the constraint nor the target of the task. -/
theorem parseBatchTaskAssignPayload_drops : ∃ payload,
    serializeBatchTaskAssign JsonText.library (constrainedBatch [constrainedTask]) = .ok payload ∧
      ∀ held, ∃ received, parseBatchTaskAssignPayload JsonText.library held payload = some received ∧
        received.scheduledTasks.map (·.resourceRequirements) = [[]] ∧
        received.scheduledTasks.map (·.constraints) = [{}] ∧
        received.scheduledTasks.map (·.target.latitudeDeg) = [held.latitudeDeg] ∧
        ¬(constrainedBatch [constrainedTask]).Recovers received := by
  have utf8 : (constrainedBatch [constrainedTask]).Utf8 :=
    constrainedBatch_utf8 (List.forall_mem_singleton.2 constrainedTask_utf8)
  obtain ⟨payload, dumped, _⟩ := JsonText.library.parse_dump _ (BatchTaskAssignMessage.printable utf8)
  refine ⟨payload, dumped, fun held => ?_⟩
  obtain ⟨payload', dumped', parsed⟩ := parseBatchTaskAssignPayload_serialize JsonText.library held utf8
  cases dumped.symm.trans dumped'
  refine ⟨_, parsed, rfl, rfl, rfl, fun recovers => ?_⟩
  cases recovers.scheduledTasks with
  | cons first _ => cases first.resourceRequirements

end Actuator.Coordinator
