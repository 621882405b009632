import Actuator.Coordinator.MessageTypes
import Actuator.Core.Types
import Actuator.Lib.Json

/-!
# Task messages

The payloads that the coordinator and the satellites exchange about tasks, with
the encoder of the one side and the decoder of the other. They are JSON
documents in text form.
-/

namespace Actuator.Coordinator

open Actuator.Lib Actuator.Core

variable {D : Type}

structure TaskTarget (D : Type) where
  latitudeDeg : D
  longitudeDeg : D

structure ResourceRequirement where
  resourceId : Str
  usageType : Str
  acquireAt : Str
  holdDurationS : Int32

structure TaskStaticConstraint where
  name : Str
  hard : Bool
  deadline : Str

structure TaskDynamicConstraint where
  name : Str
  hard : Bool

structure TaskConstraints where
  staticConstraints : List TaskStaticConstraint := []
  dynamicConstraints : List TaskDynamicConstraint := []

structure TaskAssignMessage (D : Type) where
  segmentId : Str
  taskId : Str
  taskName : Str
  priority : Priority
  profit : Int32
  target : TaskTarget D
  behaviorRef : Str
  behaviorParams : OrdMap Str Str
  resourceRequirements : List ResourceRequirement
  constraints : TaskConstraints

/-- What the plain members of a local `TaskAssignMessage` hold before anything is assigned to them. -/
structure Indeterminate (D : Type) where
  priority : Priority
  profit : Int32
  latitudeDeg : D
  longitudeDeg : D

/-- A `TaskAssignMessage` as declared: strings and containers are empty, the other members indeterminate. -/
def TaskAssignMessage.declared (held : Indeterminate D) : TaskAssignMessage D where
  segmentId := []
  taskId := []
  taskName := []
  priority := held.priority
  profit := held.profit
  target := { latitudeDeg := held.latitudeDeg, longitudeDeg := held.longitudeDeg }
  behaviorRef := []
  behaviorParams := OrdMap.empty
  resourceRequirements := []
  constraints := {}

structure BatchTaskAssignMessage (D : Type) where
  messageId : Str
  satelliteId : Str
  nodeId : Str
  planId : Str
  timestamp : UInt64
  scheduledTasks : List (TaskAssignMessage D)
  requireAck : Bool
  ackTimeoutMs : UInt64

structure BatchTaskAssignAck where
  messageId : Str
  satelliteId : Str
  nodeId : Str
  timestamp : UInt64
  accepted : Bool
  acceptedTaskIds : List Str := []
  rejectedTaskIds : List Str := []
  rejectionReasons : OrdMap Str Str := OrdMap.empty

/-- `enum class TaskStatus : uint8_t`. -/
structure TaskStatus where
  raw : UInt8

/-- `TaskStatus::RUNNING`. -/
def TaskStatus.running : TaskStatus := ⟨2⟩

structure TaskProgressMessage where
  segmentId : Str
  taskId : Str
  status : TaskStatus
  progressPercent : UInt8
  currentAction : Str
  message : Str
  outputVars : OrdMap Str Str := OrdMap.empty

structure TaskCompleteMessage where
  segmentId : Str
  taskId : Str
  success : Bool
  actualStart : Str
  actualEnd : Str
  actualProfit : Int32
  resultSummary : Str
  outputData : OrdMap Str Str := OrdMap.empty

/-! ## Encoders -/

namespace ResourceRequirement

def toJson (res : ResourceRequirement) : Json D := .ofMembers [
  (lit "resource_id", .string res.resourceId), (lit "usage_type", .string res.usageType),
  (lit "acquire_at", .string res.acquireAt), (lit "hold_duration_s", .int res.holdDurationS.toInt)]

end ResourceRequirement

namespace TaskConstraints

def staticToJson (sc : TaskStaticConstraint) : Json D := .ofMembers ([
  (lit "name", .string sc.name), (lit "hard", .bool sc.hard)] ++
  if sc.deadline.isEmpty then [] else [(lit "deadline", .string sc.deadline)])

def dynamicToJson (dc : TaskDynamicConstraint) : Json D := .ofMembers [
  (lit "name", .string dc.name), (lit "hard", .bool dc.hard)]

/-- The member `constraints`, which is left out when there are none. -/
def members (constraints : TaskConstraints) : List (Str × Json D) :=
  if constraints.staticConstraints.isEmpty ∧ constraints.dynamicConstraints.isEmpty then []
  else [(lit "constraints", .ofMembers [
    (lit "static", .array (constraints.staticConstraints.map staticToJson)),
    (lit "dynamic", .array (constraints.dynamicConstraints.map dynamicToJson))])]

end TaskConstraints

def TaskAssignMessage.members (task : TaskAssignMessage D) : List (Str × Json D) := [
  (lit "segment_id", .string task.segmentId), (lit "task_id", .string task.taskId),
  (lit "task_name", .string task.taskName), (lit "profit", .int task.profit.toInt),
  (lit "target", .ofMembers [
    (lit "latitude_deg", .float task.target.latitudeDeg), (lit "longitude_deg", .float task.target.longitudeDeg)]),
  (lit "behavior_ref", .string task.behaviorRef), (lit "behavior_params", .ofStrMap task.behaviorParams),
  (lit "resource_requirements", .array (task.resourceRequirements.map ResourceRequirement.toJson))] ++
  task.constraints.members

def TaskAssignMessage.toJson (task : TaskAssignMessage D) : Json D := .ofMembers task.members

def BatchTaskAssignMessage.members (msg : BatchTaskAssignMessage D) : List (Str × Json D) := [
  (lit "message_id", .string msg.messageId), (lit "satellite_id", .string msg.satelliteId),
  (lit "node_id", .string msg.nodeId), (lit "plan_id", .string msg.planId),
  (lit "timestamp", .int msg.timestamp.toNat), (lit "require_ack", .bool msg.requireAck),
  (lit "ack_timeout_ms", .int msg.ackTimeoutMs.toNat),
  (lit "scheduled_tasks", .array (msg.scheduledTasks.map TaskAssignMessage.toJson))]

def BatchTaskAssignMessage.toJson (msg : BatchTaskAssignMessage D) : Json D := .ofMembers msg.members

def BatchTaskAssignAck.members (ack : BatchTaskAssignAck) : List (Str × Json D) := [
  (lit "message_id", .string ack.messageId), (lit "satellite_id", .string ack.satelliteId),
  (lit "node_id", .string ack.nodeId), (lit "timestamp", .int ack.timestamp.toNat),
  (lit "accepted", .bool ack.accepted), (lit "accepted_task_ids", .ofStrings ack.acceptedTaskIds),
  (lit "rejected_task_ids", .ofStrings ack.rejectedTaskIds),
  (lit "rejection_reasons", .ofStrMap ack.rejectionReasons)]

def BatchTaskAssignAck.toJson (ack : BatchTaskAssignAck) : Json D := .ofMembers ack.members

def TaskProgressMessage.members (progress : TaskProgressMessage) : List (Str × Json D) := [
  (lit "segment_id", .string progress.segmentId), (lit "task_id", .string progress.taskId),
  (lit "status", .int progress.status.raw.toNat), (lit "progress_percent", .int progress.progressPercent.toNat),
  (lit "current_action", .string progress.currentAction), (lit "message", .string progress.message),
  (lit "output_vars", .ofStrMap progress.outputVars)]

def TaskProgressMessage.toJson (progress : TaskProgressMessage) : Json D := .ofMembers progress.members

def TaskCompleteMessage.members (complete : TaskCompleteMessage) : List (Str × Json D) := [
  (lit "segment_id", .string complete.segmentId), (lit "task_id", .string complete.taskId),
  (lit "success", .bool complete.success), (lit "actual_start", .string complete.actualStart),
  (lit "actual_end", .string complete.actualEnd), (lit "actual_profit", .int complete.actualProfit.toInt),
  (lit "result_summary", .string complete.resultSummary), (lit "output_data", .ofStrMap complete.outputData)]

def TaskCompleteMessage.toJson (complete : TaskCompleteMessage) : Json D := .ofMembers complete.members

section Payloads

variable (json : JsonLibrary D)

def serializeBatchTaskAssign (msg : BatchTaskAssignMessage D) : Except Str Str := json.dump msg.toJson

def serializeBatchTaskAssignAckPayload (ack : BatchTaskAssignAck) : Except Str Str := json.dump ack.toJson

def serializeTaskProgressPayload (progress : TaskProgressMessage) : Except Str Str := json.dump progress.toJson

def serializeTaskCompletePayload (complete : TaskCompleteMessage) : Except Str Str := json.dump complete.toJson

end Payloads

/-! ## Decoders -/

section Decoders

variable [CxxDouble D] (json : JsonLibrary D)

/-- `jsonValueToString`. -/
def jsonValueToString : Json D → Except Str Str
  | .string s => .ok s
  | .int n => .ok (intToString (Int32.ofInt n))
  | .float x => .ok (lit (CxxDouble.toStream x))
  | .bool b => .ok (if b then lit "true" else lit "false")
  | value => json.dump value

/-- The loop that turns the members of an object to text. -/
def textMembers : List (Str × Json D) → OrdMap Str Str → Except Str (OrdMap Str Str)
  | [], texts => .ok texts
  | (key, value) :: members, texts => do textMembers members (texts.insert key (← jsonValueToString json value))

/-- An object of texts under a key, empty when the key is missing. -/
def textMap (j : Json D) (key : Str) : Except Str (OrdMap Str Str) :=
  match j.find? key with
  | none => .ok OrdMap.empty
  | some object => do textMembers json (← object.keyed) OrdMap.empty

/-- A loop that reads each element. -/
def readAll {α : Type} (read : Json D → Except Str α) : List (Json D) → Except Str (List α)
  | [] => .ok []
  | item :: items => do return (← read item) :: (← readAll read items)

/-- A list under a key, empty when the key is missing. -/
def listUnder {α : Type} (read : Json D → Except Str α) (j : Json D) (key : Str) : Except Str (List α) :=
  match j.find? key with
  | none => .ok []
  | some items => readAll read items.elements

/-- One round of the loop over `scheduled_tasks`, which starts with the local `task` as declared. -/
def parseTaskAssign (held : Indeterminate D) (taskJ : Json D) : Except Str (TaskAssignMessage D) := do
  let segmentId ← taskJ.value Json.getString (lit "segment_id") []
  let taskId ← taskJ.value Json.getString (lit "task_id") []
  let taskName ← taskJ.value Json.getString (lit "task_name") []
  let profit ← taskJ.value Json.getInt (lit "profit") 0
  let behaviorRef ← taskJ.value Json.getString (lit "behavior_ref") []
  let behaviorParams ← textMap json taskJ (lit "behavior_params")
  return { TaskAssignMessage.declared held with segmentId, taskId, taskName, profit, behaviorRef, behaviorParams }

/-- The `try` block of `parseBatchTaskAssignPayload` behind the parser. -/
def readBatchTaskAssign (held : Indeterminate D) (j : Json D) : Except Str (BatchTaskAssignMessage D) := do
  let messageId ← j.value Json.getString (lit "message_id") []
  let satelliteId ← j.value Json.getString (lit "satellite_id") []
  let nodeId ← j.value Json.getString (lit "node_id") []
  let planId ← j.value Json.getString (lit "plan_id") []
  let timestamp ← j.value Json.getUInt64 (lit "timestamp") 0
  let requireAck ← j.value Json.getBool (lit "require_ack") false
  let ackTimeoutMs ← j.value Json.getUInt64 (lit "ack_timeout_ms") 0
  let scheduledTasks ← listUnder (parseTaskAssign json held) j (lit "scheduled_tasks")
  return { messageId, satelliteId, nodeId, planId, timestamp, requireAck, ackTimeoutMs, scheduledTasks }

/-- `parseBatchTaskAssignPayload`: the message, or `none` for the result `false`. -/
def parseBatchTaskAssignPayload (held : Indeterminate D) (payload : Str) : Option (BatchTaskAssignMessage D) :=
  (json.parse payload >>= readBatchTaskAssign json held).toOption

def taskAssignToSegment (task : TaskAssignMessage D) (satelliteId : Str) : TaskSegment where
  segmentId := task.segmentId
  taskId := task.taskId
  satelliteId := satelliteId
  behaviorRef := task.behaviorRef
  behaviorParams := task.behaviorParams

/-- The `try` block of `parseBatchTaskAssignAckPayload` behind the parser. -/
def readBatchTaskAssignAck (j : Json D) : Except Str BatchTaskAssignAck := do
  let messageId ← j.value Json.getString (lit "message_id") []
  let satelliteId ← j.value Json.getString (lit "satellite_id") []
  let nodeId ← j.value Json.getString (lit "node_id") []
  let timestamp ← j.value Json.getUInt64 (lit "timestamp") 0
  let accepted ← j.value Json.getBool (lit "accepted") false
  let acceptedTaskIds ← listUnder Json.getString j (lit "accepted_task_ids")
  let rejectedTaskIds ← listUnder Json.getString j (lit "rejected_task_ids")
  let rejectionReasons ← textMap json j (lit "rejection_reasons")
  return { messageId, satelliteId, nodeId, timestamp, accepted, acceptedTaskIds, rejectedTaskIds, rejectionReasons }

/-- `parseBatchTaskAssignAckPayload`. -/
def parseBatchTaskAssignAckPayload (payload : Str) : Option BatchTaskAssignAck :=
  (json.parse payload >>= readBatchTaskAssignAck json).toOption

/-- The `try` block of `parseTaskProgressPayload` behind the parser. -/
def readTaskProgress (j : Json D) : Except Str TaskProgressMessage := do
  let segmentId ← j.value Json.getString (lit "segment_id") []
  let taskId ← j.value Json.getString (lit "task_id") []
  let status ← j.value Json.getInt (lit "status") 0
  let progressPercent ← j.value Json.getInt (lit "progress_percent") 0
  let currentAction ← j.value Json.getString (lit "current_action") []
  let message ← j.value Json.getString (lit "message") []
  let outputVars ← textMap json j (lit "output_vars")
  return { segmentId, taskId, status := ⟨status.toUInt32.toUInt8⟩, progressPercent := progressPercent.toUInt32.toUInt8
           currentAction, message, outputVars }

/-- `parseTaskProgressPayload`. -/
def parseTaskProgressPayload (payload : Str) : Option TaskProgressMessage :=
  (json.parse payload >>= readTaskProgress json).toOption

/-- The `try` block of `parseTaskCompletePayload` behind the parser. -/
def readTaskComplete (j : Json D) : Except Str TaskCompleteMessage := do
  let segmentId ← j.value Json.getString (lit "segment_id") []
  let taskId ← j.value Json.getString (lit "task_id") []
  let success ← j.value Json.getBool (lit "success") false
  let actualStart ← j.value Json.getString (lit "actual_start") []
  let actualEnd ← j.value Json.getString (lit "actual_end") []
  let actualProfit ← j.value Json.getInt (lit "actual_profit") 0
  let resultSummary ← j.value Json.getString (lit "result_summary") []
  let outputData ← textMap json j (lit "output_data")
  return { segmentId, taskId, success, actualStart, actualEnd, actualProfit, resultSummary, outputData }

/-- `parseTaskCompletePayload`. -/
def parseTaskCompletePayload (payload : Str) : Option TaskCompleteMessage :=
  (json.parse payload >>= readTaskComplete json).toOption

end Decoders

end Actuator.Coordinator
