import Actuator.Coordinator.TaskMessages
import Actuator.Lib.Effect

/-!
# Round trips of task messages

What the decoder of one side makes of what the encoder of the other side
wrote. The batch decoder leaves the priority, the target, the resources and the
constraints of a task as they were declared, so `received` is what is left of a
task on the way.
-/

namespace Actuator.Coordinator

open Actuator.Lib

variable {D : Type}

/-! ## Texts of messages -/

structure TaskAssignMessage.Utf8 (task : TaskAssignMessage D) : Prop where
  segmentId : ValidUtf8 task.segmentId
  taskId : ValidUtf8 task.taskId
  taskName : ValidUtf8 task.taskName
  behaviorRef : ValidUtf8 task.behaviorRef
  behaviorParams : Json.Utf8Map task.behaviorParams
  resourceRequirements : ∀ res ∈ task.resourceRequirements,
    ValidUtf8 res.resourceId ∧ ValidUtf8 res.usageType ∧ ValidUtf8 res.acquireAt
  staticConstraints : ∀ sc ∈ task.constraints.staticConstraints, ValidUtf8 sc.name ∧ ValidUtf8 sc.deadline
  dynamicConstraints : ∀ dc ∈ task.constraints.dynamicConstraints, ValidUtf8 dc.name

structure BatchTaskAssignMessage.Utf8 (msg : BatchTaskAssignMessage D) : Prop where
  messageId : ValidUtf8 msg.messageId
  satelliteId : ValidUtf8 msg.satelliteId
  nodeId : ValidUtf8 msg.nodeId
  planId : ValidUtf8 msg.planId
  scheduledTasks : ∀ task ∈ msg.scheduledTasks, task.Utf8

structure BatchTaskAssignAck.Utf8 (ack : BatchTaskAssignAck) : Prop where
  messageId : ValidUtf8 ack.messageId
  satelliteId : ValidUtf8 ack.satelliteId
  nodeId : ValidUtf8 ack.nodeId
  acceptedTaskIds : ∀ id ∈ ack.acceptedTaskIds, ValidUtf8 id
  rejectedTaskIds : ∀ id ∈ ack.rejectedTaskIds, ValidUtf8 id
  rejectionReasons : Json.Utf8Map ack.rejectionReasons

/-! ## Printing -/

theorem printable_resourceRequirement {res : ResourceRequirement}
    (utf8 : ValidUtf8 res.resourceId ∧ ValidUtf8 res.usageType ∧ ValidUtf8 res.acquireAt) :
    (res.toJson : Json D).Printable := by
  apply Json.printable_ofMembers
  simp [utf8]

theorem printable_staticConstraint {sc : TaskStaticConstraint} (utf8 : ValidUtf8 sc.name ∧ ValidUtf8 sc.deadline) :
    (TaskConstraints.staticToJson sc : Json D).Printable := by
  apply Json.printable_ofMembers
  split
  · simp [utf8]
  · simp [utf8]

theorem printable_dynamicConstraint {dc : TaskDynamicConstraint} (utf8 : ValidUtf8 dc.name) :
    (TaskConstraints.dynamicToJson dc : Json D).Printable := by
  apply Json.printable_ofMembers
  simp [utf8]

theorem printable_mapped {α : Type} {encode : α → Json D} {items : List α}
    (all : ∀ item ∈ items, (encode item).Printable) : (Json.array (items.map encode)).Printable := by
  apply Json.printable_array
  intro j mem
  obtain ⟨item, inside, rfl⟩ := List.mem_map.1 mem
  exact all item inside

theorem TaskAssignMessage.printable {task : TaskAssignMessage D} (utf8 : task.Utf8) : task.toJson.Printable := by
  have params : (Json.ofStrMap task.behaviorParams : Json D).Printable := Json.printable_ofStrMap utf8.behaviorParams
  have resources : (Json.array (task.resourceRequirements.map ResourceRequirement.toJson) : Json D).Printable :=
    printable_mapped fun res mem => printable_resourceRequirement (utf8.resourceRequirements res mem)
  have constraints : ∀ member ∈ (task.constraints.members : List (Str × Json D)),
      ValidUtf8 member.1 ∧ member.2.Printable := by
    unfold TaskConstraints.members
    split
    · simp
    · have statics := printable_mapped (D := D) fun sc mem => printable_staticConstraint (utf8.staticConstraints sc mem)
      have dynamics := printable_mapped (D := D) fun dc mem =>
        printable_dynamicConstraint (utf8.dynamicConstraints dc mem)
      have both : (Json.ofMembers [(lit "static", _), (lit "dynamic", _)] : Json D).Printable :=
        Json.printable_ofMembers (by simpa using ⟨statics, dynamics⟩)
      simpa using both
  have target : (Json.ofMembers [(lit "latitude_deg", .float task.target.latitudeDeg),
      (lit "longitude_deg", .float task.target.longitudeDeg)]).Printable :=
    Json.printable_ofMembers (by simp)
  apply Json.printable_ofMembers
  unfold TaskAssignMessage.members
  refine List.forall_mem_append.2 ⟨?_, constraints⟩
  simp [utf8.segmentId, utf8.taskId, utf8.taskName, utf8.behaviorRef, params, resources, target]

theorem BatchTaskAssignMessage.printable {msg : BatchTaskAssignMessage D} (utf8 : msg.Utf8) : msg.toJson.Printable := by
  have tasks := printable_mapped fun task mem => TaskAssignMessage.printable (utf8.scheduledTasks task mem)
  apply Json.printable_ofMembers
  simp [BatchTaskAssignMessage.members, utf8.messageId, utf8.satelliteId, utf8.nodeId, utf8.planId, tasks]

theorem BatchTaskAssignAck.printable {ack : BatchTaskAssignAck} (utf8 : ack.Utf8) :
    (ack.toJson : Json D).Printable := by
  have accepted : (Json.ofStrings ack.acceptedTaskIds : Json D).Printable :=
    Json.printable_ofStrings utf8.acceptedTaskIds
  have rejected : (Json.ofStrings ack.rejectedTaskIds : Json D).Printable :=
    Json.printable_ofStrings utf8.rejectedTaskIds
  have reasons : (Json.ofStrMap ack.rejectionReasons : Json D).Printable :=
    Json.printable_ofStrMap utf8.rejectionReasons
  apply Json.printable_ofMembers
  simp [BatchTaskAssignAck.members, utf8.messageId, utf8.satelliteId, utf8.nodeId, accepted, rejected, reasons]

/-! ## Reading back -/

theorem TaskAssignMessage.members_distinct (task : TaskAssignMessage D) : (task.members.map Prod.fst).Nodup := by
  unfold TaskAssignMessage.members TaskConstraints.members
  rw [List.map_append]
  split
  · show ([lit "segment_id", lit "task_id", lit "task_name", lit "profit", lit "target", lit "behavior_ref",
      lit "behavior_params", lit "resource_requirements"] : List Str).Nodup
    decide
  · show ([lit "segment_id", lit "task_id", lit "task_name", lit "profit", lit "target", lit "behavior_ref",
      lit "behavior_params", lit "resource_requirements", lit "constraints"] : List Str).Nodup
    decide

theorem BatchTaskAssignMessage.members_distinct (msg : BatchTaskAssignMessage D) :
    (msg.members.map Prod.fst).Nodup := by
  show ([lit "message_id", lit "satellite_id", lit "node_id", lit "plan_id", lit "timestamp", lit "require_ack",
    lit "ack_timeout_ms", lit "scheduled_tasks"] : List Str).Nodup
  decide

theorem BatchTaskAssignAck.members_distinct (ack : BatchTaskAssignAck) :
    ((ack.members : List (Str × Json D)).map Prod.fst).Nodup := by
  show ([lit "message_id", lit "satellite_id", lit "node_id", lit "timestamp", lit "accepted",
    lit "accepted_task_ids", lit "rejected_task_ids", lit "rejection_reasons"] : List Str).Nodup
  decide

section Decoders

variable [CxxDouble D] (json : JsonLibrary D)

theorem textMembers_strings (members : List (Str × Str)) (texts : OrdMap Str Str) :
    textMembers json (members.map fun member => (member.1, .string member.2)) texts = .ok (texts.insertAll members) := by
  induction members generalizing texts with
  | nil => rfl
  | cons member members ih => exact ih (texts.insert member.1 member.2)

/-- A map of texts under a key of an object. -/
theorem textMap_reread {members : List (Str × Json D)} (distinct : (members.map Prod.fst).Nodup) (key : Str)
    (m : OrdMap Str Str) (mem : (key, .ofStrMap m) ∈ members) :
    textMap json (.reread json.finite (.ofMembers members)) key = .ok m := by
  have strings : (Json.ofStrMap m : Json D).reread json.finite =
      .object (m.entries.map fun member => (member.1, .string member.2)) := by
    unfold Json.ofStrMap
    rw [Json.reread_ofMap]
    simp [Json.ofMap, OrdMap.mapValues, Json.reread]
  unfold textMap
  rw [Json.reread_ofMembers_find? _ distinct mem, strings]
  show textMembers json _ OrdMap.empty = _
  rw [textMembers_strings]
  exact congrArg Except.ok (OrdMap.ofList_entries m)

omit [CxxDouble D] in
theorem readAll_map {α β : Type} {read : Json D → Except Str β} {encode : α → Json D} {decode : α → β} {items : List α}
    (each : ∀ item ∈ items, read (encode item) = .ok (decode item)) :
    readAll read (items.map encode) = .ok (items.map decode) := by
  induction items with
  | nil => rfl
  | cons item items ih =>
    obtain ⟨first, later⟩ := List.forall_mem_cons.1 each
    rw [List.map_cons, readAll, first, ih later]
    rfl

omit [CxxDouble D] in
theorem listUnder_reread {α β : Type} {read : Json D → Except Str β} {encode : α → Json D} {decode : α → β}
    {members : List (Str × Json D)} (distinct : (members.map Prod.fst).Nodup) (key : Str) (items : List α)
    (mem : (key, .array (items.map encode)) ∈ members)
    (each : ∀ item ∈ items, read (.reread json.finite (encode item)) = .ok (decode item)) :
    listUnder read (.reread json.finite (.ofMembers members)) key = .ok (items.map decode) := by
  unfold listUnder
  rw [Json.reread_ofMembers_find? _ distinct mem]
  show readAll read (Json.rereadItems json.finite _) = _
  rw [Json.rereadItems_eq_map, List.map_map]
  exact readAll_map each

/-- A task as the satellite receives it. -/
def TaskAssignMessage.received (held : Indeterminate D) (task : TaskAssignMessage D) : TaskAssignMessage D :=
  { TaskAssignMessage.declared held with
    segmentId := task.segmentId
    taskId := task.taskId
    taskName := task.taskName
    profit := task.profit
    behaviorRef := task.behaviorRef
    behaviorParams := task.behaviorParams }

theorem parseTaskAssign_reread (held : Indeterminate D) (task : TaskAssignMessage D) :
    parseTaskAssign json held (task.toJson.reread json.finite) = .ok (task.received held) := by
  have distinct := task.members_distinct
  have text := fun key s mem => Json.reread_getString json.finite distinct key s mem []
  have profit := Json.reread_getInt json.finite distinct (lit "profit") task.profit
    (by simp [TaskAssignMessage.members]) 0
  have params := textMap_reread json distinct (lit "behavior_params") task.behaviorParams
    (by simp [TaskAssignMessage.members])
  unfold TaskAssignMessage.toJson parseTaskAssign
  rw [text (lit "segment_id") task.segmentId (by simp [TaskAssignMessage.members]),
    text (lit "task_id") task.taskId (by simp [TaskAssignMessage.members]),
    text (lit "task_name") task.taskName (by simp [TaskAssignMessage.members]), profit,
    text (lit "behavior_ref") task.behaviorRef (by simp [TaskAssignMessage.members]), params]
  rfl

/-- A batch as the satellite receives it. -/
def BatchTaskAssignMessage.received (held : Indeterminate D) (msg : BatchTaskAssignMessage D) :
    BatchTaskAssignMessage D :=
  { msg with scheduledTasks := msg.scheduledTasks.map (TaskAssignMessage.received held) }

theorem readBatchTaskAssign_reread (held : Indeterminate D) (msg : BatchTaskAssignMessage D) :
    readBatchTaskAssign json held (msg.toJson.reread json.finite) = .ok (msg.received held) := by
  have distinct := msg.members_distinct
  have text := fun key s mem => Json.reread_getString json.finite distinct key s mem []
  have number := fun key n mem => Json.reread_getUInt64 json.finite distinct key n mem 0
  have requireAck := Json.reread_getBool json.finite distinct (lit "require_ack") msg.requireAck
    (by simp [BatchTaskAssignMessage.members]) false
  have tasks := listUnder_reread json distinct (lit "scheduled_tasks") msg.scheduledTasks
    (by simp [BatchTaskAssignMessage.members]) fun task _ => parseTaskAssign_reread json held task
  unfold BatchTaskAssignMessage.toJson readBatchTaskAssign
  rw [text (lit "message_id") msg.messageId (by simp [BatchTaskAssignMessage.members]),
    text (lit "satellite_id") msg.satelliteId (by simp [BatchTaskAssignMessage.members]),
    text (lit "node_id") msg.nodeId (by simp [BatchTaskAssignMessage.members]),
    text (lit "plan_id") msg.planId (by simp [BatchTaskAssignMessage.members]),
    number (lit "timestamp") msg.timestamp (by simp [BatchTaskAssignMessage.members]), requireAck,
    number (lit "ack_timeout_ms") msg.ackTimeoutMs (by simp [BatchTaskAssignMessage.members]), tasks]
  rfl

theorem readBatchTaskAssignAck_reread (ack : BatchTaskAssignAck) :
    readBatchTaskAssignAck json (ack.toJson.reread json.finite) = .ok ack := by
  have distinct := BatchTaskAssignAck.members_distinct (D := D) ack
  have text := fun key s mem => Json.reread_getString json.finite distinct key s mem []
  have timestamp := Json.reread_getUInt64 json.finite distinct (lit "timestamp") ack.timestamp
    (by simp [BatchTaskAssignAck.members]) 0
  have accepted := Json.reread_getBool json.finite distinct (lit "accepted") ack.accepted
    (by simp [BatchTaskAssignAck.members]) false
  have ids : ∀ key items, (key, .ofStrings items) ∈ ack.members →
      listUnder Json.getString (.reread json.finite (.ofMembers ack.members)) key = .ok (items.map id) :=
    fun key items mem => listUnder_reread json distinct key items mem fun _ _ => rfl
  have reasons := textMap_reread json distinct (lit "rejection_reasons") ack.rejectionReasons
    (by simp [BatchTaskAssignAck.members])
  unfold BatchTaskAssignAck.toJson readBatchTaskAssignAck
  rw [text (lit "message_id") ack.messageId (by simp [BatchTaskAssignAck.members]),
    text (lit "satellite_id") ack.satelliteId (by simp [BatchTaskAssignAck.members]),
    text (lit "node_id") ack.nodeId (by simp [BatchTaskAssignAck.members]), timestamp, accepted,
    ids (lit "accepted_task_ids") ack.acceptedTaskIds (by simp [BatchTaskAssignAck.members]),
    ids (lit "rejected_task_ids") ack.rejectedTaskIds (by simp [BatchTaskAssignAck.members]), reasons,
    List.map_id, List.map_id]
  rfl

/-- The batch decoder gives back what the batch encoder wrote, as far as it reads it. -/
theorem parseBatchTaskAssignPayload_serialize (held : Indeterminate D) {msg : BatchTaskAssignMessage D}
    (utf8 : msg.Utf8) : ∃ payload, serializeBatchTaskAssign json msg = .ok payload ∧
      parseBatchTaskAssignPayload json held payload = some (msg.received held) := by
  obtain ⟨payload, dumped, parsed⟩ := json.parse_dump msg.toJson (BatchTaskAssignMessage.printable utf8)
  refine ⟨payload, dumped, ?_⟩
  unfold parseBatchTaskAssignPayload
  rw [parsed, except_ok_bind, readBatchTaskAssign_reread]
  rfl

/-- The decoder of acknowledgements gives back what the encoder wrote. -/
theorem parseBatchTaskAssignAckPayload_serialize {ack : BatchTaskAssignAck} (utf8 : ack.Utf8) :
    ∃ payload, serializeBatchTaskAssignAckPayload json ack = .ok payload ∧
      parseBatchTaskAssignAckPayload json payload = some ack := by
  obtain ⟨payload, dumped, parsed⟩ := json.parse_dump ack.toJson (BatchTaskAssignAck.printable utf8)
  refine ⟨payload, dumped, ?_⟩
  unfold parseBatchTaskAssignAckPayload
  rw [parsed, except_ok_bind, readBatchTaskAssignAck_reread]
  rfl

end Decoders

end Actuator.Coordinator
