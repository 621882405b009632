import Actuator.Coordinator.TaskMessageRoundTrip
import Actuator.Lib.JsonText

/-!
# Reports of the satellites

The coordinator's parsers write into an object they are given, member by
member. What they leave in it is the report that the satellite encoded,
whatever the object held before (`reports_roundTrip`).
-/

namespace Actuator.Coordinator

open Actuator.Lib

variable {D : Type}

/-! ## Parsing into an object -/

/-- A part of a parser that may throw. -/
def reading {S α : Type} (x : Except Str α) : Effect S Str α := Effect.readThrowing fun _ => x

/-- A parser of an object of type `S`: the result and the object behind the `try` block. -/
def parseInto {S : Type} (json : JsonLibrary D) (read : Json D → Effect S Str Unit) (payload : Str) (object : S) :
    Bool × S :=
  match (reading (json.parse payload) >>= read) object with
  | (.ok _, object) => (true, object)
  | (.error _, object) => (false, object)

section Parsers

variable [CxxDouble D] (json : JsonLibrary D)

/-- The loop that appends each text of a list. -/
def pushStrings {S : Type} (push : S → Str → S) : List (Json D) → Effect S Str Unit
  | [] => pure ()
  | id :: ids => do
    let text ← reading id.getString
    Effect.modify fun object => push object text
    pushStrings push ids

/-- The loop that inserts each member of an object as text. -/
def insertMembers {S : Type} (insert : S → Str → Str → S) : List (Str × Json D) → Effect S Str Unit
  | [] => pure ()
  | member :: members => do
    let text ← reading (jsonValueToString json member.2)
    Effect.modify fun object => insert object member.1 text
    insertMembers insert members

/-- The list under a key, when there is one. -/
def pushUnder {S : Type} (push : S → Str → S) (j : Json D) (key : Str) : Effect S Str Unit :=
  match j.find? key with
  | none => pure ()
  | some items => pushStrings push items.elements

/-- The object under a key, when there is one. -/
def insertUnder {S : Type} (insert : S → Str → Str → S) (j : Json D) (key : Str) : Effect S Str Unit :=
  match j.find? key with
  | none => pure ()
  | some object => do insertMembers json insert (← reading object.keyed)

def BatchTaskAssignAck.pushAccepted (ack : BatchTaskAssignAck) (id : Str) : BatchTaskAssignAck :=
  { ack with acceptedTaskIds := ack.acceptedTaskIds ++ [id] }

def BatchTaskAssignAck.pushRejected (ack : BatchTaskAssignAck) (id : Str) : BatchTaskAssignAck :=
  { ack with rejectedTaskIds := ack.rejectedTaskIds ++ [id] }

def BatchTaskAssignAck.insertReason (ack : BatchTaskAssignAck) (key text : Str) : BatchTaskAssignAck :=
  { ack with rejectionReasons := ack.rejectionReasons.insert key text }

/-- The `try` block of `parseBatchTaskAssignAckPayload` behind the parser. -/
def readAckInto (j : Json D) : Effect BatchTaskAssignAck Str Unit := do
  let messageId ← reading (j.value Json.getString (lit "message_id") [])
  Effect.modify fun ack => { ack with messageId }
  let satelliteId ← reading (j.value Json.getString (lit "satellite_id") [])
  Effect.modify fun ack => { ack with satelliteId }
  let nodeId ← reading (j.value Json.getString (lit "node_id") [])
  Effect.modify fun ack => { ack with nodeId }
  let timestamp ← reading (j.value Json.getUInt64 (lit "timestamp") 0)
  Effect.modify fun ack => { ack with timestamp }
  let accepted ← reading (j.value Json.getBool (lit "accepted") false)
  Effect.modify fun ack => { ack with accepted }
  Effect.modify fun ack => { ack with
    acceptedTaskIds := [], rejectedTaskIds := [], rejectionReasons := OrdMap.empty }
  pushUnder BatchTaskAssignAck.pushAccepted j (lit "accepted_task_ids")
  pushUnder BatchTaskAssignAck.pushRejected j (lit "rejected_task_ids")
  insertUnder json BatchTaskAssignAck.insertReason j (lit "rejection_reasons")

/-- The `try` block of `parseTaskProgressPayload` behind the parser. -/
def readProgressInto (j : Json D) : Effect TaskProgressMessage Str Unit := do
  let segmentId ← reading (j.value Json.getString (lit "segment_id") [])
  Effect.modify fun progress => { progress with segmentId }
  let taskId ← reading (j.value Json.getString (lit "task_id") [])
  Effect.modify fun progress => { progress with taskId }
  let status ← reading (j.value Json.getInt (lit "status") 0)
  Effect.modify fun progress => { progress with status := ⟨status.toUInt32.toUInt8⟩ }
  let progressPercent ← reading (j.value Json.getInt (lit "progress_percent") 0)
  Effect.modify fun progress => { progress with progressPercent := progressPercent.toUInt32.toUInt8 }
  let currentAction ← reading (j.value Json.getString (lit "current_action") [])
  Effect.modify fun progress => { progress with currentAction }
  let message ← reading (j.value Json.getString (lit "message") [])
  Effect.modify fun progress => { progress with message }
  Effect.modify fun progress => { progress with outputVars := OrdMap.empty }
  insertUnder json (fun progress key text => { progress with outputVars := progress.outputVars.insert key text }) j
    (lit "output_vars")

/-- The `try` block of `parseTaskCompletePayload` behind the parser. -/
def readCompleteInto (j : Json D) : Effect TaskCompleteMessage Str Unit := do
  let segmentId ← reading (j.value Json.getString (lit "segment_id") [])
  Effect.modify fun complete => { complete with segmentId }
  let taskId ← reading (j.value Json.getString (lit "task_id") [])
  Effect.modify fun complete => { complete with taskId }
  let success ← reading (j.value Json.getBool (lit "success") false)
  Effect.modify fun complete => { complete with success }
  let actualStart ← reading (j.value Json.getString (lit "actual_start") [])
  Effect.modify fun complete => { complete with actualStart }
  let actualEnd ← reading (j.value Json.getString (lit "actual_end") [])
  Effect.modify fun complete => { complete with actualEnd }
  let actualProfit ← reading (j.value Json.getInt (lit "actual_profit") 0)
  Effect.modify fun complete => { complete with actualProfit }
  let resultSummary ← reading (j.value Json.getString (lit "result_summary") [])
  Effect.modify fun complete => { complete with resultSummary }
  Effect.modify fun complete => { complete with outputData := OrdMap.empty }
  insertUnder json (fun complete key text => { complete with outputData := complete.outputData.insert key text }) j
    (lit "output_data")

/-- `parseBatchTaskAssignAckPayload`. -/
def parseBatchTaskAssignAckPayloadInto (payload : Str) (ack : BatchTaskAssignAck) : Bool × BatchTaskAssignAck :=
  parseInto json (readAckInto json) payload ack

/-- `parseTaskProgressPayload`. -/
def parseTaskProgressPayloadInto (payload : Str) (progress : TaskProgressMessage) : Bool × TaskProgressMessage :=
  parseInto json (readProgressInto json) payload progress

/-- `parseTaskCompletePayload`. -/
def parseTaskCompletePayloadInto (payload : Str) (complete : TaskCompleteMessage) : Bool × TaskCompleteMessage :=
  parseInto json (readCompleteInto json) payload complete

end Parsers

/-! ## The decoders leave what they read -/

section Reading

variable {S : Type}

theorem reading_run {α : Type} {x : Except Str α} {a : α} (read : x = .ok a) (s : S) :
    (reading x : Effect S Str α) s = (.ok a, s) := congrArg (·, s) read

/-- A member is read and written. -/
theorem assign_run {α β : Type} {x : Except Str α} {a : α} (read : x = .ok a) {f : α → S → S}
    {k : α → Effect S Str β} (s : S) :
    (reading x >>= fun a => Effect.modify (f a) >>= fun _ => k a) s = k a (f a s) := by
  rw [Effect.bind_run_ok (reading_run read s)]
  rfl

variable [CxxDouble D] {json : JsonLibrary D}

omit [CxxDouble D] in
theorem pushStrings_run {push : S → Str → S} {items : List (Json D)} {texts : List Str} (write : S → List Str → S)
    (writes : ∀ s l id, push (write s l) id = write s (l ++ [id])) (read : readAll Json.getString items = .ok texts)
    (start : List Str) (s : S) : pushStrings push items (write s start) = (.ok (), write s (start ++ texts)) := by
  induction items generalizing texts start with
  | nil =>
    cases read
    rw [List.append_nil]
    rfl
  | cons id ids ih =>
    obtain ⟨text, first, rest₁⟩ := except_bind_eq_ok read
    obtain ⟨later, rest, rest₂⟩ := except_bind_eq_ok rest₁
    cases rest₂
    unfold pushStrings
    rw [assign_run first, writes]
    have run := ih rest (start ++ [text])
    rwa [List.append_assoc, List.singleton_append] at run

theorem insertMembers_run {insert : S → Str → Str → S} {members : List (Str × Json D)} {texts start : OrdMap Str Str}
    (write : S → OrdMap Str Str → S) (writes : ∀ s m key text, insert (write s m) key text = write s (m.insert key text))
    (read : textMembers json members start = .ok texts) (s : S) :
    insertMembers json insert members (write s start) = (.ok (), write s texts) := by
  induction members generalizing start with
  | nil =>
    cases read
    rfl
  | cons member members ih =>
    obtain ⟨text, first, rest⟩ := except_bind_eq_ok read
    unfold insertMembers
    rw [assign_run first, writes]
    exact ih rest

omit [CxxDouble D] in
theorem pushUnder_run (push : S → Str → S) {j : Json D} {key : Str} {texts : List Str} (write : S → List Str → S)
    (writes : ∀ s l id, push (write s l) id = write s (l ++ [id])) (read : listUnder Json.getString j key = .ok texts)
    (s : S) : pushUnder push j key (write s []) = (.ok (), write s texts) := by
  unfold listUnder at read
  unfold pushUnder
  cases found : j.find? key with
  | none =>
    rw [found] at read
    cases read
    rfl
  | some items =>
    rw [found] at read
    exact pushStrings_run write writes read [] s

theorem insertUnder_run (insert : S → Str → Str → S) {j : Json D} {key : Str} {texts : OrdMap Str Str}
    (write : S → OrdMap Str Str → S) (writes : ∀ s m key text, insert (write s m) key text = write s (m.insert key text))
    (read : textMap json j key = .ok texts) (s : S) :
    insertUnder json insert j key (write s OrdMap.empty) = (.ok (), write s texts) := by
  unfold textMap at read
  unfold insertUnder
  cases found : j.find? key with
  | none =>
    rw [found] at read
    cases read
    rfl
  | some object =>
    rw [found] at read
    obtain ⟨members, keyed, rest⟩ := except_bind_eq_ok read
    show (reading object.keyed >>= insertMembers json insert) _ = _
    rw [Effect.bind_run_ok (reading_run keyed _)]
    exact insertMembers_run write writes rest s

theorem readProgressInto_run {j : Json D} {progress : TaskProgressMessage} (read : readTaskProgress json j = .ok progress)
    (object : TaskProgressMessage) : readProgressInto json j object = (.ok (), progress) := by
  obtain ⟨segmentId, segmentRead, rest₁⟩ := except_bind_eq_ok read
  obtain ⟨taskId, taskRead, rest₂⟩ := except_bind_eq_ok rest₁
  obtain ⟨status, statusRead, rest₃⟩ := except_bind_eq_ok rest₂
  obtain ⟨percent, percentRead, rest₄⟩ := except_bind_eq_ok rest₃
  obtain ⟨action, actionRead, rest₅⟩ := except_bind_eq_ok rest₄
  obtain ⟨message, messageRead, rest₆⟩ := except_bind_eq_ok rest₅
  obtain ⟨vars, varsRead, rest₇⟩ := except_bind_eq_ok rest₆
  cases rest₇
  unfold readProgressInto
  rw [assign_run segmentRead, assign_run taskRead, assign_run statusRead, assign_run percentRead,
    assign_run actionRead, assign_run messageRead]
  exact insertUnder_run _ (fun (progress : TaskProgressMessage) m => { progress with outputVars := m }) (fun _ _ _ _ => rfl) varsRead _

theorem readCompleteInto_run {j : Json D} {complete : TaskCompleteMessage} (read : readTaskComplete json j = .ok complete)
    (object : TaskCompleteMessage) : readCompleteInto json j object = (.ok (), complete) := by
  obtain ⟨segmentId, segmentRead, rest₁⟩ := except_bind_eq_ok read
  obtain ⟨taskId, taskRead, rest₂⟩ := except_bind_eq_ok rest₁
  obtain ⟨success, successRead, rest₃⟩ := except_bind_eq_ok rest₂
  obtain ⟨start, startRead, rest₄⟩ := except_bind_eq_ok rest₃
  obtain ⟨finish, finishRead, rest₅⟩ := except_bind_eq_ok rest₄
  obtain ⟨profit, profitRead, rest₆⟩ := except_bind_eq_ok rest₅
  obtain ⟨summary, summaryRead, rest₇⟩ := except_bind_eq_ok rest₆
  obtain ⟨data, dataRead, rest₈⟩ := except_bind_eq_ok rest₇
  cases rest₈
  unfold readCompleteInto
  rw [assign_run segmentRead, assign_run taskRead, assign_run successRead, assign_run startRead,
    assign_run finishRead, assign_run profitRead, assign_run summaryRead]
  exact insertUnder_run _ (fun (complete : TaskCompleteMessage) m => { complete with outputData := m }) (fun _ _ _ _ => rfl) dataRead _

theorem readAckInto_run {j : Json D} {ack : BatchTaskAssignAck} (read : readBatchTaskAssignAck json j = .ok ack)
    (object : BatchTaskAssignAck) : readAckInto json j object = (.ok (), ack) := by
  obtain ⟨messageId, messageRead, rest₁⟩ := except_bind_eq_ok read
  obtain ⟨satelliteId, satelliteRead, rest₂⟩ := except_bind_eq_ok rest₁
  obtain ⟨nodeId, nodeRead, rest₃⟩ := except_bind_eq_ok rest₂
  obtain ⟨timestamp, timeRead, rest₄⟩ := except_bind_eq_ok rest₃
  obtain ⟨accepted, acceptedRead, rest₅⟩ := except_bind_eq_ok rest₄
  obtain ⟨acceptedIds, acceptedIdsRead, rest₆⟩ := except_bind_eq_ok rest₅
  obtain ⟨rejectedIds, rejectedIdsRead, rest₇⟩ := except_bind_eq_ok rest₆
  obtain ⟨reasons, reasonsRead, rest₈⟩ := except_bind_eq_ok rest₇
  cases rest₈
  unfold readAckInto
  rw [assign_run messageRead, assign_run satelliteRead, assign_run nodeRead, assign_run timeRead,
    assign_run acceptedRead]
  have pushed := pushUnder_run BatchTaskAssignAck.pushAccepted
    (fun ack l => { ack with acceptedTaskIds := l }) (fun _ _ _ => rfl) acceptedIdsRead
  have pushed' := pushUnder_run BatchTaskAssignAck.pushRejected
    (fun ack l => { ack with rejectedTaskIds := l }) (fun _ _ _ => rfl) rejectedIdsRead
  have inserted := insertUnder_run BatchTaskAssignAck.insertReason
    (fun ack m => { ack with rejectionReasons := m }) (fun _ _ _ _ => rfl) reasonsRead
  refine (Effect.bind_run_ok (pushed { messageId, satelliteId, nodeId, timestamp, accepted })).trans ?_
  refine (Effect.bind_run_ok (pushed' { messageId, satelliteId, nodeId, timestamp, accepted
                                        acceptedTaskIds := acceptedIds })).trans ?_
  exact inserted { messageId, satelliteId, nodeId, timestamp, accepted
                   acceptedTaskIds := acceptedIds, rejectedTaskIds := rejectedIds }

end Reading

/-! ## Round trips -/

structure TaskProgressMessage.Utf8 (progress : TaskProgressMessage) : Prop where
  segmentId : ValidUtf8 progress.segmentId
  taskId : ValidUtf8 progress.taskId
  currentAction : ValidUtf8 progress.currentAction
  message : ValidUtf8 progress.message
  outputVars : Json.Utf8Map progress.outputVars

structure TaskCompleteMessage.Utf8 (complete : TaskCompleteMessage) : Prop where
  segmentId : ValidUtf8 complete.segmentId
  taskId : ValidUtf8 complete.taskId
  actualStart : ValidUtf8 complete.actualStart
  actualEnd : ValidUtf8 complete.actualEnd
  resultSummary : ValidUtf8 complete.resultSummary
  outputData : Json.Utf8Map complete.outputData

theorem inNumberRange_uint8 (n : UInt8) : Json.InNumberRange n.toNat := by
  have high : n.toNat < 256 := n.toNat_lt
  unfold Json.InNumberRange
  omega

theorem TaskProgressMessage.printable {progress : TaskProgressMessage} (utf8 : progress.Utf8) :
    (progress.toJson : Json D).Printable := by
  have vars : (Json.ofStrMap progress.outputVars : Json D).Printable := Json.printable_ofStrMap utf8.outputVars
  apply Json.printable_ofMembers
  simp [TaskProgressMessage.members, utf8.segmentId, utf8.taskId, utf8.currentAction, utf8.message, vars,
    inNumberRange_uint8]

theorem TaskCompleteMessage.printable {complete : TaskCompleteMessage} (utf8 : complete.Utf8) :
    (complete.toJson : Json D).Printable := by
  have data : (Json.ofStrMap complete.outputData : Json D).Printable := Json.printable_ofStrMap utf8.outputData
  apply Json.printable_ofMembers
  simp [TaskCompleteMessage.members, utf8.segmentId, utf8.taskId, utf8.actualStart, utf8.actualEnd,
    utf8.resultSummary, data]

theorem TaskProgressMessage.members_distinct (progress : TaskProgressMessage) :
    ((progress.members : List (Str × Json D)).map Prod.fst).Nodup := by
  show ([lit "segment_id", lit "task_id", lit "status", lit "progress_percent", lit "current_action", lit "message",
    lit "output_vars"] : List Str).Nodup
  decide

theorem TaskCompleteMessage.members_distinct (complete : TaskCompleteMessage) :
    ((complete.members : List (Str × Json D)).map Prod.fst).Nodup := by
  show ([lit "segment_id", lit "task_id", lit "success", lit "actual_start", lit "actual_end", lit "actual_profit",
    lit "result_summary", lit "output_data"] : List Str).Nodup
  decide

section RoundTrip

variable [CxxDouble D] (json : JsonLibrary D)

/-- A number of eight bits, read as an `int` and narrowed again. -/
theorem reread_uint8 {members : List (Str × Json D)} (distinct : (members.map Prod.fst).Nodup) (key : Str) (n : UInt8)
    (mem : (key, .int n.toNat) ∈ members) (default : Int32) :
    ∃ wide : Int32, (Json.reread json.finite (.ofMembers members)).value Json.getInt key default = .ok wide ∧
      wide.toUInt32.toUInt8 = n := by
  refine ⟨Int32.ofInt n.toNat, Json.reread_ofMembers_value json.finite distinct mem Json.getInt default, ?_⟩
  apply UInt8.toBitVec_inj.1
  simp

theorem readTaskProgress_reread (progress : TaskProgressMessage) :
    readTaskProgress json (progress.toJson.reread json.finite) = .ok progress := by
  have distinct := TaskProgressMessage.members_distinct (D := D) progress
  have text := fun key s mem => Json.reread_getString json.finite distinct key s mem []
  obtain ⟨status, statusRead, narrowed⟩ := reread_uint8 json distinct (lit "status") progress.status.raw
    (by simp [TaskProgressMessage.members]) 0
  obtain ⟨percent, percentRead, narrowed'⟩ := reread_uint8 json distinct (lit "progress_percent")
    progress.progressPercent (by simp [TaskProgressMessage.members]) 0
  have vars := textMap_reread json distinct (lit "output_vars") progress.outputVars
    (by simp [TaskProgressMessage.members])
  unfold TaskProgressMessage.toJson readTaskProgress
  rw [text (lit "segment_id") progress.segmentId (by simp [TaskProgressMessage.members]),
    text (lit "task_id") progress.taskId (by simp [TaskProgressMessage.members]), statusRead, percentRead,
    text (lit "current_action") progress.currentAction (by simp [TaskProgressMessage.members]),
    text (lit "message") progress.message (by simp [TaskProgressMessage.members]), vars]
  show Except.ok _ = _
  rw [narrowed, narrowed']

theorem readTaskComplete_reread (complete : TaskCompleteMessage) :
    readTaskComplete json (complete.toJson.reread json.finite) = .ok complete := by
  have distinct := TaskCompleteMessage.members_distinct (D := D) complete
  have text := fun key s mem => Json.reread_getString json.finite distinct key s mem []
  have success := Json.reread_getBool json.finite distinct (lit "success") complete.success
    (by simp [TaskCompleteMessage.members]) false
  have profit := Json.reread_getInt json.finite distinct (lit "actual_profit") complete.actualProfit
    (by simp [TaskCompleteMessage.members]) 0
  have data := textMap_reread json distinct (lit "output_data") complete.outputData
    (by simp [TaskCompleteMessage.members])
  unfold TaskCompleteMessage.toJson readTaskComplete
  rw [text (lit "segment_id") complete.segmentId (by simp [TaskCompleteMessage.members]),
    text (lit "task_id") complete.taskId (by simp [TaskCompleteMessage.members]), success,
    text (lit "actual_start") complete.actualStart (by simp [TaskCompleteMessage.members]),
    text (lit "actual_end") complete.actualEnd (by simp [TaskCompleteMessage.members]), profit,
    text (lit "result_summary") complete.resultSummary (by simp [TaskCompleteMessage.members]), data]
  rfl

omit [CxxDouble D] in
/-- What is dumped is read into any object. -/
theorem parseInto_of_dump {S : Type} {report : Json D} {object' : S} {read : Json D → Effect S Str Unit}
    (printable : report.Printable)
    (reads : ∀ object, read (report.reread json.finite) object = (.ok (), object')) :
    ∃ payload, json.dump report = .ok payload ∧ ∀ object, parseInto json read payload object = (true, object') := by
  obtain ⟨payload, dumped, parsed⟩ := json.parse_dump report printable
  refine ⟨payload, dumped, fun object => ?_⟩
  unfold parseInto
  rw [Effect.bind_run_ok (reading_run parsed object), reads object]

/-- The parsers of the coordinator give back what a satellite reports, whatever the object that they write into held
before. -/
theorem reports_roundTrip :
    (∀ progress : TaskProgressMessage, progress.Utf8 → ∃ payload,
      serializeTaskProgressPayload json progress = .ok payload ∧
        ∀ object, parseTaskProgressPayloadInto json payload object = (true, progress)) ∧
    (∀ complete : TaskCompleteMessage, complete.Utf8 → ∃ payload,
      serializeTaskCompletePayload json complete = .ok payload ∧
        ∀ object, parseTaskCompletePayloadInto json payload object = (true, complete)) ∧
    ∀ ack : BatchTaskAssignAck, ack.Utf8 → ∃ payload, serializeBatchTaskAssignAckPayload json ack = .ok payload ∧
      ∀ object, parseBatchTaskAssignAckPayloadInto json payload object = (true, ack) := by
  refine ⟨fun progress utf8 => ?_, fun complete utf8 => ?_, fun ack utf8 => ?_⟩
  · exact parseInto_of_dump json (TaskProgressMessage.printable utf8)
      (readProgressInto_run (readTaskProgress_reread json progress))
  · exact parseInto_of_dump json (TaskCompleteMessage.printable utf8)
      (readCompleteInto_run (readTaskComplete_reread json complete))
  · exact parseInto_of_dump json (BatchTaskAssignAck.printable utf8)
      (readAckInto_run (readBatchTaskAssignAck_reread json ack))

end RoundTrip

/-- The acknowledgement of a batch with a task that failed. -/
def sampleAck : BatchTaskAssignAck where
  messageId := lit "BATCH_S1_1000"
  satelliteId := lit "S1"
  nodeId := lit "S1"
  timestamp := 1000
  accepted := false
  acceptedTaskIds := [lit "T1", lit "任务"]
  rejectedTaskIds := [lit "T3"]
  rejectionReasons := OrdMap.empty.insert (lit "T3") (lit "task execution failed")

/-- The report of a task that starts, with all bits of the two narrow members set. -/
def sampleProgress : TaskProgressMessage where
  segmentId := lit "SEG_1"
  taskId := lit "T1"
  status := ⟨255⟩
  progressPercent := 255
  currentAction := lit "execute_task"
  message := lit "task started"

def sampleComplete : TaskCompleteMessage where
  segmentId := lit "SEG_1"
  taskId := lit "T1"
  success := true
  actualStart := []
  actualEnd := []
  actualProfit := -1
  resultSummary := lit "task completed"

theorem sampleAck_utf8 : sampleAck.Utf8 := by
  refine ⟨validUtf8_lit _, validUtf8_lit _, validUtf8_lit _, by simp [sampleAck], by simp [sampleAck], ?_⟩
  intro key text found
  change (OrdMap.empty.insert (lit "T3") (lit "task execution failed")).find? key = some text at found
  rw [OrdMap.find?_insert] at found
  split at found
  · rename_i same
    cases found
    exact ⟨same ▸ validUtf8_lit _, validUtf8_lit _⟩
  · cases found

theorem reports_roundTrip_sample :
    (∃ payload, serializeTaskProgressPayload JsonText.library sampleProgress = .ok payload ∧
      parseTaskProgressPayloadInto JsonText.library payload { sampleProgress with message := lit "old" } =
        (true, sampleProgress)) ∧
    (∃ payload, serializeTaskCompletePayload JsonText.library sampleComplete = .ok payload ∧
      parseTaskCompletePayloadInto JsonText.library payload { sampleComplete with success := false } =
        (true, sampleComplete)) ∧
    ∃ payload, serializeBatchTaskAssignAckPayload JsonText.library sampleAck = .ok payload ∧
      parseBatchTaskAssignAckPayloadInto JsonText.library payload { sampleAck with rejectedTaskIds := [lit "old"] } =
        (true, sampleAck) := by
  have empty : Json.Utf8Map OrdMap.empty := by simp [Json.Utf8Map]
  obtain ⟨progress, complete, ack⟩ := reports_roundTrip JsonText.library
  obtain ⟨payload₁, dumped₁, parsed₁⟩ := progress sampleProgress
    ⟨validUtf8_lit _, validUtf8_lit _, validUtf8_lit _, validUtf8_lit _, empty⟩
  obtain ⟨payload₂, dumped₂, parsed₂⟩ := complete sampleComplete
    ⟨validUtf8_lit _, validUtf8_lit _, validUtf8_nil, validUtf8_nil, validUtf8_lit _, empty⟩
  obtain ⟨payload₃, dumped₃, parsed₃⟩ := ack sampleAck sampleAck_utf8
  exact ⟨⟨payload₁, dumped₁, parsed₁ _⟩, ⟨payload₂, dumped₂, parsed₂ _⟩, ⟨payload₃, dumped₃, parsed₃ _⟩⟩

end Actuator.Coordinator
