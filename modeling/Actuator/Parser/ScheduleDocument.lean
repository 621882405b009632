import Actuator.Parser.BehaviorLibrary
import Actuator.Parser.ScheduleFailure

/-!
# The schedules that documents have

Whatever the file says, the parser returns a schedule of whole entries, and at
most a piece of one more: its id, or its id and its description. Every such
schedule has a document from which it is read, and the schedules without a piece
are those of the documents that are read without an exception
(`parseAllSatellites_range`).
-/

namespace Actuator.Parser

open Actuator.Lib Actuator.Core

/-! ## Schedules of whole entries -/

/-- An id that the parser lists. -/
structure Listable (satId : Str) : Prop where
  named : satId ≠ []
  utf8 : ValidUtf8 satId

structure SatelliteInfo.Writable (info : SatelliteInfo) : Prop where
  satelliteId : Listable info.satelliteId
  nodeId : ValidUtf8 info.nodeId
  name : ValidUtf8 info.name

/-- Tasks as the parser lists them under an id. -/
def WrittenUnder (satId : Str) (tasks : List TaskSegment) : Prop :=
  ∀ task ∈ tasks, TaskUtf8 task ∧ task.satelliteId = satId

namespace MultiSatSchedule

/-- Each entry was read to its end: its id is described, and has a list of tasks. -/
structure ReadFully (schedule : MultiSatSchedule) : Prop where
  satelliteIds : schedule.satelliteIds = schedule.satellites.map (·.satelliteId)
  satellites : ∀ info ∈ schedule.satellites, info.Writable
  satelliteTasks : ∀ satId tasks, schedule.satelliteTasks.find? satId = some tasks → WrittenUnder satId tasks
  keys : ∀ satId, (schedule.satelliteTasks.find? satId).isSome = true ↔ satId ∈ schedule.satelliteIds

/-- An entry of which the id was listed. -/
def listId (schedule : MultiSatSchedule) (satId : Str) : MultiSatSchedule :=
  { schedule with satelliteIds := schedule.satelliteIds ++ [satId] }

/-- An entry of which the id was listed and the description stored. -/
def describe (schedule : MultiSatSchedule) (info : SatelliteInfo) : MultiSatSchedule :=
  { schedule.listId info.satelliteId with satellites := schedule.satellites ++ [info] }

/-- Whole entries, and perhaps a piece of the next one. -/
inductive ReadInPart : MultiSatSchedule → Prop
  | whole {schedule : MultiSatSchedule} (fully : schedule.ReadFully) : ReadInPart schedule
  | behindId {schedule : MultiSatSchedule} (fully : schedule.ReadFully) {satId : Str} (listable : Listable satId) :
    ReadInPart (schedule.listId satId)
  | behindInfo {schedule : MultiSatSchedule} (fully : schedule.ReadFully) {info : SatelliteInfo}
    (writable : info.Writable) : ReadInPart (schedule.describe info)

theorem readFully_empty : ReadFully {} := ⟨rfl, by simp, by simp, by simp⟩

theorem ReadFully.record {schedule : MultiSatSchedule} (fully : schedule.ReadFully) {info : SatelliteInfo}
    (writable : info.Writable) {tasks : List TaskSegment} (written : WrittenUnder info.satelliteId tasks) :
    (schedule.record info tasks).ReadFully := by
  refine ⟨?_, ?_, ?_, ?_⟩
  · simp [MultiSatSchedule.record, fully.satelliteIds]
  · intro other mem
    rcases List.mem_append.1 mem with before | new
    · exact fully.satellites other before
    · rw [List.mem_singleton.1 new]
      exact writable
  · intro satId listed found
    change (schedule.satelliteTasks.insert _ _).find? satId = some listed at found
    rw [OrdMap.find?_insert] at found
    split at found
    · rename_i same
      cases found
      rw [same]
      exact written
    · exact fully.satelliteTasks satId listed found
  · intro satId
    show ((schedule.satelliteTasks.insert _ _).find? satId).isSome = true ↔ satId ∈ schedule.satelliteIds ++ [_]
    rw [OrdMap.find?_insert, List.mem_append, List.mem_singleton, ← fully.keys]
    by_cases same : satId = info.satelliteId
    · simp [same]
    · simp [same]

end MultiSatSchedule

/-! ## What is read -/

section Reading

variable {D : Type} [CxxDouble D]

/-- What one entry does to the schedule, and whether its reading ended in an exception. -/
inductive EntryRun (result : MultiSatSchedule) : Except Str Unit × MultiSatSchedule → Prop
  | skipped : EntryRun result (.ok (), result)
  | unnamed (what : Str) : EntryRun result (.error what, result)
  | behindId (what : Str) {satId : Str} (listable : Listable satId) : EntryRun result (.error what, result.listId satId)
  | behindInfo (what : Str) {info : SatelliteInfo} (writable : info.Writable) :
    EntryRun result (.error what, result.describe info)
  | whole {info : SatelliteInfo} (writable : info.Writable) {tasks : List TaskSegment}
    (written : WrittenUnder info.satelliteId tasks) : EntryRun result (.ok (), result.record info tasks)

theorem parseTasks_written {satId : Str} {items : List (Json D)} {tasks : List TaskSegment}
    (printable : ∀ item ∈ items, item.Printable) (read : parseTasks satId items = .ok tasks) :
    WrittenUnder satId tasks := fun task mem =>
  ⟨parseTasks_utf8 printable read task mem, parseTasks_owner read task mem⟩

theorem entryRun {satellite : Json D} (printable : satellite.Printable) (result : MultiSatSchedule) :
    EntryRun result (parseSatellite satellite result) := by
  cases id : satelliteIdOf satellite with
  | none =>
    unfold parseSatellite
    unfold satelliteIdOf at id
    split at id
    · rename_i object
      rw [if_pos object]
      cases read : satellite.value Json.getString (lit "satellite_id") [] with
      | error what => exact .unnamed what
      | ok satId =>
        rw [read] at id
        change (if satId.isEmpty then none else some satId) = none at id
        rw [Effect.bind_run_ok (parsing_ok satId result)]
        split
        · exact .skipped
        · rename_i full
          rw [if_neg full] at id
          cases id
    · rename_i other
      rw [if_neg other]
      exact .skipped
  | some satId =>
    obtain ⟨object, idRead, full⟩ := satelliteIdOf_eq_some id
    have listable : Listable satId := by
      refine ⟨fun empty => ?_, printable.valueString validUtf8_nil idRead⟩
      rw [empty] at full
      cases full
    rw [parseSatellite_run id]
    cases nodeRead : satellite.value Json.getString (lit "node_id") satId with
    | error what => exact .behindId what listable
    | ok nodeId =>
      cases nameRead : satellite.value Json.getString (lit "name") satId with
      | error what => exact .behindId what listable
      | ok name =>
        have writable : SatelliteInfo.Writable { satelliteId := satId, nodeId, name } :=
          ⟨listable, printable.valueString listable.utf8 nodeRead, printable.valueString listable.utf8 nameRead⟩
        cases tasksRead : parseTasks satId (scheduledTasks satellite) with
        | error what => exact .behindInfo what writable
        | ok tasks => exact .whole writable (parseTasks_written (scheduledTasks_printable printable) tasksRead)

/-- The entries leave whole entries behind, and a piece of one more only with an exception. -/
theorem parseSatellites_readInPart {satellites : List (Json D)}
    (printable : ∀ satellite ∈ satellites, satellite.Printable) {result : MultiSatSchedule} (fully : result.ReadFully) :
    (parseSatellites satellites result).2.ReadInPart ∧
      ((parseSatellites satellites result).1 = .ok () → (parseSatellites satellites result).2.ReadFully) := by
  induction satellites generalizing result with
  | nil => exact ⟨.whole fully, fun _ => fully⟩
  | cons satellite rest ih =>
    obtain ⟨first, later⟩ := List.forall_mem_cons.1 printable
    have run := entryRun first result
    unfold parseSatellites
    generalize ran : parseSatellite satellite result = outcome at run
    cases run with
    | skipped =>
      rw [Effect.bind_run_ok ran]
      exact ih later fully
    | unnamed what =>
      rw [Effect.bind_run_error ran]
      exact ⟨.whole fully, fun ok => by cases ok⟩
    | behindId what listable =>
      rw [Effect.bind_run_error ran]
      exact ⟨.behindId fully listable, fun ok => by cases ok⟩
    | behindInfo what writable =>
      rw [Effect.bind_run_error ran]
      exact ⟨.behindInfo fully writable, fun ok => by cases ok⟩
    | whole writable written =>
      rw [Effect.bind_run_ok ran]
      exact ih later (fully.record writable written)

end Reading

/-! ## What is written -/

section Writing

variable {D : Type}

def taskToJson (task : TaskSegment) : Json D :=
  .ofMembers [(lit "segment_id", .string task.segmentId), (lit "task_id", .string task.taskId),
    (lit "behavior_ref", .string task.behaviorRef), (lit "behavior_params", .ofStrMap task.behaviorParams)]

/-- The members of a satellite's entry, with this list of tasks. -/
def satelliteMembers (info : SatelliteInfo) (tasks : List (Json D)) : List (Str × Json D) :=
  [(lit "satellite_id", .string info.satelliteId), (lit "node_id", .string info.nodeId),
    (lit "name", .string info.name), (lit "scheduled_tasks", .array tasks)]

def satelliteToJson (info : SatelliteInfo) (tasks : List TaskSegment) : Json D :=
  .ofMembers (satelliteMembers info (tasks.map taskToJson))

def scheduleToJson (entries : List (Json D)) : Json D := .ofMembers [(lit "satellites", .array entries)]

/-- An entry that cannot be read behind its id. -/
def entryBehindId (satId : Str) : Json D := .ofMembers [(lit "satellite_id", .string satId), (lit "node_id", .null)]

/-- An entry that cannot be read behind its description. -/
def entryBehindInfo (info : SatelliteInfo) : Json D :=
  .ofMembers (satelliteMembers info [.ofMembers [(lit "segment_id", .null)]])

/-- The tasks that the schedule lists under an id. -/
def MultiSatSchedule.tasksUnder (schedule : MultiSatSchedule) (satId : Str) : List TaskSegment :=
  (schedule.satelliteTasks.find? satId).getD []

/-- The entries of a schedule, each with its tasks. -/
def MultiSatSchedule.entries (schedule : MultiSatSchedule) : List (Json D) :=
  schedule.satellites.map fun info => satelliteToJson info (schedule.tasksUnder info.satelliteId)

variable [CxxDouble D] (finite : D → Bool)

omit [CxxDouble D] in
theorem isObject_reread (members : List (Str × Json D)) : (Json.reread finite (.ofMembers members)).isObject = true := by
  unfold Json.ofMembers
  rw [Json.reread_ofMap]
  rfl

theorem parseTaskSegment_written {task : TaskSegment} {satId : Str} (owner : task.satelliteId = satId) :
    parseTaskSegment (.reread finite (taskToJson task : Json D)) satId = .ok task := by
  have distinct : (([(lit "segment_id", .string task.segmentId), (lit "task_id", .string task.taskId),
      (lit "behavior_ref", .string task.behaviorRef), (lit "behavior_params", .ofStrMap task.behaviorParams)] :
      List (Str × Json D)).map Prod.fst).Nodup := by
    show ([lit "segment_id", lit "task_id", lit "behavior_ref", lit "behavior_params"] : List Str).Nodup
    decide
  have params : parseScalarObjectToMap (.reread finite (.ofStrMap task.behaviorParams : Json D)) = task.behaviorParams :=
    collected_written _ _ (fun _ => rfl) task.behaviorParams
  unfold parseTaskSegment taskToJson
  rw [Json.reread_getString finite distinct _ task.segmentId (List.mem_of_getElem? (i := 0) rfl),
    Json.reread_getString finite distinct _ task.taskId (List.mem_of_getElem? (i := 1) rfl),
    Json.reread_getString finite distinct _ task.behaviorRef (List.mem_of_getElem? (i := 2) rfl),
    Json.reread_ofMembers_find? finite distinct (List.mem_of_getElem? (i := 3) rfl)]
  simp only [except_ok_bind, params, ← owner]
  rfl

theorem parseTasks_rewritten {satId : Str} {tasks : List TaskSegment} (written : WrittenUnder satId tasks) :
    parseTasks satId (Json.rereadItems finite (tasks.map taskToJson : List (Json D))) = .ok tasks := by
  induction tasks with
  | nil => rfl
  | cons task tasks ih =>
    obtain ⟨first, later⟩ := List.forall_mem_cons.1 written
    have object : (Json.reread finite (taskToJson task : Json D)).isObject = true := isObject_reread finite _
    rw [List.map_cons, Json.rereadItems, parseTasks, if_pos object, parseTaskSegment_written finite first.2, except_ok_bind,
      ih later]
    rfl

omit [CxxDouble D] in
/-- The entry of a satellite is read member by member. -/
theorem satelliteMembers_read {info : SatelliteInfo} (listable : Listable info.satelliteId) (tasks : List (Json D)) :
    satelliteIdOf (.reread finite (.ofMembers (satelliteMembers info tasks))) = some info.satelliteId ∧
    (Json.reread finite (.ofMembers (satelliteMembers info tasks))).value Json.getString (lit "node_id")
      info.satelliteId = .ok info.nodeId ∧
    (Json.reread finite (.ofMembers (satelliteMembers info tasks))).value Json.getString (lit "name")
      info.satelliteId = .ok info.name ∧
    scheduledTasks (.reread finite (.ofMembers (satelliteMembers info tasks))) = Json.rereadItems finite tasks := by
  have distinct : ((satelliteMembers info tasks).map Prod.fst).Nodup := by
    show ([lit "satellite_id", lit "node_id", lit "name", lit "scheduled_tasks"] : List Str).Nodup
    decide
  refine ⟨?_, ?_, ?_, ?_⟩
  · unfold satelliteIdOf
    rw [if_pos (isObject_reread finite _),
      Json.reread_getString finite distinct _ info.satelliteId (List.mem_of_getElem? (i := 0) rfl)]
    exact if_neg fun empty => listable.named (List.isEmpty_iff.1 empty)
  · exact Json.reread_getString finite distinct _ info.nodeId (List.mem_of_getElem? (i := 1) rfl) _
  · exact Json.reread_getString finite distinct _ info.name (List.mem_of_getElem? (i := 2) rfl) _
  · unfold scheduledTasks
    rw [Json.reread_ofMembers_find? finite distinct (List.mem_of_getElem? (i := 3) rfl)]
    rfl

theorem parseSatellite_written {info : SatelliteInfo} (listable : Listable info.satelliteId) {tasks : List TaskSegment}
    (written : WrittenUnder info.satelliteId tasks) (result : MultiSatSchedule) :
    parseSatellite (.reread finite (satelliteToJson info tasks : Json D)) result = (.ok (), result.record info tasks) := by
  obtain ⟨id, node, name, items⟩ :=
    satelliteMembers_read finite listable (tasks.map taskToJson : List (Json D))
  unfold satelliteToJson
  rw [parseSatellite_run id, node, name, items, parseTasks_rewritten finite written]
  rfl

theorem parseSatellite_behindId {satId : Str} (listable : Listable satId) (result : MultiSatSchedule) :
    ∃ what, parseSatellite (.reread finite (entryBehindId satId : Json D)) result =
      (.error what, result.listId satId) := by
  have distinct : (([(lit "satellite_id", .string satId), (lit "node_id", .null)] :
      List (Str × Json D)).map Prod.fst).Nodup := by
    show ([lit "satellite_id", lit "node_id"] : List Str).Nodup
    decide
  have id : satelliteIdOf (.reread finite (entryBehindId satId : Json D)) = some satId := by
    unfold satelliteIdOf entryBehindId
    rw [if_pos (isObject_reread finite _), Json.reread_getString finite distinct _ satId (List.mem_of_getElem? (i := 0) rfl)]
    exact if_neg fun empty => listable.named (List.isEmpty_iff.1 empty)
  have node : (Json.reread finite (entryBehindId satId : Json D)).value Json.getString (lit "node_id") satId =
      Json.getString (.null : Json D) :=
    Json.reread_ofMembers_value finite distinct (List.mem_of_getElem? (i := 1) rfl) _ _
  rw [parseSatellite_run id, node]
  exact ⟨_, rfl⟩

theorem parseSatellite_behindInfo {info : SatelliteInfo} (listable : Listable info.satelliteId)
    (result : MultiSatSchedule) : ∃ what, parseSatellite (.reread finite (entryBehindInfo info : Json D)) result =
      (.error what, result.describe info) := by
  obtain ⟨id, node, name, items⟩ := satelliteMembers_read finite listable
    ([.ofMembers [(lit "segment_id", .null)]] : List (Json D))
  have once : (([(lit "segment_id", .null)] : List (Str × Json D)).map Prod.fst).Nodup := List.nodup_singleton _
  have segment : (Json.reread finite (.ofMembers [(lit "segment_id", .null)] : Json D)).value Json.getString
      (lit "segment_id") [] = Json.getString (.null : Json D) :=
    Json.reread_ofMembers_value finite once (List.mem_singleton_self _) _ _
  have tasks : ∃ what, parseTasks info.satelliteId
      (Json.rereadItems finite ([.ofMembers [(lit "segment_id", .null)]] : List (Json D))) = .error what := by
    unfold Json.rereadItems parseTasks parseTaskSegment
    rw [if_pos (isObject_reread finite _), segment]
    exact ⟨_, rfl⟩
  obtain ⟨what, failed⟩ := tasks
  unfold entryBehindInfo
  rw [parseSatellite_run id, node, name, items, failed]
  exact ⟨what, rfl⟩

/-- Whole entries are read one after the other. -/
theorem parseSatellites_written {tasks : Str → List TaskSegment} (written : ∀ satId, WrittenUnder satId (tasks satId))
    {infos : List SatelliteInfo} (writable : ∀ info ∈ infos, info.Writable) (rest : List (Json D))
    (result : MultiSatSchedule) :
    parseSatellites (Json.rereadItems finite
        (infos.map fun info => satelliteToJson info (tasks info.satelliteId)) ++ rest) result =
      parseSatellites rest (infos.foldl (fun result info => result.record info (tasks info.satelliteId)) result) := by
  induction infos generalizing result with
  | nil => rfl
  | cons info infos ih =>
    obtain ⟨first, later⟩ := List.forall_mem_cons.1 writable
    rw [List.map_cons, Json.rereadItems, List.cons_append, parseSatellites,
      Effect.bind_run_ok (parseSatellite_written finite first.satelliteId (written _) result), ih later]
    rfl

end Writing

/-! ## From the entries back to the schedule -/

namespace MultiSatSchedule

variable {schedule : MultiSatSchedule}

theorem ReadFully.tasksUnder (fully : schedule.ReadFully) (satId : Str) :
    WrittenUnder satId (schedule.tasksUnder satId) := by
  unfold MultiSatSchedule.tasksUnder
  cases found : schedule.satelliteTasks.find? satId with
  | none => exact List.forall_mem_nil _
  | some tasks => exact fully.satelliteTasks satId tasks found

/-- Recording descriptions stores the tasks of each id among them. -/
theorem record_all (tasks : Str → List TaskSegment) (infos : List SatelliteInfo) (result : MultiSatSchedule) :
    let after := infos.foldl (fun result info => result.record info (tasks info.satelliteId)) result
    after.satelliteIds = result.satelliteIds ++ infos.map (·.satelliteId) ∧
    after.satellites = result.satellites ++ infos ∧
    ∀ satId, after.satelliteTasks.find? satId =
      if satId ∈ infos.map (·.satelliteId) then some (tasks satId) else result.satelliteTasks.find? satId := by
  induction infos generalizing result with
  | nil => simp
  | cons info infos ih =>
    obtain ⟨ids, satellites, found⟩ := ih (result.record info (tasks info.satelliteId))
    refine ⟨?_, ?_, fun satId => ?_⟩
    · simpa [MultiSatSchedule.record] using ids
    · simpa [MultiSatSchedule.record] using satellites
    · rw [List.foldl_cons, found satId, List.map_cons]
      show (if _ then _ else (result.satelliteTasks.insert info.satelliteId (tasks info.satelliteId)).find? satId) = _
      rw [OrdMap.find?_insert]
      by_cases later : satId ∈ infos.map (·.satelliteId)
      · rw [if_pos later, if_pos (List.mem_cons_of_mem _ later)]
      · by_cases same : satId = info.satelliteId
        · rw [if_neg later, if_pos same, if_pos (List.mem_cons.2 (Or.inl same)), same]
        · rw [if_neg later, if_neg same, if_neg fun mem => (List.mem_cons.1 mem).elim same later]

/-- The descriptions and the tasks of a fully read schedule are all there is to it. -/
theorem ReadFully.recorded (fully : schedule.ReadFully) :
    schedule.satellites.foldl (fun result info => result.record info (schedule.tasksUnder info.satelliteId)) {} =
      schedule := by
  obtain ⟨ids, satellites, found⟩ := record_all schedule.tasksUnder schedule.satellites {}
  generalize schedule.satellites.foldl _ _ = after at ids satellites found ⊢
  have tasks : after.satelliteTasks = schedule.satelliteTasks := by
    apply OrdMap.ext_find?
    intro satId
    rw [found satId, ← fully.satelliteIds]
    unfold MultiSatSchedule.tasksUnder
    by_cases listed : satId ∈ schedule.satelliteIds
    · obtain ⟨tasks, held⟩ := Option.isSome_iff_exists.1 ((fully.keys satId).2 listed)
      rw [if_pos listed, held]
      rfl
    · rw [if_neg listed]
      cases held : schedule.satelliteTasks.find? satId with
      | none => rfl
      | some tasks => exact absurd ((fully.keys satId).1 (by rw [held]; rfl)) listed
  obtain ⟨afterIds, afterSatellites, afterTasks⟩ := after
  obtain ⟨scheduleIds, scheduleSatellites, scheduleTasks⟩ := schedule
  simp only [List.nil_append] at ids satellites tasks
  rw [ids, satellites, tasks, ← fully.satelliteIds]

end MultiSatSchedule

/-! ## The text of a schedule -/

section Documents

variable {D : Type}

theorem printable_taskToJson {task : TaskSegment} (utf8 : TaskUtf8 task) : (taskToJson task : Json D).Printable := by
  have params : (Json.ofStrMap task.behaviorParams : Json D).Printable := Json.printable_ofStrMap utf8.behaviorParams
  apply Json.printable_ofMembers
  simp [utf8.segmentId, utf8.taskId, utf8.behaviorRef, params]

theorem printable_satelliteMembers {info : SatelliteInfo} (writable : info.Writable) {tasks : List (Json D)}
    (printable : ∀ task ∈ tasks, task.Printable) : (Json.ofMembers (satelliteMembers info tasks)).Printable := by
  apply Json.printable_ofMembers
  simp [satelliteMembers, writable.satelliteId.utf8, writable.nodeId, writable.name, Json.printable_array printable]

theorem printable_satelliteToJson {info : SatelliteInfo} (writable : info.Writable) {satId : Str}
    {tasks : List TaskSegment} (written : WrittenUnder satId tasks) : (satelliteToJson info tasks : Json D).Printable := by
  refine printable_satelliteMembers writable fun item mem => ?_
  obtain ⟨task, listed, rfl⟩ := List.mem_map.1 mem
  exact printable_taskToJson (written task listed).1

theorem printable_entryBehindId {satId : Str} (listable : Listable satId) : (entryBehindId satId : Json D).Printable := by
  apply Json.printable_ofMembers
  simp [listable.utf8, Json.Printable]

theorem printable_entryBehindInfo {info : SatelliteInfo} (writable : info.Writable) :
    (entryBehindInfo info : Json D).Printable := by
  refine printable_satelliteMembers writable (List.forall_mem_singleton.2 (Json.printable_ofMembers ?_))
  simp [Json.Printable]

theorem printable_entries {schedule : MultiSatSchedule} (fully : schedule.ReadFully) :
    ∀ entry ∈ (schedule.entries : List (Json D)), entry.Printable := by
  intro entry mem
  obtain ⟨info, listed, rfl⟩ := List.mem_map.1 mem
  exact printable_satelliteToJson (fully.satellites info listed) (fully.tasksUnder info.satelliteId)

variable [CxxDouble D] (json : JsonLibrary D)

/-- The entries of a schedule, and further ones behind them, have a text from which they are read. -/
theorem read_entries {schedule : MultiSatSchedule} (fully : schedule.ReadFully) (further : List (Json D))
    (printable : ∀ entry ∈ further, entry.Printable) : ∃ text document, json.parse text = .ok document ∧
      parseSatellites (satelliteEntries document) {} =
        parseSatellites (Json.rereadItems json.finite further) schedule := by
  have whole : (scheduleToJson (schedule.entries ++ further) : Json D).Printable := by
    refine Json.printable_ofMembers (List.forall_mem_singleton.2 ⟨validUtf8_lit _, Json.printable_array ?_⟩)
    intro entry mem
    rcases List.mem_append.1 mem with own | behind
    · exact printable_entries fully entry own
    · exact printable entry behind
  obtain ⟨text, -, parsed⟩ := json.parse_dump _ whole
  have once : (([(lit "satellites", .array (schedule.entries ++ further))] : List (Str × Json D)).map Prod.fst).Nodup :=
    List.nodup_singleton _
  have entries : satelliteEntries (Json.reread json.finite (scheduleToJson (schedule.entries ++ further))) =
      Json.rereadItems json.finite schedule.entries ++ Json.rereadItems json.finite further := by
    unfold satelliteEntries scheduleToJson
    rw [Json.reread_ofMembers_find? json.finite once (List.mem_singleton_self _)]
    show Json.rereadItems json.finite (schedule.entries ++ further) = _
    rw [Json.rereadItems_eq_map, List.map_append, ← Json.rereadItems_eq_map, ← Json.rereadItems_eq_map]
  refine ⟨text, _, parsed, ?_⟩
  rw [entries]
  exact (parseSatellites_written json.finite fully.tasksUnder fully.satellites _ {}).trans (by rw [fully.recorded])

/-- The schedules that the parser returns for some text are those of whole entries and at most a piece of one more, and
those it returns for a document that it accepts are those of whole entries. -/
theorem parseAllSatellites_range (schedule : MultiSatSchedule) :
    ((∃ text, parseAllSatellites json (some text) = schedule) ↔ schedule.ReadInPart) ∧
    ((∃ text document, AcceptedBy json text document ∧ parseAllSatellites json (some text) = schedule) ↔
      schedule.ReadFully) := by
  have returned : ∀ {text document}, json.parse text = .ok document →
      parseAllSatellites json (some text) = (parseSatellites (satelliteEntries document) {}).2 := by
    intro text document parsed
    unfold parseAllSatellites
    simp only [parsed]
  refine ⟨⟨?_, ?_⟩, ?_, ?_⟩
  · rintro ⟨text, rfl⟩
    cases parsed : json.parse text with
    | error what =>
      unfold parseAllSatellites
      simp only [parsed]
      exact .whole MultiSatSchedule.readFully_empty
    | ok document =>
      rw [returned parsed]
      exact (parseSatellites_readInPart (satelliteEntries_printable (json.parse_printable text document parsed))
        MultiSatSchedule.readFully_empty).1
  · intro part
    cases part with
    | whole fully =>
      obtain ⟨text, document, parsed, run⟩ := read_entries json fully [] (List.forall_mem_nil _)
      exact ⟨text, by rw [returned parsed, run]; rfl⟩
    | behindId fully listable =>
      obtain ⟨text, document, parsed, run⟩ := read_entries json fully [entryBehindId _]
        (List.forall_mem_singleton.2 (printable_entryBehindId listable))
      obtain ⟨what, ends⟩ := parseSatellite_behindId json.finite listable _
      refine ⟨text, ?_⟩
      rw [returned parsed, run, Json.rereadItems, parseSatellites, Effect.bind_run_error ends]
    | behindInfo fully writable =>
      obtain ⟨text, document, parsed, run⟩ := read_entries json fully [entryBehindInfo _]
        (List.forall_mem_singleton.2 (printable_entryBehindInfo writable))
      obtain ⟨what, ends⟩ := parseSatellite_behindInfo json.finite writable.satelliteId _
      refine ⟨text, ?_⟩
      rw [returned parsed, run, Json.rereadItems, parseSatellites, Effect.bind_run_error ends]
  · rintro ⟨text, document, ⟨parsed, accepted⟩, rfl⟩
    rw [returned parsed]
    exact (parseSatellites_readInPart (satelliteEntries_printable (json.parse_printable text document parsed))
      MultiSatSchedule.readFully_empty).2 accepted
  · intro fully
    obtain ⟨text, document, parsed, run⟩ := read_entries json fully [] (List.forall_mem_nil _)
    exact ⟨text, document, ⟨parsed, by rw [run]; rfl⟩, by rw [returned parsed, run]; rfl⟩

end Documents

end Actuator.Parser
