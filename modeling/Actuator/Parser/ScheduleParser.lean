import Actuator.Core.Types
import Actuator.Lib.Effect
import Actuator.Lib.Json

/-!
# Schedules

`ScheduleParser::parseAllSatellites`: one loop over the document's satellites
fills three collections. Typed reads may throw; the exception is caught around
the loop, and what was collected before it is what the caller gets.
-/

namespace Actuator.Parser

open Actuator.Lib Actuator.Core

variable {D : Type}

structure SatelliteInfo where
  satelliteId : Str
  nodeId : Str
  name : Str
deriving DecidableEq

structure MultiSatSchedule where
  satelliteIds : List Str := []
  satellites : List SatelliteInfo := []
  satelliteTasks : OrdMap Str (List TaskSegment) := OrdMap.empty

/-- `std::to_string` of the number as a `long long`. -/
def longLongToString (n : Int) : Str := lit (toString (Int64.ofInt n).toInt)

/-- `jsonScalarToString`, or `none` when the value is no scalar. -/
def jsonScalarToString [CxxDouble D] : Json D → Option Str
  | .string s => some s
  | .int n => some (longLongToString n)
  | .float x => some (lit (CxxDouble.toStream x))
  | .bool b => some (if b then lit "true" else lit "false")
  | _ => none

/-- `parseScalarObjectToMap`: the scalar members of an object. -/
def parseScalarObjectToMap [CxxDouble D] : Json D → StrMap
  | .object members => OrdMap.ofList (members.filterMap fun member => (jsonScalarToString member.2).map (member.1, ·))
  | _ => OrdMap.empty

variable [CxxDouble D]

def parseTaskSegment (taskJson : Json D) (satId : Str) : Except Str TaskSegment := do
  let segmentId ← taskJson.value Json.getString (lit "segment_id") []
  let taskId ← taskJson.value Json.getString (lit "task_id") []
  let behaviorRef ← taskJson.value Json.getString (lit "behavior_ref") []
  let behaviorParams := match taskJson.find? (lit "behavior_params") with
    | some params => parseScalarObjectToMap params
    | none => OrdMap.empty
  return { segmentId, taskId, satelliteId := satId, behaviorRef, behaviorParams }

/-- The loop over `scheduled_tasks`, which skips what is no object. -/
def parseTasks (satId : Str) : List (Json D) → Except Str (List TaskSegment)
  | [] => .ok []
  | taskJson :: rest =>
    if taskJson.isObject then do
      let task ← parseTaskSegment taskJson satId
      return task :: (← parseTasks satId rest)
    else parseTasks satId rest

/-- The elements of `scheduled_tasks`, if it is an array. -/
def scheduledTasks (satellite : Json D) : List (Json D) :=
  match satellite.find? (lit "scheduled_tasks") with
  | some (.array items) => items
  | _ => []

/-- A part of the parser that may throw. -/
def parsing {α : Type} (x : Except Str α) : Effect MultiSatSchedule Str α := Effect.readThrowing fun _ => x

/-- One round of the loop over `satellites`. -/
def parseSatellite (satellite : Json D) : Effect MultiSatSchedule Str Unit :=
  if satellite.isObject then do
    let satId ← parsing (satellite.value Json.getString (lit "satellite_id") [])
    if satId.isEmpty then return
    Effect.modify fun result => { result with satelliteIds := result.satelliteIds ++ [satId] }
    let nodeId ← parsing (satellite.value Json.getString (lit "node_id") satId)
    let name ← parsing (satellite.value Json.getString (lit "name") satId)
    Effect.modify fun result => { result with
      satellites := result.satellites ++ [{ satelliteId := satId, nodeId, name }] }
    let tasks ← parsing (parseTasks satId (scheduledTasks satellite))
    Effect.modify fun result => { result with satelliteTasks := result.satelliteTasks.insert satId tasks }
  else pure ()

def parseSatellites : List (Json D) → Effect MultiSatSchedule Str Unit
  | [] => pure ()
  | satellite :: rest => do
    parseSatellite satellite
    parseSatellites rest

/-- The elements of `satellites`, if it is an array. -/
def satelliteEntries (schedule : Json D) : List (Json D) :=
  match schedule.find? (lit "satellites") with
  | some (.array items) => items
  | _ => []

/-- `parseAllSatellites` on the text of the file, or on `none` when it cannot be opened. -/
def parseAllSatellites (json : JsonLibrary D) (scheduleFile : Option Str) : MultiSatSchedule :=
  match scheduleFile with
  | none => {}
  | some text =>
    match json.parse text with
    | .error _ => {}
    | .ok schedule => (parseSatellites (satelliteEntries schedule) {}).2

/-- The document is read without an exception. -/
def AcceptedBy (json : JsonLibrary D) (text : Str) (schedule : Json D) : Prop :=
  json.parse text = .ok schedule ∧ (parseSatellites (satelliteEntries schedule) {}).1 = .ok ()

/-! ## Accepted documents -/

/-- The id an entry carries, or `none` when the parser skips the entry as one that lacks an id. -/
def satelliteIdOf (satellite : Json D) : Option Str :=
  if satellite.isObject then
    match satellite.value Json.getString (lit "satellite_id") [] with
    | .ok satId => if satId.isEmpty then none else some satId
    | .error _ => none
  else none

/-- The entry carries this id. -/
def carries (satId : Str) (satellite : Json D) : Bool := satelliteIdOf satellite = some satId

/-- The task objects that an entry lists. -/
def listedIn (satId : Str) (satellite : Json D) : List TaskSegment :=
  match parseTasks satId (scheduledTasks satellite) with
  | .ok tasks => tasks
  | .error _ => []

/-- What one entry with an id adds to the three collections. -/
def MultiSatSchedule.record (result : MultiSatSchedule) (info : SatelliteInfo) (tasks : List TaskSegment) :
    MultiSatSchedule where
  satelliteIds := result.satelliteIds ++ [info.satelliteId]
  satellites := result.satellites ++ [info]
  satelliteTasks := result.satelliteTasks.insert info.satelliteId tasks

theorem parsing_eq_ok {α : Type} {x : Except Str α} {result result' : MultiSatSchedule} {a : α}
    (run : parsing x result = (.ok a, result')) : x = .ok a ∧ result' = result := by
  obtain ⟨out, same⟩ := Prod.mk.inj run
  exact ⟨out, same.symm⟩

theorem parseSatellite_ok {satellite : Json D} {result result' : MultiSatSchedule}
    (run : parseSatellite satellite result = (.ok (), result')) :
    (satelliteIdOf satellite = none ∧ result' = result) ∨
      ∃ info : SatelliteInfo, satelliteIdOf satellite = some info.satelliteId ∧
        result' = result.record info (listedIn info.satelliteId satellite) := by
  unfold parseSatellite at run
  unfold satelliteIdOf
  split at run
  · rename_i object
    rw [if_pos object]
    obtain ⟨satId, r₁, readId, run₁⟩ := Effect.bind_eq_ok run
    obtain ⟨idRead, rfl⟩ := parsing_eq_ok readId
    rw [idRead]
    by_cases empty : satId.isEmpty
    · rw [if_pos empty] at run₁
      cases run₁
      exact .inl ⟨if_pos empty, rfl⟩
    · rw [if_neg empty] at run₁
      obtain ⟨_, r₂, pushed, run₂⟩ := Effect.bind_eq_ok run₁
      cases pushed
      obtain ⟨nodeId, r₃, readNode, run₃⟩ := Effect.bind_eq_ok run₂
      obtain ⟨_, rfl⟩ := parsing_eq_ok readNode
      obtain ⟨name, r₄, readName, run₄⟩ := Effect.bind_eq_ok run₃
      obtain ⟨_, rfl⟩ := parsing_eq_ok readName
      obtain ⟨_, r₅, added, run₅⟩ := Effect.bind_eq_ok run₄
      cases added
      obtain ⟨tasks, r₆, readTasks, run₆⟩ := Effect.bind_eq_ok run₅
      obtain ⟨tasksRead, rfl⟩ := parsing_eq_ok readTasks
      cases run₆
      refine .inr ⟨{ satelliteId := satId, nodeId, name }, if_neg empty, ?_⟩
      unfold listedIn MultiSatSchedule.record
      rw [tasksRead]
  · rename_i other
    cases run
    exact .inl ⟨if_neg other, rfl⟩

/-- The schedule holds every entry that carries an id, in document order, and for each id the tasks of the last
entry that carries it. -/
structure Records (entries : List (Json D)) (schedule : MultiSatSchedule) : Prop where
  satelliteIds : schedule.satelliteIds = entries.filterMap satelliteIdOf
  satellites : schedule.satellites.map (·.satelliteId) = schedule.satelliteIds
  satelliteTasks : ∀ satId, schedule.satelliteTasks.find? satId =
    (entries.filter (carries satId)).getLast?.map (listedIn satId)

theorem Records.next {before : List (Json D)} {satellite : Json D} {result result' : MultiSatSchedule}
    (records : Records before result) (run : parseSatellite satellite result = (.ok (), result')) :
    Records (before ++ [satellite]) result' := by
  rcases parseSatellite_ok run with ⟨idless, rfl⟩ | ⟨info, id, rfl⟩
  · refine ⟨by simp [records.satelliteIds, idless], records.satellites, fun satId => ?_⟩
    have other : carries satId satellite = false := by simp [carries, idless]
    rw [records.satelliteTasks, List.filter_append, List.filter_singleton, other]
    simp
  · refine ⟨by simp [MultiSatSchedule.record, records.satelliteIds, id],
      by simp [MultiSatSchedule.record, records.satellites], fun satId => ?_⟩
    show (result.satelliteTasks.insert info.satelliteId _).find? satId = _
    rw [OrdMap.find?_insert, List.filter_append, List.filter_singleton]
    by_cases same : satId = info.satelliteId
    · have own : carries satId satellite = true := by simp [carries, id, same]
      rw [if_pos same, own, same]
      simp
    · have other : carries satId satellite = false := by simpa [carries, id] using Ne.symm same
      rw [if_neg same, other, records.satelliteTasks]
      simp

theorem Records.run {before satellites : List (Json D)} {result result' : MultiSatSchedule}
    (records : Records before result) (run : parseSatellites satellites result = (.ok (), result')) :
    Records (before ++ satellites) result' := by
  induction satellites generalizing before result with
  | nil =>
    cases run
    rw [List.append_nil]
    exact records
  | cons satellite rest ih =>
    obtain ⟨_, r₁, first, later⟩ := Effect.bind_eq_ok run
    have := ih (records.next first) later
    rwa [List.append_assoc, List.singleton_append] at this

theorem records_none : Records ([] : List (Json D)) {} := ⟨rfl, rfl, fun _ => rfl⟩

theorem records_of_acceptedBy {json : JsonLibrary D} {text : Str} {schedule : Json D}
    (accepted : AcceptedBy json text schedule) :
    Records (satelliteEntries schedule) (parseAllSatellites json (some text)) := by
  obtain ⟨parsed, ran⟩ := accepted
  rcases run : parseSatellites (satelliteEntries schedule) {} with ⟨out, result⟩
  rw [run] at ran
  cases ran
  unfold parseAllSatellites
  simp only [parsed, run]
  exact records_none.run run

/-! ## Well-formed schedules -/

/-- All texts of the task are valid UTF-8. -/
structure TaskUtf8 (task : TaskSegment) : Prop where
  segmentId : ValidUtf8 task.segmentId
  taskId : ValidUtf8 task.taskId
  behaviorRef : ValidUtf8 task.behaviorRef
  behaviorParams : Json.Utf8Map task.behaviorParams

/-- What holds of every schedule the parser returns: all texts are valid UTF-8, and a task names the satellite it is
listed under. -/
structure MultiSatSchedule.WellFormed (schedule : MultiSatSchedule) : Prop where
  satelliteIds : ∀ satId ∈ schedule.satelliteIds, ValidUtf8 satId
  satellites : ∀ info ∈ schedule.satellites, ValidUtf8 info.nodeId
  satelliteTasks : ∀ satId tasks, schedule.satelliteTasks.find? satId = some tasks → ∀ task ∈ tasks, TaskUtf8 task
  owners : ∀ satId tasks, schedule.satelliteTasks.find? satId = some tasks → ∀ task ∈ tasks, task.satelliteId = satId

theorem jsonScalarToString_utf8 {j : Json D} {text : Str} (printable : j.Printable)
    (scalar : jsonScalarToString j = some text) : ValidUtf8 text := by
  cases j with
  | string s =>
    cases scalar
    exact printable
  | int n =>
    cases scalar
    exact validUtf8_lit _
  | float x =>
    cases scalar
    exact validUtf8_lit _
  | bool b =>
    cases scalar
    cases b
    · exact validUtf8_lit _
    · exact validUtf8_lit _
  | _ => cases scalar

theorem parseScalarObjectToMap_utf8 {params : Json D} (printable : params.Printable) :
    Json.Utf8Map (parseScalarObjectToMap params) := by
  intro key text held
  cases params with
  | object members =>
    obtain ⟨member, inside, eq⟩ := List.mem_filterMap.1 (OrdMap.mem_of_find?_ofList held)
    obtain ⟨value, scalar, same⟩ := Option.map_eq_some_iff.1 eq
    cases same
    have all := (Json.printableMembers_iff members).1 printable.2 member inside
    exact ⟨all.1, jsonScalarToString_utf8 all.2 scalar⟩
  | _ => cases held

theorem parseTaskSegment_utf8 {taskJson : Json D} {satId : Str} {task : TaskSegment} (printable : taskJson.Printable)
    (read : parseTaskSegment taskJson satId = .ok task) : TaskUtf8 task := by
  unfold parseTaskSegment at read
  obtain ⟨segmentId, segmentRead, rest₁⟩ := except_bind_eq_ok read
  obtain ⟨taskId, taskRead, rest₂⟩ := except_bind_eq_ok rest₁
  obtain ⟨behaviorRef, refRead, rest₃⟩ := except_bind_eq_ok rest₂
  cases rest₃
  refine ⟨printable.valueString validUtf8_nil segmentRead, printable.valueString validUtf8_nil taskRead,
    printable.valueString validUtf8_nil refRead, ?_⟩
  intro key text held
  split at held
  · rename_i params found
    exact parseScalarObjectToMap_utf8 (printable.find? found).2 key text held
  · cases held

theorem parseTasks_utf8 {satId : Str} {items : List (Json D)} {tasks : List TaskSegment}
    (printable : ∀ item ∈ items, item.Printable) (read : parseTasks satId items = .ok tasks) :
    ∀ task ∈ tasks, TaskUtf8 task := by
  induction items generalizing tasks with
  | nil =>
    cases read
    simp
  | cons taskJson rest ih =>
    obtain ⟨first, later⟩ := List.forall_mem_cons.1 printable
    unfold parseTasks at read
    split at read
    · obtain ⟨task, taskRead, rest₁⟩ := except_bind_eq_ok read
      obtain ⟨tasks', restRead, rest₂⟩ := except_bind_eq_ok rest₁
      cases rest₂
      exact List.forall_mem_cons.2 ⟨parseTaskSegment_utf8 first taskRead, ih later restRead⟩
    · exact ih later read

theorem parseTasks_owner {satId : Str} {items : List (Json D)} {tasks : List TaskSegment}
    (read : parseTasks satId items = .ok tasks) : ∀ task ∈ tasks, task.satelliteId = satId := by
  induction items generalizing tasks with
  | nil =>
    cases read
    simp
  | cons taskJson rest ih =>
    unfold parseTasks at read
    split at read
    · obtain ⟨task, taskRead, rest₁⟩ := except_bind_eq_ok read
      obtain ⟨tasks', restRead, rest₂⟩ := except_bind_eq_ok rest₁
      cases rest₂
      refine List.forall_mem_cons.2 ⟨?_, ih restRead⟩
      unfold parseTaskSegment at taskRead
      obtain ⟨_, _, taskRead₁⟩ := except_bind_eq_ok taskRead
      obtain ⟨_, _, taskRead₂⟩ := except_bind_eq_ok taskRead₁
      obtain ⟨_, _, taskRead₃⟩ := except_bind_eq_ok taskRead₂
      cases taskRead₃
      rfl
    · exact ih read

omit [CxxDouble D] in
theorem scheduledTasks_printable {satellite : Json D} (printable : satellite.Printable) :
    ∀ item ∈ scheduledTasks satellite, item.Printable := by
  unfold scheduledTasks
  split
  · rename_i items found
    exact (Json.printableItems_iff items).1 (printable.find? found).2
  · simp

omit [CxxDouble D] in
theorem satelliteEntries_printable {schedule : Json D} (printable : schedule.Printable) :
    ∀ satellite ∈ satelliteEntries schedule, satellite.Printable := by
  unfold satelliteEntries
  split
  · rename_i items found
    exact (Json.printableItems_iff items).1 (printable.find? found).2
  · simp

theorem parseSatellite_wellFormed {satellite : Json D} (printable : satellite.Printable) :
    Effect.Keeps (Effect.Maintains MultiSatSchedule.WellFormed) (parseSatellite satellite) := by
  unfold parseSatellite
  refine .ite (fun _ => ?_) (fun _ => Effect.keeps_pure _)
  refine .bind_value fun satId idRead => ?_
  have idUtf8 := printable.valueString validUtf8_nil idRead
  refine .ite (fun _ => Effect.keeps_pure _) (fun _ => ?_)
  refine .bind (Effect.keeps_modify fun result held => ?_) fun _ => ?_
  · exact ⟨by simpa [or_imp, forall_and] using ⟨held.satelliteIds, idUtf8⟩, held.satellites, held.satelliteTasks,
      held.owners⟩
  refine .bind_value fun nodeId nodeRead => .bind_value fun name _ => ?_
  have nodeUtf8 := printable.valueString idUtf8 nodeRead
  refine .bind (Effect.keeps_modify fun result held => ?_) fun _ => ?_
  · exact ⟨held.satelliteIds, by simpa [or_imp, forall_and] using ⟨held.satellites, nodeUtf8⟩, held.satelliteTasks,
      held.owners⟩
  refine .bind_value fun tasks tasksRead => ?_
  refine Effect.keeps_modify fun result held => ⟨held.satelliteIds, held.satellites, ?_, ?_⟩
  · intro id listed found
    rw [OrdMap.find?_insert] at found
    split at found
    · cases found
      exact parseTasks_utf8 (scheduledTasks_printable printable) tasksRead
    · exact held.satelliteTasks id listed found
  · intro id listed found
    rw [OrdMap.find?_insert] at found
    split at found
    · rename_i same
      cases found
      rw [same]
      exact parseTasks_owner tasksRead
    · exact held.owners id listed found

theorem parseSatellites_wellFormed {satellites : List (Json D)} (printable : ∀ satellite ∈ satellites, satellite.Printable) :
    Effect.Keeps (Effect.Maintains MultiSatSchedule.WellFormed) (parseSatellites satellites) := by
  induction satellites with
  | nil => exact Effect.keeps_pure _
  | cons satellite rest ih =>
    obtain ⟨first, later⟩ := List.forall_mem_cons.1 printable
    exact (parseSatellite_wellFormed first).bind fun _ => ih later

theorem wellFormed_empty : MultiSatSchedule.WellFormed {} := ⟨by simp, by simp, by simp, by simp⟩

/-- However much of the document was read before an exception. -/
theorem parseAllSatellites_wellFormed (json : JsonLibrary D) (scheduleFile : Option Str) :
    (parseAllSatellites json scheduleFile).WellFormed := by
  unfold parseAllSatellites
  split
  · exact wellFormed_empty
  · split
    · exact wellFormed_empty
    · rename_i text _ schedule read
      exact parseSatellites_wellFormed (satelliteEntries_printable (json.parse_printable text schedule read)) {} wellFormed_empty

/-! ## Tasks and their satellites -/

/-- Whatever id has tasks is not empty and was described before. -/
def MultiSatSchedule.Described (schedule : MultiSatSchedule) : Prop :=
  ∀ satId, (schedule.satelliteTasks.find? satId).isSome → satId ≠ [] ∧
    satId ∈ schedule.satellites.map (·.satelliteId)

/-- The tasks are stored behind the description. -/
theorem storeTasks_described {satId : Str} {tasks : Except Str (List TaskSegment)} (named : satId ≠ [])
    {result : MultiSatSchedule} (described : result.Described) (listed : satId ∈ result.satellites.map (·.satelliteId)) :
    ((parsing tasks >>= fun tasks => Effect.modify fun result => { result with
      satelliteTasks := result.satelliteTasks.insert satId tasks } : Effect _ Str Unit) result).2.Described := by
  cases tasks with
  | error what => exact described
  | ok tasks =>
    intro other found
    change ((result.satelliteTasks.insert satId tasks).find? other).isSome at found
    rw [OrdMap.find?_insert] at found
    split at found
    · rename_i same
      exact ⟨same ▸ named, same ▸ listed⟩
    · exact described other found

theorem parseSatellite_described (satellite : Json D) :
    Effect.Keeps (Effect.Maintains MultiSatSchedule.Described) (parseSatellite satellite) := by
  unfold parseSatellite
  refine .ite (fun _ => ?_) (fun _ => Effect.keeps_pure _)
  refine .bind_value fun satId _ => ?_
  refine .ite (fun _ => Effect.keeps_pure _) (fun named => ?_)
  refine .bind (Effect.keeps_modify fun result described => described) fun _ => ?_
  refine .bind_value fun nodeId _ => .bind_value fun name _ => fun result described => ?_
  apply storeTasks_described (by simpa using named)
  · intro other tasks
    obtain ⟨some, listed⟩ := described other tasks
    exact ⟨some, by simpa using .inl (by simpa using listed)⟩
  · simp

theorem parseSatellites_described (satellites : List (Json D)) :
    Effect.Keeps (Effect.Maintains MultiSatSchedule.Described) (parseSatellites satellites) := by
  induction satellites with
  | nil => exact Effect.keeps_pure _
  | cons satellite rest ih => exact (parseSatellite_described satellite).bind fun _ => ih

theorem parseAllSatellites_described (json : JsonLibrary D) (scheduleFile : Option Str) :
    (parseAllSatellites json scheduleFile).Described := by
  have empty : MultiSatSchedule.Described {} := fun satId tasks => by simp at tasks
  unfold parseAllSatellites
  split
  · exact empty
  · split
    · exact empty
    · exact parseSatellites_described _ {} empty

/-! ## Satellites and their ids -/

/-- No satellite has an empty id, and whatever is described is listed. -/
structure MultiSatSchedule.Named (schedule : MultiSatSchedule) : Prop where
  named : [] ∉ schedule.satelliteIds
  listed : ∀ info ∈ schedule.satellites, info.satelliteId ∈ schedule.satelliteIds

theorem parseSatellite_named (satellite : Json D) :
    Effect.Keeps (Effect.Maintains MultiSatSchedule.Named) (parseSatellite satellite) := by
  unfold parseSatellite
  refine .ite (fun _ => ?_) (fun _ => Effect.keeps_pure _)
  refine .bind_value fun satId _ => ?_
  refine .ite (fun _ => Effect.keeps_pure _) (fun nonempty => ?_)
  -- The id is listed before the rest of the entry is read.
  have entered : ∀ result : MultiSatSchedule, result.Named →
      MultiSatSchedule.Named { result with satelliteIds := result.satelliteIds ++ [satId] } := by
    intro result held
    refine ⟨fun mem => ?_, fun info mem => List.mem_append_left _ (held.listed info mem)⟩
    rcases List.mem_append.1 mem with before | new
    · exact held.named before
    · rw [← List.mem_singleton.1 new] at nonempty
      exact nonempty rfl
  have rest : Effect.Keeps
      (Effect.Maintains fun result : MultiSatSchedule => result.Named ∧ satId ∈ result.satelliteIds) (do
        let nodeId ← parsing (satellite.value Json.getString (lit "node_id") satId)
        let name ← parsing (satellite.value Json.getString (lit "name") satId)
        Effect.modify fun result => { result with
          satellites := result.satellites ++ [{ satelliteId := satId, nodeId, name }] }
        let tasks ← parsing (parseTasks satId (scheduledTasks satellite))
        Effect.modify fun result => { result with
          satelliteTasks := result.satelliteTasks.insert satId tasks } : Effect MultiSatSchedule Str Unit) := by
    refine .bind_value fun nodeId _ => .bind_value fun name _ => ?_
    refine .bind (Effect.keeps_modify fun result held => ?_) fun _ => .bind_value fun tasks _ => ?_
    · refine ⟨⟨held.1.named, fun info mem => ?_⟩, held.2⟩
      rcases List.mem_append.1 mem with before | new
      · exact held.1.listed info before
      · rw [List.mem_singleton.1 new]
        exact held.2
    · exact Effect.keeps_modify fun result held => ⟨⟨held.1.named, held.1.listed⟩, held.2⟩
  intro result held
  exact (rest { result with satelliteIds := result.satelliteIds ++ [satId] } ⟨entered result held, by simp⟩).1

theorem parseSatellites_named (satellites : List (Json D)) :
    Effect.Keeps (Effect.Maintains MultiSatSchedule.Named) (parseSatellites satellites) := by
  induction satellites with
  | nil => exact Effect.keeps_pure _
  | cons satellite rest ih => exact (parseSatellite_named satellite).bind fun _ => ih

theorem parseAllSatellites_named (json : JsonLibrary D) (scheduleFile : Option Str) :
    (parseAllSatellites json scheduleFile).Named := by
  have empty : MultiSatSchedule.Named {} := ⟨List.not_mem_nil, by simp⟩
  unfold parseAllSatellites
  split
  · exact empty
  · split
    · exact empty
    · exact parseSatellites_named _ {} empty

end Actuator.Parser
