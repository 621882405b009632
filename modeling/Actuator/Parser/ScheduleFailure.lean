import Actuator.Lib.JsonText
import Actuator.Parser.ScheduleParser

/-!
# Schedules that are read in part

An entry's id is stored before its other fields are read. When one of these
has the wrong type, the loop ends there, and the caller gets the entries before
it and the bare id. So a schedule is complete exactly when every field that is
read has its type (`parseAllSatellites_complete_iff`).
-/

namespace Actuator.Parser

open Actuator.Lib Actuator.Core

variable {D : Type}

/-! ## Fields of the expected types -/

/-- The member is a text or missing. -/
def textOrAbsent (j : Json D) (key : Str) : Bool :=
  match j.find? key with
  | none => true
  | some (.string _) => true
  | _ => false

/-- The fields of a task that the parser reads are texts. What is no object is skipped. -/
def readableTask (taskJson : Json D) : Bool :=
  !taskJson.isObject || (textOrAbsent taskJson (lit "segment_id") && textOrAbsent taskJson (lit "task_id") &&
    textOrAbsent taskJson (lit "behavior_ref"))

/-- The fields of an entry that the parser reads behind the id are texts. -/
def readable (satellite : Json D) : Bool :=
  textOrAbsent satellite (lit "node_id") && textOrAbsent satellite (lit "name") &&
    (scheduledTasks satellite).all readableTask

theorem value_ok_of_text {j : Json D} (object : j.isObject = true) {key : Str} (text : textOrAbsent j key = true)
    (default : Str) : ∃ s, j.value Json.getString key default = .ok s := by
  cases j with
  | object members =>
    cases found : OrdMap.lookupEntry key members with
    | none => exact ⟨default, by simp only [Json.value, found]⟩
    | some member =>
      cases member with
      | string s => exact ⟨s, by simp only [Json.value, found, Json.getString]⟩
      | _ => simp [textOrAbsent, Json.find?, found] at text
  | _ => cases object

theorem value_error_of_not_text {j : Json D} {key : Str} (text : textOrAbsent j key = false) (default : Str) :
    ∃ what, j.value Json.getString key default = .error what := by
  cases j with
  | object members =>
    cases found : OrdMap.lookupEntry key members with
    | none => simp [textOrAbsent, Json.find?, found] at text
    | some member =>
      cases member with
      | string s => simp [textOrAbsent, Json.find?, found] at text
      | _ =>
        simp only [Json.value, found]
        exact ⟨_, rfl⟩
  | _ => exact ⟨_, rfl⟩

variable [CxxDouble D]

theorem parseTaskSegment_ok {taskJson : Json D} (object : taskJson.isObject = true)
    (fields : readableTask taskJson = true) (satId : Str) : ∃ task, parseTaskSegment taskJson satId = .ok task := by
  unfold readableTask at fields
  rw [object, Bool.not_true, Bool.false_or, Bool.and_eq_true, Bool.and_eq_true] at fields
  obtain ⟨⟨segment, task⟩, behavior⟩ := fields
  obtain ⟨segmentId, segmentRead⟩ := value_ok_of_text object segment []
  obtain ⟨taskId, taskRead⟩ := value_ok_of_text object task []
  obtain ⟨behaviorRef, behaviorRead⟩ := value_ok_of_text object behavior []
  unfold parseTaskSegment
  rw [segmentRead, taskRead, behaviorRead]
  exact ⟨_, rfl⟩

theorem parseTaskSegment_error {taskJson : Json D} (object : taskJson.isObject = true)
    (fields : readableTask taskJson = false) (satId : Str) :
    ∃ what, parseTaskSegment taskJson satId = .error what := by
  unfold readableTask at fields
  rw [object, Bool.not_true, Bool.false_or] at fields
  unfold parseTaskSegment
  cases segment : textOrAbsent taskJson (lit "segment_id") with
  | false =>
    obtain ⟨what, failed⟩ := value_error_of_not_text segment []
    exact ⟨what, by rw [failed]; rfl⟩
  | true =>
    obtain ⟨segmentId, segmentRead⟩ := value_ok_of_text object segment []
    cases task : textOrAbsent taskJson (lit "task_id") with
    | false =>
      obtain ⟨what, failed⟩ := value_error_of_not_text task []
      exact ⟨what, by rw [segmentRead, failed]; rfl⟩
    | true =>
      obtain ⟨taskId, taskRead⟩ := value_ok_of_text object task []
      rw [segment, task] at fields
      obtain ⟨what, failed⟩ := value_error_of_not_text fields []
      exact ⟨what, by rw [segmentRead, taskRead, failed]; rfl⟩

/-- The loop over the tasks ends without an exception if and only if every task is readable. -/
theorem parseTasks_ok_iff (satId : Str) (items : List (Json D)) :
    (∃ tasks, parseTasks satId items = .ok tasks) ↔ items.all readableTask = true := by
  induction items with
  | nil => exact iff_of_true ⟨[], rfl⟩ rfl
  | cons taskJson rest ih =>
    unfold parseTasks
    rw [List.all_cons, Bool.and_eq_true, ← ih]
    by_cases object : taskJson.isObject = true
    · rw [if_pos object]
      cases fields : readableTask taskJson with
      | false =>
        obtain ⟨what, failed⟩ := parseTaskSegment_error object fields satId
        rw [failed]
        exact iff_of_false (fun ok => by obtain ⟨_, run⟩ := ok; cases run) (by simp)
      | true =>
        obtain ⟨task, read⟩ := parseTaskSegment_ok object fields satId
        rw [read, except_ok_bind]
        constructor
        · intro ok
          obtain ⟨_, run⟩ := ok
          obtain ⟨tasks, later, _⟩ := except_bind_eq_ok run
          exact ⟨rfl, tasks, later⟩
        · intro both
          obtain ⟨_, tasks, later⟩ := both
          rw [later]
          exact ⟨_, rfl⟩
    · rw [if_neg object]
      have skipped : readableTask taskJson = true := by simp [readableTask, object]
      rw [skipped, eq_self, true_and]

/-! ## One entry -/

/-- The id of the entry, if there is one, is a text. -/
def IdIsText (satellite : Json D) : Prop :=
  satellite.isObject = true → ∃ satId, satellite.value Json.getString (lit "satellite_id") [] = .ok satId

omit [CxxDouble D] in
theorem satelliteIdOf_eq_some {satellite : Json D} {satId : Str} (id : satelliteIdOf satellite = some satId) :
    satellite.isObject = true ∧ satellite.value Json.getString (lit "satellite_id") [] = .ok satId ∧
      satId.isEmpty = false := by
  unfold satelliteIdOf at id
  split at id
  · rename_i object
    split at id
    · rename_i read idRead
      split at id
      · cases id
      · rename_i full
        cases id
        exact ⟨object, idRead, Bool.eq_false_iff.2 full⟩
    · cases id
  · cases id

/-- An entry without an id is skipped. -/
theorem parseSatellite_idless {satellite : Json D} (text : IdIsText satellite) (idless : satelliteIdOf satellite = none)
    (result : MultiSatSchedule) : parseSatellite satellite result = (.ok (), result) := by
  unfold parseSatellite
  unfold satelliteIdOf at idless
  by_cases object : satellite.isObject = true
  · obtain ⟨satId, idRead⟩ := text object
    rw [if_pos object, idRead] at idless
    have empty : satId.isEmpty = true := by
      by_contra full
      change (if satId.isEmpty then none else some satId) = none at idless
      rw [if_neg full] at idless
      cases idless
    rw [if_pos object, idRead, Effect.bind_run_ok (rfl : parsing (.ok satId) result = (.ok satId, result)), if_pos empty]
    rfl
  · rw [if_neg object]
    rfl

theorem parsing_ok {α : Type} (a : α) (result : MultiSatSchedule) : parsing (.ok a) result = (.ok a, result) := rfl

/-- What the parser does with an entry after it has stored the id. -/
theorem parseSatellite_run {satellite : Json D} {satId : Str} (id : satelliteIdOf satellite = some satId)
    (result : MultiSatSchedule) : parseSatellite satellite result = (do
      let nodeId ← parsing (satellite.value Json.getString (lit "node_id") satId)
      let name ← parsing (satellite.value Json.getString (lit "name") satId)
      Effect.modify fun result => { result with
        satellites := result.satellites ++ [{ satelliteId := satId, nodeId, name }] }
      let tasks ← parsing (parseTasks satId (scheduledTasks satellite))
      Effect.modify fun result => { result with satelliteTasks := result.satelliteTasks.insert satId tasks } :
      Effect MultiSatSchedule Str Unit) { result with satelliteIds := result.satelliteIds ++ [satId] } := by
  obtain ⟨object, idRead, full⟩ := satelliteIdOf_eq_some id
  unfold parseSatellite
  rw [if_pos object, idRead, Effect.bind_run_ok (parsing_ok satId result), if_neg (by rw [full]; exact Bool.noConfusion)]
  rfl

theorem parseSatellite_readable {satellite : Json D} {satId : Str} (id : satelliteIdOf satellite = some satId)
    (fields : readable satellite = true) (result : MultiSatSchedule) :
    ∃ result', parseSatellite satellite result = (.ok (), result') := by
  unfold readable at fields
  rw [Bool.and_eq_true, Bool.and_eq_true] at fields
  obtain ⟨⟨node, name⟩, tasks⟩ := fields
  obtain ⟨object, _, _⟩ := satelliteIdOf_eq_some id
  obtain ⟨nodeId, nodeRead⟩ := value_ok_of_text object node satId
  obtain ⟨satName, nameRead⟩ := value_ok_of_text object name satId
  obtain ⟨listed, tasksRead⟩ := (parseTasks_ok_iff satId _).2 tasks
  rw [parseSatellite_run id, nodeRead, nameRead, tasksRead]
  exact ⟨_, rfl⟩

/-- An exception behind the id leaves the id without a task list. -/
theorem parseSatellite_unreadable {satellite : Json D} {satId : Str} (id : satelliteIdOf satellite = some satId)
    (fields : readable satellite = false) (result : MultiSatSchedule) :
    ∃ what result', parseSatellite satellite result = (.error what, result') ∧
      result'.satelliteIds = result.satelliteIds ++ [satId] ∧ result'.satelliteTasks = result.satelliteTasks := by
  obtain ⟨object, _, _⟩ := satelliteIdOf_eq_some id
  rw [parseSatellite_run id]
  unfold readable at fields
  cases node : textOrAbsent satellite (lit "node_id") with
  | false =>
    obtain ⟨what, failed⟩ := value_error_of_not_text node satId
    rw [failed]
    exact ⟨what, _, rfl, rfl, rfl⟩
  | true =>
    obtain ⟨nodeId, nodeRead⟩ := value_ok_of_text object node satId
    rw [nodeRead]
    cases name : textOrAbsent satellite (lit "name") with
    | false =>
      obtain ⟨what, failed⟩ := value_error_of_not_text name satId
      rw [failed]
      exact ⟨what, _, rfl, rfl, rfl⟩
    | true =>
      obtain ⟨satName, nameRead⟩ := value_ok_of_text object name satId
      rw [nameRead]
      cases tasks : parseTasks satId (scheduledTasks satellite) with
      | error what => exact ⟨what, _, rfl, rfl, rfl⟩
      | ok listed =>
        have readable := (parseTasks_ok_iff satId (scheduledTasks satellite)).1 ⟨listed, tasks⟩
        rw [node, name, readable] at fields
        cases fields

/-! ## The document -/

/-- The loop reaches the end when every entry that carries an id is readable. -/
theorem parseSatellites_readable {satellites : List (Json D)} (texts : ∀ satellite ∈ satellites, IdIsText satellite)
    (fields : ∀ satellite ∈ satellites, (satelliteIdOf satellite).isSome = true → readable satellite = true)
    (result : MultiSatSchedule) : ∃ result', parseSatellites satellites result = (.ok (), result') := by
  induction satellites generalizing result with
  | nil => exact ⟨result, rfl⟩
  | cons satellite rest ih =>
    obtain ⟨text, textsLater⟩ := List.forall_mem_cons.1 texts
    obtain ⟨field, fieldsLater⟩ := List.forall_mem_cons.1 fields
    have first : ∃ result₁, parseSatellite satellite result = (.ok (), result₁) := by
      cases id : satelliteIdOf satellite with
      | none => exact ⟨result, parseSatellite_idless text id result⟩
      | some satId => exact parseSatellite_readable id (field (by rw [id]; rfl)) result
    obtain ⟨result₁, run⟩ := first
    obtain ⟨result', later⟩ := ih textsLater fieldsLater result₁
    exact ⟨result', (Effect.bind_run_ok run).trans later⟩

/-- Otherwise it ends with an id that has no task list. -/
theorem parseSatellites_unreadable {before satellites : List (Json D)} {result : MultiSatSchedule}
    (records : Records before result) (texts : ∀ satellite ∈ satellites, IdIsText satellite)
    (distinct : ((before ++ satellites).filterMap satelliteIdOf).Nodup)
    (broken : ∃ satellite ∈ satellites, (satelliteIdOf satellite).isSome = true ∧ readable satellite = false) :
    ∃ satId ∈ (parseSatellites satellites result).2.satelliteIds,
      (parseSatellites satellites result).2.satelliteTasks.find? satId = none := by
  induction satellites generalizing before result with
  | nil =>
    obtain ⟨_, mem, _⟩ := broken
    cases mem
  | cons satellite rest ih =>
    obtain ⟨text, textsLater⟩ := List.forall_mem_cons.1 texts
    have split : before ++ satellite :: rest = (before ++ [satellite]) ++ rest := by simp
    unfold parseSatellites
    by_cases here : (satelliteIdOf satellite).isSome = true ∧ readable satellite = false
    · obtain ⟨satId, id⟩ := Option.isSome_iff_exists.1 here.1
      obtain ⟨what, result', run, ids, tasks⟩ := parseSatellite_unreadable id here.2 result
      rw [Effect.bind_run_error run]
      refine ⟨satId, by simp [ids], ?_⟩
      have fresh : before.filter (carries satId) = [] := by
        rw [List.filter_eq_nil_iff]
        intro earlier mem same
        rw [split, List.filterMap_append, List.filterMap_append] at distinct
        have apart := List.disjoint_of_nodup_append (List.nodup_append.1 distinct).1
        exact apart (List.mem_filterMap.2 ⟨earlier, mem, of_decide_eq_true same⟩) (by simp [id])
      show result'.satelliteTasks.find? satId = none
      rw [tasks, records.satelliteTasks, fresh]
      rfl
    · have first : ∃ result₁, parseSatellite satellite result = (.ok (), result₁) := by
        cases id : satelliteIdOf satellite with
        | none => exact ⟨result, parseSatellite_idless text id result⟩
        | some satId =>
          have fields : readable satellite = true := by simpa [id] using here
          exact parseSatellite_readable id fields result
      obtain ⟨result₁, run⟩ := first
      rw [Effect.bind_run_ok run]
      rw [split] at distinct
      obtain ⟨other, mem, bad⟩ := broken
      rcases List.mem_cons.1 mem with rfl | later
      · exact absurd bad here
      · exact ih (records.next run) textsLater distinct ⟨other, later, bad⟩

/-- For entries with distinct ids, the returned schedule is empty or holds every entry that carries an id if and only if
the fields of each of these are readable. -/
theorem parseAllSatellites_complete_iff {json : JsonLibrary D} {text : Str} {schedule : Json D}
    (parsed : json.parse text = .ok schedule)
    (texts : ∀ satellite ∈ satelliteEntries schedule, IdIsText satellite)
    (distinct : ((satelliteEntries schedule).filterMap satelliteIdOf).Nodup) :
    ((parseAllSatellites json (some text)).satelliteIds = [] ∨
        Records (satelliteEntries schedule) (parseAllSatellites json (some text))) ↔
      ∀ satellite ∈ satelliteEntries schedule, (satelliteIdOf satellite).isSome = true → readable satellite = true := by
  have returned : parseAllSatellites json (some text) = (parseSatellites (satelliteEntries schedule) {}).2 := by
    unfold parseAllSatellites
    simp only [parsed]
  rw [returned]
  constructor
  · intro complete
    by_contra broken
    have unreadable : ∃ satellite ∈ satelliteEntries schedule,
        (satelliteIdOf satellite).isSome = true ∧ readable satellite = false := by
      simpa using broken
    obtain ⟨satId, listed, without⟩ := parseSatellites_unreadable records_none texts distinct unreadable
    rcases complete with empty | records
    · rw [empty] at listed
      cases listed
    · have held := records.satelliteTasks satId
      rw [records.satelliteIds] at listed
      obtain ⟨satellite, mem, id⟩ := List.mem_filterMap.1 listed
      have carried : satellite ∈ (satelliteEntries schedule).filter (carries satId) :=
        List.mem_filter.2 ⟨mem, decide_eq_true id⟩
      rw [without, eq_comm, Option.map_eq_none_iff, List.getLast?_eq_none_iff] at held
      rw [held] at carried
      cases carried
  · intro fields
    obtain ⟨result, run⟩ := parseSatellites_readable texts fields {}
    rw [run]
    exact .inr (records_none.run run)

/-! ## An entry with a numeric name -/

def namedEntry (satId : Str) (name : Json FixedPoint) : Json FixedPoint :=
  .object [(lit "name", name), (lit "satellite_id", .string satId)]

def namedSchedule (second : Json FixedPoint) : Json FixedPoint :=
  .object [(lit "satellites", .array [namedEntry (lit "S1") (.string (lit "one")), namedEntry (lit "S2") second])]

theorem namedEntry_idIsText (satId : Str) (name : Json FixedPoint) : IdIsText (namedEntry satId name) := fun _ =>
  ⟨satId, rfl⟩

theorem namedSchedule_texts (second : Json FixedPoint) :
    ∀ satellite ∈ satelliteEntries (namedSchedule second), IdIsText satellite :=
  List.forall_mem_cons.2 ⟨namedEntry_idIsText _ _, List.forall_mem_singleton.2 (namedEntry_idIsText _ _)⟩

theorem parseAllSatellites_complete_iff_sample :
    (parseAllSatellites JsonText.library (some (JsonText.print (namedSchedule (.string (lit "two")))))).satelliteIds = [] ∨
      Records (satelliteEntries (namedSchedule (.string (lit "two"))))
        (parseAllSatellites JsonText.library (some (JsonText.print (namedSchedule (.string (lit "two")))))) :=
  (parseAllSatellites_complete_iff (JsonText.library_parse_print (by decide)) (namedSchedule_texts _)
    (by decide)).2 (by decide)

/-- The second entry's name is a number, and the schedule has the id of that entry and nothing else of it. -/
theorem parseAllSatellites_truncates :
    ((satelliteEntries (namedSchedule (.int 5))).filterMap satelliteIdOf).Nodup ∧
      (parseAllSatellites JsonText.library (some (JsonText.print (namedSchedule (.int 5))))).satelliteIds =
        [lit "S1", lit "S2"] ∧
      (parseAllSatellites JsonText.library (some (JsonText.print (namedSchedule (.int 5))))).satellites.map
        (·.satelliteId) = [lit "S1"] ∧
      (parseAllSatellites JsonText.library (some (JsonText.print (namedSchedule (.int 5))))).satelliteTasks.find?
        (lit "S2") = none := by
  have parsed : JsonText.library.parse (JsonText.print (namedSchedule (.int 5))) = .ok (namedSchedule (.int 5)) :=
    JsonText.library_parse_print (by decide)
  have returned : parseAllSatellites JsonText.library (some (JsonText.print (namedSchedule (.int 5)))) =
      (parseSatellites (satelliteEntries (namedSchedule (.int 5))) {}).2 := by
    unfold parseAllSatellites
    simp only [parsed]
  rw [returned]
  refine ⟨by decide, ?_⟩
  decide

end Actuator.Parser
