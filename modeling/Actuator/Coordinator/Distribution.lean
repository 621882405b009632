import Actuator.Coordinator.TaskMessageRoundTrip
import Actuator.Lib.JsonText
import Actuator.Parser.ScheduleParser

/-!
# Distribution of tasks

`Coordinator::distributeAllTasks`: one round for each id of the schedule, which
looks the id up in the other two collections and sends one message with all of
its tasks. Every task reaches one message exactly when no two entries of the
document share their id (`distributeAllTasks_conserves_iff`).
-/

namespace Actuator.Coordinator

open Actuator.Lib Actuator.Core Actuator.Parser

variable {D : Type}

/-- What one round reads besides the schedule: the clock at three places, what its local message holds before
anything is assigned to it, and the same for the local message of each task. -/
structure Round (D : Type) where
  idTime : UInt64
  batchTime : UInt64
  headerTime : UInt64
  header : MessageHeader
  held : Nat → Indeterminate D

/-- `task_msg` for one task of the schedule. -/
def assignTask (held : Indeterminate D) (task : TaskSegment) : TaskAssignMessage D :=
  { TaskAssignMessage.declared held with
    segmentId := task.segmentId
    taskId := task.taskId
    taskName := task.taskId
    behaviorRef := task.behaviorRef
    behaviorParams := task.behaviorParams
    priority := .normal }

/-- `msg` for one satellite. -/
def batchFor (round : Round D) (satId : Str) (node : SatelliteInfo) (tasks : List TaskSegment) :
    BatchTaskAssignMessage D where
  messageId := lit "BATCH_" ++ satId ++ lit "_" ++ natToString round.idTime.toNat
  satelliteId := satId
  nodeId := node.nodeId
  planId := []
  timestamp := round.batchTime
  requireAck := true
  ackTimeoutMs := 60000
  scheduledTasks := tasks.mapIdx fun i task => assignTask (round.held i) task

/-- `message` for one satellite. -/
def batchMessage (coordinatorId : Str) (round : Round D) (satId payload : Str) : Message where
  header := { round.header with
    msgType := .batchTaskAssign
    sourceNodeId := coordinatorId
    destNodeId := satId
    priority := .normal
    timestampMs := round.headerTime }
  payload := payload

structure Counts where
  totalTasks : Int32 := 0
  successCount : Int32 := 0

/-- What the loop is given: the readings of each round, exceptions, and the communication module. -/
structure Host (m : Type → Type) (D : Type) where
  round : Nat → m (Round D)
  throwing : Except Str Str → m Str
  sendMessage : Str → Message → m Bool

section Distribution

variable {m : Type → Type} [Monad m] (json : JsonLibrary D) (coordinatorId : Str) (host : Host m D)
  (schedule : MultiSatSchedule)

/-- One round of the loop over `satellite_ids`. -/
def distributeTo (round : Round D) (satId : Str) (counts : Counts) : m Counts :=
  match schedule.satelliteTasks.find? satId with
  | none => pure counts
  | some tasks =>
    if tasks.isEmpty then pure counts
    else
      let totalTasks := counts.totalTasks + Int32.ofNat tasks.length
      match schedule.satellites.find? fun info => info.satelliteId = satId with
      | none => pure { counts with totalTasks }
      | some node => do
        let payload ← host.throwing (serializeBatchTaskAssign json (batchFor round satId node tasks))
        let sent ← host.sendMessage satId (batchMessage coordinatorId round satId payload)
        let successCount := if sent then counts.successCount + Int32.ofNat tasks.length else counts.successCount
        return { totalTasks, successCount }

/-- The loop from its `n`-th round on. -/
def distributeFrom : Nat → List Str → Counts → m Counts
  | _, [], counts => pure counts
  | n, satId :: satIds, counts => do
    let round ← host.round n
    let counts ← distributeTo json coordinatorId host schedule round satId counts
    distributeFrom (n + 1) satIds counts

def distributeAllTasks : m Bool := do
  let counts ← distributeFrom json coordinatorId host schedule 0 schedule.satelliteIds {}
  return counts.successCount == counts.totalTasks

end Distribution

/-! ## What is sent -/

/-- A sender that succeeds and notes what it was given. -/
def logMessage (destNodeId : Str) (message : Message) : Effect (List (Str × Message)) Str Bool := fun log =>
  (.ok true, log ++ [(destNodeId, message)])

/-- All sends succeed and are noted. -/
def loggingHost (rounds : Nat → Round D) : Host (Effect (List (Str × Message)) Str) D where
  round n := pure (rounds n)
  throwing payload := Effect.readThrowing fun _ => payload
  sendMessage := logMessage

/-- The messages sent to one satellite. -/
def sentTo (satId : Str) (log : List (Str × Message)) : List Message := (log.filter fun e => e.1 = satId).map Prod.snd

theorem sentTo_append (satId : Str) (log log' : List (Str × Message)) :
    sentTo satId (log ++ log') = sentTo satId log ++ sentTo satId log' := by
  simp [sentTo]

/-- The message assigns the tasks to the satellite, in this order. -/
def Assigns (json : JsonLibrary D) (satId : Str) (tasks : List TaskSegment) (message : Message) : Prop :=
  message.header.msgType = .batchTaskAssign ∧ message.header.destNodeId = satId ∧
    ∃ batch : BatchTaskAssignMessage D, serializeBatchTaskAssign json batch = .ok message.payload ∧
      batch.satelliteId = satId ∧ batch.scheduledTasks.map (taskAssignToSegment · satId) = tasks

/-- The tasks that the schedule holds for an id. -/
def tasksOf (schedule : MultiSatSchedule) (satId : Str) : List TaskSegment :=
  (schedule.satelliteTasks.find? satId).getD []

/-- One message for each time a satellite with tasks is listed, and each assigns all of its tasks. -/
def Delivers (json : JsonLibrary D) (schedule : MultiSatSchedule) (satIds : List Str) (log : List (Str × Message)) :
    Prop :=
  ∀ satId, (sentTo satId log).length = (if (tasksOf schedule satId).isEmpty then 0 else satIds.count satId) ∧
    ∀ message ∈ sentTo satId log, Assigns json satId (tasksOf schedule satId) message

section Sent

variable {json : JsonLibrary D} {coordinatorId : Str} {schedule : MultiSatSchedule}

theorem assignTask_utf8 {task : TaskSegment} (utf8 : TaskUtf8 task) (held : Indeterminate D) :
    (assignTask held task).Utf8 where
  segmentId := utf8.segmentId
  taskId := utf8.taskId
  taskName := utf8.taskId
  behaviorRef := utf8.behaviorRef
  behaviorParams := utf8.behaviorParams
  resourceRequirements := by simp [assignTask, TaskAssignMessage.declared]
  staticConstraints := by simp [assignTask, TaskAssignMessage.declared]
  dynamicConstraints := by simp [assignTask, TaskAssignMessage.declared]

theorem batchFor_utf8 (wellFormed : schedule.WellFormed) {satId : Str} {node : SatelliteInfo} {tasks : List TaskSegment}
    (id : satId ∈ schedule.satelliteIds) (listed : node ∈ schedule.satellites)
    (held : schedule.satelliteTasks.find? satId = some tasks) (round : Round D) :
    (batchFor round satId node tasks).Utf8 where
  messageId := ((((validUtf8_lit "BATCH_").append (wellFormed.satelliteIds satId id)).append (validUtf8_lit "_")).append
    (validUtf8_lit _))
  satelliteId := wellFormed.satelliteIds satId id
  nodeId := wellFormed.satellites node listed
  planId := validUtf8_nil
  scheduledTasks := by
    intro message mem
    obtain ⟨i, bound, rfl⟩ := List.mem_mapIdx.1 mem
    exact assignTask_utf8 (wellFormed.satelliteTasks satId tasks held _ (List.getElem_mem bound)) _

theorem batchFor_segments (round : Round D) (satId : Str) (node : SatelliteInfo) {tasks : List TaskSegment}
    (owned : ∀ task ∈ tasks, task.satelliteId = satId) :
    (batchFor round satId node tasks).scheduledTasks.map (taskAssignToSegment · satId) = tasks := by
  apply List.ext_getElem
  · simp [batchFor]
  · intro i _ bound
    have owner := owned tasks[i] (List.getElem_mem bound)
    simp [batchFor, assignTask, taskAssignToSegment, ← owner]

theorem delivers_nil : Delivers json schedule [] [] := fun satId => ⟨by simp [sentTo], by simp [sentTo]⟩

theorem Delivers.append {satIds satIds' : List Str} {log log' : List (Str × Message)}
    (first : Delivers json schedule satIds log) (second : Delivers json schedule satIds' log') :
    Delivers json schedule (satIds ++ satIds') (log ++ log') := by
  intro satId
  obtain ⟨count, assigns⟩ := first satId
  obtain ⟨count', assigns'⟩ := second satId
  rw [sentTo_append, List.length_append, count, count', List.count_append]
  refine ⟨by split <;> rfl, fun message mem => ?_⟩
  rcases List.mem_append.1 mem with mem | mem
  · exact assigns message mem
  · exact assigns' message mem

/-- Nothing is sent to a satellite without tasks. -/
theorem delivers_idle {satId : Str} (idle : tasksOf schedule satId = []) : Delivers json schedule [satId] [] := by
  intro other
  refine ⟨?_, by simp [sentTo]⟩
  by_cases same : other = satId
  · rw [same, idle]
    rfl
  · rw [List.count_singleton]
    simp [sentTo, Ne.symm same]

theorem delivers_message {satId : Str} {message : Message} (busy : tasksOf schedule satId ≠ [])
    (assigns : Assigns json satId (tasksOf schedule satId) message) :
    Delivers json schedule [satId] [(satId, message)] := by
  intro other
  by_cases same : satId = other
  · subst same
    have one : sentTo satId [(satId, message)] = [message] := by simp [sentTo]
    rw [one]
    refine ⟨by simp [busy], fun m mem => ?_⟩
    cases List.mem_singleton.1 mem
    exact assigns
  · have none : sentTo other [(satId, message)] = [] := by simp [sentTo, same]
    rw [none, List.count_singleton]
    simp [same]

variable (json coordinatorId)

/-- A round sends the tasks of its satellite, and nothing when it has none. -/
theorem distributeTo_logMessage (wellFormed : schedule.WellFormed) {satId : Str} (id : satId ∈ schedule.satelliteIds)
    (known : satId ∈ schedule.satellites.map (·.satelliteId)) (rounds : Nat → Round D) (round : Round D)
    {counts : Counts} (even : counts.successCount = counts.totalTasks) (log : List (Str × Message)) :
    ∃ counts' : Counts, ∃ sent, counts'.successCount = counts'.totalTasks ∧
      distributeTo json coordinatorId (loggingHost rounds) schedule round satId counts log = (.ok counts', log ++ sent) ∧
      Delivers json schedule [satId] sent := by
  unfold distributeTo
  cases found : schedule.satelliteTasks.find? satId with
  | none => exact ⟨counts, [], even, by simp [Effect.pure_run], delivers_idle (by simp [tasksOf, found])⟩
  | some tasks =>
    cases tasks with
    | nil => exact ⟨counts, [], even, by simp [Effect.pure_run], delivers_idle (by simp [tasksOf, found])⟩
    | cons task tasks =>
      have held : tasksOf schedule satId = task :: tasks := by simp [tasksOf, found]
      obtain ⟨info, listed, name⟩ := List.mem_map.1 known
      cases node : schedule.satellites.find? fun info => info.satelliteId = satId with
      | none => exact absurd (List.find?_eq_none.1 node info listed) (by simpa using name)
      | some node' =>
        have utf8 := batchFor_utf8 wellFormed id (List.mem_of_find?_eq_some node) found round
        obtain ⟨payload, dumped, _⟩ := json.parse_dump _ (BatchTaskAssignMessage.printable utf8)
        let n := Int32.ofNat (task :: tasks).length
        let message := batchMessage coordinatorId round satId payload
        have read : (loggingHost rounds).throwing (serializeBatchTaskAssign json
            (batchFor round satId node' (task :: tasks))) log = (.ok payload, log) := congrArg (·, log) dumped
        have sent : (loggingHost rounds).sendMessage satId message log = (.ok true, log ++ [(satId, message)]) := rfl
        have assigns : Assigns json satId (tasksOf schedule satId) message := by
          refine ⟨rfl, rfl, batchFor round satId node' (task :: tasks), dumped, rfl, ?_⟩
          rw [held]
          exact batchFor_segments round satId node' (wellFormed.owners satId _ found)
        refine ⟨⟨counts.totalTasks + n, counts.successCount + n⟩, [(satId, message)], congrArg (· + n) even, ?_,
          delivers_message (by simp [held]) assigns⟩
        show ((loggingHost rounds).throwing _ >>= _) log = _
        rw [Effect.bind_run_ok read, Effect.bind_run_ok sent]
        rfl

theorem distributeFrom_logMessage (wellFormed : schedule.WellFormed)
    (known : ∀ satId ∈ schedule.satelliteIds, satId ∈ schedule.satellites.map (·.satelliteId))
    (rounds : Nat → Round D) {satIds : List Str} (ids : ∀ satId ∈ satIds, satId ∈ schedule.satelliteIds) (n : Nat)
    {counts : Counts} (even : counts.successCount = counts.totalTasks) (log : List (Str × Message)) :
    ∃ counts' : Counts, ∃ sent, counts'.successCount = counts'.totalTasks ∧
      distributeFrom json coordinatorId (loggingHost rounds) schedule n satIds counts log = (.ok counts', log ++ sent) ∧
      Delivers json schedule satIds sent := by
  induction satIds generalizing n counts log with
  | nil => exact ⟨counts, [], even, by simp [distributeFrom, Effect.pure_run], delivers_nil⟩
  | cons satId satIds ih =>
    obtain ⟨id, later⟩ := List.forall_mem_cons.1 ids
    obtain ⟨counts₁, first, even₁, run, delivers⟩ := distributeTo_logMessage json coordinatorId wellFormed id
      (known satId id) rounds (rounds n) even log
    obtain ⟨counts₂, rest, even₂, runs, others⟩ := ih later (n + 1) even₁ (log ++ first)
    refine ⟨counts₂, first ++ rest, even₂, ?_, delivers.append others⟩
    have round : (loggingHost rounds).round n log = (.ok (rounds n), log) := rfl
    unfold distributeFrom
    rw [Effect.bind_run_ok round, Effect.bind_run_ok run, runs, List.append_assoc]

/-- With all sends succeeding, `distributeAllTasks` succeeds. -/
theorem distributeAllTasks_logMessage (wellFormed : schedule.WellFormed)
    (known : ∀ satId ∈ schedule.satelliteIds, satId ∈ schedule.satellites.map (·.satelliteId))
    (rounds : Nat → Round D) :
    ∃ sent, distributeAllTasks json coordinatorId (loggingHost rounds) schedule [] = (.ok true, sent) ∧
      Delivers json schedule schedule.satelliteIds sent := by
  obtain ⟨counts, sent, even, run, delivers⟩ := distributeFrom_logMessage json coordinatorId wellFormed known rounds
    (fun _ => id) 0 (rfl : ({} : Counts).successCount = ({} : Counts).totalTasks) []
  refine ⟨sent, ?_, delivers⟩
  unfold distributeAllTasks
  rw [Effect.bind_run_ok run]
  show (Except.ok (counts.successCount == counts.totalTasks), [] ++ sent) = _
  rw [even, beq_self_eq_true, List.nil_append]

end Sent

/-! ## Conservation of tasks -/

section Conservation

variable [CxxDouble D]

/-- The task objects listed under the entries that carry an id, in document order. -/
def listedUnder (satId : Str) (schedule : Json D) : List TaskSegment :=
  ((satelliteEntries schedule).filter (carries satId)).flatMap (listedIn satId)

/-- The messages sent to a satellite carry the listed tasks: one message with all of them, each once and in order, and
none when nothing is listed. -/
def Conserves (json : JsonLibrary D) (satId : Str) (listed : List TaskSegment) (log : List (Str × Message)) : Prop :=
  (listed = [] → sentTo satId log = []) ∧
    (listed ≠ [] → ∃ message, sentTo satId log = [message] ∧ Assigns json satId listed message)

/-- What an accepted document has the coordinator send when all sends succeed. -/
def sentFor (json : JsonLibrary D) (coordinatorId text : Str) (rounds : Nat → Round D) : List (Str × Message) :=
  (distributeAllTasks json coordinatorId (loggingHost rounds) (parseAllSatellites json (some text)) []).2

theorem delivers_sentFor (json : JsonLibrary D) (coordinatorId : Str) {text : Str} {schedule : Json D}
    (accepted : AcceptedBy json text schedule) (rounds : Nat → Round D) :
    Delivers json (parseAllSatellites json (some text)) ((satelliteEntries schedule).filterMap satelliteIdOf)
      (sentFor json coordinatorId text rounds) := by
  have records := records_of_acceptedBy accepted
  have known : ∀ satId ∈ (parseAllSatellites json (some text)).satelliteIds,
      satId ∈ (parseAllSatellites json (some text)).satellites.map (·.satelliteId) := by
    intro satId mem
    rw [records.satellites]
    exact mem
  obtain ⟨sent, run, delivers⟩ := distributeAllTasks_logMessage json coordinatorId
    (parseAllSatellites_wellFormed json (some text)) known rounds
  unfold sentFor
  rw [run, ← records.satelliteIds]
  exact delivers

omit [CxxDouble D] in
theorem count_ids (satId : Str) (entries : List (Json D)) :
    (entries.filterMap satelliteIdOf).count satId = (entries.filter (carries satId)).length := by
  induction entries with
  | nil => rfl
  | cons entry entries ih =>
    unfold carries at ih ⊢
    cases id : satelliteIdOf entry with
    | none => simp [id, ih]
    | some other => by_cases same : other = satId <;> simp [id, ih, same]

/-- Every task listed for a satellite reaches it in exactly one message, once and in order, precisely when no two
entries carry its id or those that do list no task. -/
theorem distributeAllTasks_conserves_iff (json : JsonLibrary D) (coordinatorId : Str) {text : Str} {schedule : Json D}
    (accepted : AcceptedBy json text schedule) (rounds : Nat → Round D) (satId : Str) :
    Conserves json satId (listedUnder satId schedule) (sentFor json coordinatorId text rounds) ↔
      listedUnder satId schedule = [] ∨ ((satelliteEntries schedule).filter (carries satId)).length ≤ 1 := by
  obtain ⟨count, assigns⟩ := delivers_sentFor json coordinatorId accepted rounds satId
  have last := (records_of_acceptedBy accepted).satelliteTasks satId
  rw [count_ids] at count
  unfold listedUnder
  generalize (satelliteEntries schedule).filter (carries satId) = entries at count last ⊢
  have held : tasksOf (parseAllSatellites json (some text)) satId = (entries.getLast?.map (listedIn satId)).getD [] :=
    congrArg (·.getD []) last
  rw [held] at count assigns
  rcases Nat.lt_or_ge 1 entries.length with several | single
  · -- the tasks of all entries but the last are lost, and those of the last are sent once for each entry
    constructor
    · intro conserves
      by_contra neither
      obtain ⟨message, only, _⟩ := conserves.2 fun none => neither (.inl none)
      rw [only, List.length_singleton] at count
      split at count
      · omega
      · omega
    · intro nothing
      have none : entries.flatMap (listedIn satId) = [] := nothing.resolve_right (by omega)
      have idle : (entries.getLast?.map (listedIn satId)).getD [] = [] := by
        cases final : entries.getLast? with
        | none => rfl
        | some entry => exact List.flatMap_eq_nil_iff.1 none entry (List.mem_of_getLast? final)
      rw [idle] at count
      exact ⟨fun _ => List.length_eq_zero_iff.1 count, fun some => absurd none some⟩
  · refine iff_of_true ?_ (.inr single)
    have all : (entries.getLast?.map (listedIn satId)).getD [] = entries.flatMap (listedIn satId) := by
      rcases entries with _ | ⟨entry, _ | _⟩
      · rfl
      · simp
      · simp at single
    rw [all] at count assigns
    constructor
    · intro none
      rw [none] at count
      exact List.length_eq_zero_iff.1 count
    · intro some
      have one : entries.length = 1 := by
        rcases entries with _ | ⟨entry, _ | _⟩
        · exact absurd rfl some
        · rfl
        · simp at single
      rw [if_neg (by simpa using some), one] at count
      obtain ⟨message, only⟩ := List.length_eq_one_iff.1 count
      exact ⟨message, only, assigns message (by rw [only]; exact List.mem_singleton_self _)⟩

end Conservation

/-! ## Two entries with one id -/

/-- An entry with one task. -/
def sampleEntry (satId taskId : Str) : Json FixedPoint := .object [
  (lit "satellite_id", .string satId),
  (lit "scheduled_tasks", .array [.object [(lit "task_id", .string taskId)]])]

def sampleSchedule (entries : List (Json FixedPoint)) : Json FixedPoint := .object [(lit "satellites", .array entries)]

def sampleRound : Round FixedPoint where
  idTime := 1000
  batchTime := 1000
  headerTime := 1000
  header := {}
  held _ := { priority := ⟨0⟩, profit := 0, latitudeDeg := ⟨0⟩, longitudeDeg := ⟨0⟩ }

def distinctSchedule : Json FixedPoint :=
  sampleSchedule [sampleEntry (lit "S1") (lit "T1"), sampleEntry (lit "S2") (lit "T2")]

def repeatedSchedule : Json FixedPoint :=
  sampleSchedule [sampleEntry (lit "S1") (lit "T1"), sampleEntry (lit "S1") (lit "T2")]

theorem distinctSchedule_accepted : AcceptedBy JsonText.library (JsonText.print distinctSchedule) distinctSchedule :=
  ⟨JsonText.library_parse_print (by decide), by decide⟩

theorem repeatedSchedule_accepted : AcceptedBy JsonText.library (JsonText.print repeatedSchedule) repeatedSchedule :=
  ⟨JsonText.library_parse_print (by decide), by decide⟩

theorem distributeAllTasks_conserves_iff_sample :
    Conserves JsonText.library (lit "S1") (listedUnder (lit "S1") distinctSchedule)
      (sentFor JsonText.library (lit "COORD") (JsonText.print distinctSchedule) fun _ => sampleRound) :=
  (distributeAllTasks_conserves_iff JsonText.library (lit "COORD") distinctSchedule_accepted (fun _ => sampleRound)
    (lit "S1")).2 (.inr (by decide))

/-- The task of the first entry is lost, and that of the second is sent twice. -/
theorem distributeAllTasks_repeated :
    (sentTo (lit "S1") (sentFor JsonText.library (lit "COORD") (JsonText.print repeatedSchedule)
      fun _ => sampleRound)).length = 2 ∧
    (∀ message ∈ sentTo (lit "S1") (sentFor JsonText.library (lit "COORD") (JsonText.print repeatedSchedule)
      fun _ => sampleRound),
      Assigns JsonText.library (lit "S1") (listedIn (lit "S1") (sampleEntry (lit "S1") (lit "T2"))) message) ∧
    ¬ Conserves JsonText.library (lit "S1") (listedUnder (lit "S1") repeatedSchedule)
      (sentFor JsonText.library (lit "COORD") (JsonText.print repeatedSchedule) fun _ => sampleRound) := by
  obtain ⟨count, assigns⟩ := delivers_sentFor JsonText.library (lit "COORD") repeatedSchedule_accepted
    (fun _ => sampleRound) (lit "S1")
  have last := (records_of_acceptedBy repeatedSchedule_accepted).satelliteTasks (lit "S1")
  have held : tasksOf (parseAllSatellites JsonText.library (some (JsonText.print repeatedSchedule))) (lit "S1") =
      listedIn (lit "S1") (sampleEntry (lit "S1") (lit "T2")) := congrArg (·.getD []) last
  have busy : (listedIn (lit "S1") (sampleEntry (lit "S1") (lit "T2"))).isEmpty = false := by decide
  have twice : ((satelliteEntries repeatedSchedule).filterMap satelliteIdOf).count (lit "S1") = 2 := by decide
  have listed : (listedUnder (lit "S1") repeatedSchedule).isEmpty = false := by decide
  rw [held, busy, twice] at count
  rw [held] at assigns
  refine ⟨count, assigns, fun conserves => ?_⟩
  obtain ⟨message, only, _⟩ := conserves.2 fun none => by simp [none] at listed
  rw [only] at count
  cases count

end Actuator.Coordinator
