import Actuator.Coordinator.BatchReports

/-!
# From the schedule to the executor

A satellite that receives the message of `distributeAllTasks` executes exactly
the tasks that the schedule lists for it (`handleMessage_executes`). What it
reads on the way, and how its sends and its tasks end, is left open.
-/

namespace Actuator.Coordinator

open Actuator.Lib Actuator.Core Actuator.Parser Actuator.Executor

variable {D : Type}

variable [CxxDouble D] (json : JsonLibrary D) (coordinatorId : Str)

/-! ## The execution on a satellite -/

/-- A batch message makes the satellite execute the tasks of the batch. -/
theorem handleMessage_batch {batch : BatchTaskAssignMessage D} (utf8 : batch.Utf8) {satId : Str} (name : ValidUtf8 satId)
    (around : Surroundings D) {message : Message} (msgType : message.header.msgType = .batchTaskAssign)
    (dumped : serializeBatchTaskAssign json batch = .ok message.payload) :
    ∃ trace, SatelliteSimulator.handleMessage json { satelliteId := satId, coordinatorId } (satelliteHost around) message {} =
        (.ok (), trace) ∧ trace.executed = batch.scheduledTasks.map (taskAssignToSegment · satId) := by
  obtain ⟨payload, dumped', parsed⟩ := parseBatchTaskAssignPayload_serialize json (around.held 1) utf8
  cases dumped.symm.trans dumped'
  obtain ⟨trace, rounds, ack, ackMessage, run, events, reported, _⟩ :=
    handleBatchTaskAssign_parsed json { satelliteId := satId, coordinatorId } name around parsed
  unfold SatelliteSimulator.handleMessage
  rw [if_pos msgType]
  refine ⟨trace, run, ?_⟩
  rw [SatelliteTrace.executed_rounds events, reported.tasks]
  unfold BatchTaskAssignMessage.received
  exact List.map_map

/-! ## The messages of the distribution -/

variable {schedule : MultiSatSchedule}

/-- The message that a round builds for the satellite. -/
def Built (schedule : MultiSatSchedule) (sent : Str × Message) : Prop :=
  ∃ round node tasks payload, node ∈ schedule.satellites ∧ schedule.satelliteTasks.find? sent.1 = some tasks ∧
    serializeBatchTaskAssign json (batchFor round sent.1 node tasks) = .ok payload ∧
    sent.2 = batchMessage coordinatorId round sent.1 payload

omit [CxxDouble D] in
/-- A round sends at most one message, and that to its satellite; it does if the satellite has tasks and is known. -/
theorem distributeTo_built (wellFormed : schedule.WellFormed) {satId : Str} (id : satId ∈ schedule.satelliteIds)
    (rounds : Nat → Round D) (round : Round D) (counts : Counts) (log : List (Str × Message)) :
    ∃ counts' : Counts, ∃ sent : List Message,
      distributeTo json coordinatorId (loggingHost rounds) schedule round satId counts log =
        (.ok counts', log ++ sent.map fun message => (satId, message)) ∧
      (∀ message ∈ sent, Built json coordinatorId schedule (satId, message)) ∧
      (tasksOf schedule satId ≠ [] → satId ∈ schedule.satellites.map (·.satelliteId) → sent.length = 1) := by
  unfold distributeTo
  cases found : schedule.satelliteTasks.find? satId with
  | none => exact ⟨counts, [], by simp [Effect.pure_run], by simp, fun busy => absurd (by simp [tasksOf, found]) busy⟩
  | some tasks =>
    cases tasks with
    | nil => exact ⟨counts, [], by simp [Effect.pure_run], by simp, fun busy => absurd (by simp [tasksOf, found]) busy⟩
    | cons task tasks =>
      cases node : schedule.satellites.find? fun info => info.satelliteId = satId with
      | none =>
        refine ⟨{ counts with totalTasks := counts.totalTasks + Int32.ofNat (task :: tasks).length }, [], ?_, by simp,
          fun _ known => ?_⟩
        · simp [Effect.pure_run]
        · obtain ⟨info, listed, name⟩ := List.mem_map.1 known
          exact absurd (List.find?_eq_none.1 node info listed) (by simpa using name)
      | some info =>
        have among := List.mem_of_find?_eq_some node
        obtain ⟨payload, dumped, _⟩ := json.parse_dump _
          (BatchTaskAssignMessage.printable (batchFor_utf8 wellFormed id among found round))
        let n := Int32.ofNat (task :: tasks).length
        let message := batchMessage coordinatorId round satId payload
        have read : (loggingHost rounds).throwing (serializeBatchTaskAssign json
            (batchFor round satId info (task :: tasks))) log = (.ok payload, log) := congrArg (·, log) dumped
        have sent : (loggingHost rounds).sendMessage satId message log = (.ok true, log ++ [(satId, message)]) := rfl
        refine ⟨⟨counts.totalTasks + n, counts.successCount + n⟩, [message], ?_, ?_, fun _ _ => rfl⟩
        · show ((loggingHost rounds).throwing _ >>= _) log = _
          rw [Effect.bind_run_ok read, Effect.bind_run_ok sent]
          rfl
        · exact List.forall_mem_singleton.2 ⟨round, info, task :: tasks, payload, among, found, dumped, rfl⟩

omit [CxxDouble D] in
theorem distributeFrom_built (wellFormed : schedule.WellFormed) (rounds : Nat → Round D) {satIds : List Str}
    (ids : ∀ satId ∈ satIds, satId ∈ schedule.satelliteIds) {satId : Str} (busy : tasksOf schedule satId ≠ [])
    (known : satId ∈ schedule.satellites.map (·.satelliteId)) (n : Nat) (counts : Counts) (log : List (Str × Message)) :
    ∃ counts' : Counts, ∃ sent,
      distributeFrom json coordinatorId (loggingHost rounds) schedule n satIds counts log = (.ok counts', log ++ sent) ∧
      (∀ entry ∈ sent, Built json coordinatorId schedule entry) ∧ (sentTo satId sent).length = satIds.count satId := by
  induction satIds generalizing n counts log with
  | nil => exact ⟨counts, [], by simp [distributeFrom, Effect.pure_run], by simp, rfl⟩
  | cons other satIds ih =>
    obtain ⟨id, later⟩ := List.forall_mem_cons.1 ids
    obtain ⟨counts₁, first, run, built, one⟩ := distributeTo_built json coordinatorId wellFormed id rounds (rounds n)
      counts log
    obtain ⟨counts₂, rest, runs, builts, count⟩ := ih later (n + 1) counts₁ (log ++ first.map fun message => (other, message))
    refine ⟨counts₂, (first.map fun message => (other, message)) ++ rest, ?_, ?_, ?_⟩
    · have round : (loggingHost rounds).round n log = (.ok (rounds n), log) := rfl
      unfold distributeFrom
      rw [Effect.bind_run_ok round, Effect.bind_run_ok run, runs, List.append_assoc]
    · refine List.forall_mem_append.2 ⟨?_, builts⟩
      intro entry mem
      obtain ⟨message, among, rfl⟩ := List.mem_map.1 mem
      exact built message among
    · rw [sentTo_append, List.length_append, count, List.count_cons, Nat.add_comm]
      congr 1
      by_cases own : other = satId
      · subst own
        rw [if_pos (by simp), ← one busy known]
        simp [sentTo, List.filter_map, Function.comp_def]
      · rw [if_neg (by simpa using own)]
        simp [sentTo, List.filter_map, Function.comp_def, own]

/-- The received message of a round makes its satellite execute the tasks of the schedule. -/
theorem Built.executes {satId : Str} {message : Message} (built : Built json coordinatorId schedule (satId, message))
    (wellFormed : schedule.WellFormed) (listed : satId ∈ schedule.satelliteIds) (around : Surroundings D)
    {outbound : Message} (msgType : outbound.header.msgType = message.header.msgType)
    (payload : outbound.payload = message.payload) :
    ∃ trace, SatelliteSimulator.handleMessage json { satelliteId := satId, coordinatorId } (satelliteHost around) outbound
        {} = (.ok (), trace) ∧ trace.executed = tasksOf schedule satId := by
  obtain ⟨round, node, tasks, text, among, found, dumped, same⟩ := built
  change message = batchMessage coordinatorId round satId text at same
  subst same
  have run := handleMessage_batch json coordinatorId (batchFor_utf8 wellFormed listed among found round)
    (wellFormed.satelliteIds satId listed) around msgType (dumped.trans (congrArg Except.ok payload.symm))
  rw [batchFor_segments round satId node (wellFormed.owners satId tasks found)] at run
  unfold tasksOf
  rw [found]
  exact run

/-- A satellite with tasks is sent one message. On receiving it, whatever it finds around it, it passes to
`executeSingleTask` the tasks that the schedule lists for it, each once and in order. -/
theorem handleMessage_executes (wellFormed : schedule.WellFormed) (distinct : schedule.satelliteIds.Nodup) {satId : Str}
    (listed : satId ∈ schedule.satelliteIds) (known : satId ∈ schedule.satellites.map (·.satelliteId))
    (busy : tasksOf schedule satId ≠ []) (rounds : Nat → Round D) :
    ∃ message, sentTo satId (distributeAllTasks json coordinatorId (loggingHost rounds) schedule []).2 = [message] ∧
      ∀ (around : Surroundings D) (outbound : Message), outbound.header.msgType = message.header.msgType →
        outbound.payload = message.payload →
        ∃ trace, SatelliteSimulator.handleMessage json { satelliteId := satId, coordinatorId } (satelliteHost around)
          outbound {} = (.ok (), trace) ∧ trace.executed = tasksOf schedule satId := by
  obtain ⟨counts, sent, run, built, count⟩ := distributeFrom_built json coordinatorId wellFormed rounds (fun _ => id)
    busy known 0 {} []
  have all : (distributeAllTasks json coordinatorId (loggingHost rounds) schedule []).2 = sent := by
    unfold distributeAllTasks
    rw [Effect.bind_run_ok run]
    exact List.nil_append sent
  rw [List.count_eq_one_of_mem distinct listed] at count
  obtain ⟨message, only⟩ := List.length_eq_one_iff.1 count
  refine ⟨message, all ▸ only, fun around outbound msgType payload => ?_⟩
  have among : (satId, message) ∈ sent := by
    have mem : message ∈ sentTo satId sent := only ▸ List.mem_singleton_self message
    obtain ⟨entry, inside, rfl⟩ := List.mem_map.1 mem
    obtain ⟨inside, own⟩ := List.mem_filter.1 inside
    have name : entry.1 = satId := by simpa using own
    rw [← name]
    exact inside
  exact (built _ among).executes json coordinatorId wellFormed listed around msgType payload

theorem handleMessage_executes_sample : ∃ message,
    sentTo (lit "S2") (distributeAllTasks JsonText.library (lit "COORD") (loggingHost fun _ => sampleRound)
      (parseAllSatellites JsonText.library (some (JsonText.print distinctSchedule))) []).2 = [message] ∧
    ∃ trace, SatelliteSimulator.handleMessage JsonText.library
        { satelliteId := lit "S2", coordinatorId := lit "COORD" } (satelliteHost sampleSurroundings) message {} =
        (.ok (), trace) ∧
      trace.executed.map (·.taskId) = [lit "T2"] := by
  have records := records_of_acceptedBy distinctSchedule_accepted
  have ids : (parseAllSatellites JsonText.library (some (JsonText.print distinctSchedule))).satelliteIds =
      [lit "S1", lit "S2"] := records.satelliteIds.trans (by decide)
  have listed : lit "S2" ∈ (parseAllSatellites JsonText.library (some (JsonText.print distinctSchedule))).satelliteIds := by
    rw [ids]
    decide
  have tasks : tasksOf (parseAllSatellites JsonText.library (some (JsonText.print distinctSchedule))) (lit "S2") =
      listedIn (lit "S2") (sampleEntry (lit "S2") (lit "T2")) :=
    congrArg (·.getD []) (records.satelliteTasks (lit "S2"))
  obtain ⟨message, sent, executes⟩ := handleMessage_executes JsonText.library (lit "COORD")
    (parseAllSatellites_wellFormed JsonText.library (some (JsonText.print distinctSchedule)))
    (by rw [ids]; decide) listed (by rw [records.satellites]; exact listed) (by rw [tasks]; decide)
    (fun _ => sampleRound)
  obtain ⟨trace, run, executed⟩ := executes sampleSurroundings message rfl rfl
  refine ⟨message, sent, trace, run, ?_⟩
  rw [executed, tasks]
  decide

end Actuator.Coordinator
