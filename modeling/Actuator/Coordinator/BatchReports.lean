import Actuator.Coordinator.Distribution
import Actuator.Coordinator.TaskReports
import Actuator.Executor.SatelliteSimulator

/-!
# The reports of a batch

What a satellite sends while it handles a batch: for each task a report of its
progress, then its execution, then a report of its completion, and behind all
tasks one acknowledgement (`handleBatchTaskAssign_reports`).
-/

namespace Actuator.Coordinator

open Actuator.Lib Actuator.Core Actuator.Parser Actuator.Executor

variable {D : Type}

/-! ## A satellite that is watched -/

/-- What a satellite finds around it: each reading, and the outcome of each send and of each task, by the number of the
step that asks for it. -/
structure Surroundings (D : Type) where
  now : Nat → UInt64
  stamp : Nat → Stamp
  held : Nat → Indeterminate D
  sent : Nat → Bool
  taskOk : Nat → Bool

inductive SatelliteEvent where
  | sent (destNodeId : Str) (message : Message)
  | executed (task : TaskSegment) (taskOk : Bool)

structure SatelliteTrace where
  steps : Nat := 0
  events : List SatelliteEvent := []

/-- The task, if one was executed. -/
def SatelliteEvent.task : SatelliteEvent → Option TaskSegment
  | sent _ _ => none
  | executed task _ => some task

/-- The arguments of `executeSingleTask`. -/
def SatelliteTrace.executed (trace : SatelliteTrace) : List TaskSegment := trace.events.filterMap SatelliteEvent.task

/-- A step that finds a value, and leaves no event. -/
def ask {α : Type} (values : Nat → α) : Effect SatelliteTrace Str α := fun trace =>
  (.ok (values trace.steps), { trace with steps := trace.steps + 1 })

/-- A step that finds a value, and leaves an event that may say which. -/
def askAloud {α : Type} (values : Nat → α) (event : α → SatelliteEvent) : Effect SatelliteTrace Str α := fun trace =>
  (.ok (values trace.steps), { steps := trace.steps + 1, events := trace.events ++ [event (values trace.steps)] })

def satelliteHost (around : Surroundings D) : SimulatorHost (Effect SatelliteTrace Str) D where
  now := ask around.now
  stamp := ask around.stamp
  held := ask around.held
  throwing payload := Effect.readThrowing fun _ => payload
  sendMessage dest message := askAloud around.sent fun _ => .sent dest message
  executeSingleTask _ task := askAloud around.taskOk (.executed task)

/-! ## Reports -/

variable (json : JsonLibrary D) (config : SatelliteSimulatorConfig)

/-- A message of this type to the coordinator, with this report. -/
structure Carries (type : MessageType) (report : Except Str Str) (message : Message) : Prop where
  msgType : message.header.msgType = type
  sourceNodeId : message.header.sourceNodeId = config.satelliteId
  destNodeId : message.header.destNodeId = config.coordinatorId
  payload : report = .ok message.payload

/-- One round of the loop over the tasks. -/
structure TaskRound where
  /-- How many tasks came before. -/
  completed : Nat
  task : TaskSegment
  taskOk : Bool
  progress : Message
  complete : Message

namespace TaskRound

def events (coordinatorId : Str) (round : TaskRound) : List SatelliteEvent :=
  [.sent coordinatorId round.progress, .executed round.task round.taskOk, .sent coordinatorId round.complete]

/-- The progress that the round reports. -/
def report (taskTotal : Int32) (round : TaskRound) : TaskProgressMessage :=
  runningProgress round.task (Int32.ofNat round.completed) taskTotal

def outcome (round : TaskRound) : Str × Bool := (round.task.taskId, round.taskOk)

theorem executed_events (coordinatorId : Str) (rounds : List TaskRound) :
    (rounds.flatMap (·.events coordinatorId)).filterMap SatelliteEvent.task = rounds.map (·.task) := by
  induction rounds with
  | nil => rfl
  | cons round rounds ih =>
    rw [List.flatMap_cons, List.filterMap_append, ih]
    rfl

structure Reported (taskTotal : Int32) (round : TaskRound) : Prop where
  progress : Carries config .taskProgress (serializeTaskProgressPayload json (round.report taskTotal)) round.progress
  complete : Carries config .taskComplete (serializeTaskCompletePayload json (taskComplete round.task round.taskOk))
    round.complete

end TaskRound

theorem SatelliteTrace.executed_rounds {trace : SatelliteTrace} {coordinatorId dest : Str} {rounds : List TaskRound}
    {message : Message} (events : trace.events = rounds.flatMap (·.events coordinatorId) ++ [.sent dest message]) :
    trace.executed = rounds.map (·.task) := by
  unfold SatelliteTrace.executed
  rw [events, List.filterMap_append, TaskRound.executed_events]
  exact List.append_nil _

/-! ## What the parts of the handler send -/

section Parts

variable {json config} (around : Surroundings D)

/-- What a part of the handler does. -/
abbrev Leaves {α : Type} (x : Effect SatelliteTrace Str α) (post : α → List SatelliteEvent → Prop) : Prop :=
  Effect.Appends SatelliteTrace.events x post

theorem leaves_ask {α : Type} (values : Nat → α) : Leaves (ask values) fun _ events => events = [] :=
  fun trace => ⟨values trace.steps, { trace with steps := trace.steps + 1 }, [], rfl, (List.append_nil _).symm, rfl⟩

theorem leaves_askAloud {α : Type} (values : Nat → α) (event : α → SatelliteEvent) :
    Leaves (askAloud values event) fun a events => events = [event a] :=
  fun trace => ⟨values trace.steps, _, [event (values trace.steps)], rfl, rfl, rfl⟩

theorem leaves_sendMessage (dest : Str) (message : Message) :
    Leaves ((satelliteHost around).sendMessage dest message) fun _ events => events = [.sent dest message] :=
  leaves_askAloud around.sent fun _ => .sent dest message

theorem leaves_executeSingleTask (satId : Str) (task : TaskSegment) :
    Leaves ((satelliteHost around).executeSingleTask satId task) fun taskOk events => events = [.executed task taskOk] :=
  leaves_askAloud around.taskOk (.executed task)

/-- A report whose payload has a text form is sent. -/
theorem leaves_report {type : MessageType} {priority : Priority} {report : Json D} (printable : report.Printable) :
    Leaves (SatelliteSimulator.report config (satelliteHost around) type priority (json.dump report)) fun _ events =>
      ∃ message, events = [.sent config.coordinatorId message] ∧ Carries config type (json.dump report) message := by
  obtain ⟨payload, dumped, _⟩ := json.parse_dump report printable
  have read : Leaves ((satelliteHost around).throwing (json.dump report)) fun text events => text = payload ∧ events = [] :=
    fun trace => ⟨payload, trace, [], congrArg (·, trace) dumped, (List.append_nil _).symm, rfl, rfl⟩
  unfold SatelliteSimulator.report
  apply read.bind
  rintro _ _ ⟨rfl, rfl⟩
  apply (leaves_ask around.stamp).bind
  rintro stamp _ rfl
  apply (leaves_sendMessage around _ _).bind
  rintro _ _ rfl
  apply Effect.appends_pure
  exact ⟨_, rfl, ⟨rfl, rfl, rfl, dumped⟩⟩

theorem runningProgress_utf8 {task : TaskSegment} (segmentId : ValidUtf8 task.segmentId) (taskId : ValidUtf8 task.taskId)
    (completed taskTotal : Int32) : (runningProgress task completed taskTotal).Utf8 :=
  ⟨segmentId, taskId, validUtf8_lit _, validUtf8_lit _, by simp [Json.Utf8Map, runningProgress]⟩

theorem taskComplete_utf8 {task : TaskSegment} (segmentId : ValidUtf8 task.segmentId) (taskId : ValidUtf8 task.taskId)
    (taskOk : Bool) : (taskComplete task taskOk).Utf8 :=
  ⟨segmentId, taskId, validUtf8_nil, validUtf8_nil, validUtf8_lit _, by simp [Json.Utf8Map, taskComplete]⟩

/-- The ids of the task are valid UTF-8. -/
structure Named (task : TaskSegment) : Prop where
  segmentId : ValidUtf8 task.segmentId
  taskId : ValidUtf8 task.taskId

theorem leaves_runTask {taskMsg : TaskAssignMessage D} (named : Named (taskAssignToSegment taskMsg config.satelliteId))
    (taskTotal : Int32) {st : BatchState} {k : Nat} (completed : st.completed = Int32.ofNat k) :
    Leaves (SatelliteSimulator.runTask json config (satelliteHost around) taskTotal st taskMsg) fun st' events =>
      ∃ round : TaskRound, events = round.events config.coordinatorId ∧ round.completed = k ∧
        round.task = taskAssignToSegment taskMsg config.satelliteId ∧ round.Reported json config taskTotal ∧
        st' = st.record round.task.taskId round.taskOk := by
  unfold SatelliteSimulator.runTask
  apply (leaves_report around
    (TaskProgressMessage.printable (runningProgress_utf8 named.segmentId named.taskId st.completed taskTotal))).bind
  rintro _ _ ⟨progress, rfl, progressed⟩
  apply (leaves_executeSingleTask around _ _).bind
  rintro taskOk _ rfl
  apply (leaves_report around
    (TaskCompleteMessage.printable (taskComplete_utf8 named.segmentId named.taskId taskOk))).bind
  rintro _ _ ⟨complete, rfl, completion⟩
  apply Effect.appends_pure
  rw [completed] at progressed
  exact ⟨⟨k, _, taskOk, progress, complete⟩, rfl, rfl, rfl, ⟨progressed, completion⟩, rfl⟩

/-- Each round begins where the one before it ended. -/
theorem leaves_runTasks {tasks : List (TaskAssignMessage D)}
    (named : ∀ task ∈ tasks, Named (taskAssignToSegment task config.satelliteId)) (taskTotal : Int32) {st : BatchState}
    {k : Nat} (completed : st.completed = Int32.ofNat k) :
    Leaves (SatelliteSimulator.runTasks json config (satelliteHost around) taskTotal st tasks) fun st' events =>
      ∃ rounds : List TaskRound, events = rounds.flatMap (·.events config.coordinatorId) ∧
        rounds.map (·.completed) = List.range' k tasks.length ∧
        rounds.map (·.task) = tasks.map (taskAssignToSegment · config.satelliteId) ∧
        (∀ round ∈ rounds, round.Reported json config taskTotal) ∧ st' = st.recordAll (rounds.map TaskRound.outcome) := by
  induction tasks generalizing st k with
  | nil =>
    apply Effect.appends_pure
    exact ⟨[], rfl, rfl, rfl, by simp, rfl⟩
  | cons taskMsg tasks ih =>
    obtain ⟨first, later⟩ := List.forall_mem_cons.1 named
    unfold SatelliteSimulator.runTasks
    apply (leaves_runTask around first taskTotal completed).bind
    rintro _ _ ⟨round, rfl, rfl, task, reported, rfl⟩
    have next : (st.record round.task.taskId round.taskOk).completed = Int32.ofNat (round.completed + 1) := by
      rw [Int32.ofNat_add, ← completed]
      rfl
    apply (ih later next).mono
    rintro _ _ ⟨rounds, rfl, counts, tasks, all, rfl⟩
    refine ⟨round :: rounds, rfl, ?_, ?_, List.forall_mem_cons.2 ⟨reported, all⟩, rfl⟩
    · rw [List.map_cons, counts, List.length_cons, List.range'_succ]
    · rw [List.map_cons, tasks, task, List.map_cons]

end Parts

/-! ## The acknowledgement -/

section Acknowledgement

/-- The tasks that ended well are listed behind those listed before, in order. -/
theorem recordAll_acceptedTaskIds (st : BatchState) (outcomes : List (Str × Bool)) :
    (st.recordAll outcomes).ack.acceptedTaskIds =
      st.ack.acceptedTaskIds ++ (outcomes.filter (·.2)).map (·.1) := by
  induction outcomes generalizing st with
  | nil => exact (List.append_nil _).symm
  | cons outcome outcomes ih =>
    obtain ⟨taskId, taskOk⟩ := outcome
    apply (ih (st.record taskId taskOk)).trans
    cases taskOk with
    | true => exact List.append_assoc st.ack.acceptedTaskIds [taskId] _
    | false => rfl

theorem recordAll_rejectedTaskIds (st : BatchState) (outcomes : List (Str × Bool)) :
    (st.recordAll outcomes).ack.rejectedTaskIds =
      st.ack.rejectedTaskIds ++ (outcomes.filter (!·.2)).map (·.1) := by
  induction outcomes generalizing st with
  | nil => exact (List.append_nil _).symm
  | cons outcome outcomes ih =>
    obtain ⟨taskId, taskOk⟩ := outcome
    apply (ih (st.record taskId taskOk)).trans
    cases taskOk with
    | true => rfl
    | false => exact List.append_assoc st.ack.rejectedTaskIds [taskId] _

/-- Below the overflow of the product, the percentage is the quotient of the natural numbers. -/
theorem progressPercent_ofNat {i n : Nat} (before : i < n) (small : 100 * n < 2147483648) :
    (progressPercent (Int32.ofNat i) (Int32.ofNat n)).toNat = i * 100 / n ∧ i * 100 / n < 100 := by
  have total : (if 1 < Int32.ofNat n then Int32.ofNat n else 1) = Int32.ofNat n := by
    split
    · rfl
    · rename_i low
      have unit : (1 : Int32).toInt = 1 := rfl
      rw [Int32.lt_iff_toInt_lt, Int32.toInt_ofNat_of_lt (by omega)] at low
      have one : n = 1 := by omega
      rw [one]
      rfl
  have product : Int32.ofNat i * 100 = Int32.ofNat (i * 100) := (Int32.ofNat_mul i 100).symm
  have below : i * 100 / n < 100 := by
    apply (Nat.div_lt_iff_lt_mul (by omega)).2
    omega
  refine ⟨?_, below⟩
  unfold progressPercent
  rw [total, product, ← Int32.ofNat_div (by omega) (by omega), Int32.toUInt32_ofNat', UInt32.toNat_toUInt8,
    UInt32.toNat_ofNat_of_lt' (below.trans (by decide))]
  exact Nat.mod_eq_of_lt (by omega)

/-- The percentages of a batch grow and stay below 100. -/
theorem percents_grow {n : Nat} (small : 100 * n < 2147483648) :
    let percents := (List.range' 0 n).map fun i => progressPercent (Int32.ofNat i) (Int32.ofNat n)
    percents.Pairwise (· ≤ ·) ∧ ∀ percent ∈ percents, percent < 100 := by
  intro percents
  constructor
  · apply List.pairwise_map.2
    have ordered : (List.range' 0 n).Pairwise (· < ·) := List.pairwise_lt_range'
    apply ordered.imp_of_mem
    intro i j _ inside earlier
    have late : j < n := by simpa using inside
    rw [UInt8.le_iff_toNat_le, (progressPercent_ofNat (earlier.trans late) small).1, (progressPercent_ofNat late small).1]
    exact Nat.div_le_div_right (Nat.mul_le_mul_right 100 earlier.le)
  · intro percent mem
    obtain ⟨i, inside, rfl⟩ := List.mem_map.1 mem
    obtain ⟨quotient, below⟩ := progressPercent_ofNat (show i < n by simpa using inside) small
    rw [UInt8.lt_iff_toNat_lt, quotient]
    exact below

end Acknowledgement

/-! ## The payload of a batch -/

theorem eq_ok_of_toOption {E α : Type} {x : Except E α} {a : α} (returned : x.toOption = some a) : x = .ok a := by
  cases x with
  | error e => cases returned
  | ok b => exact congrArg Except.ok (Option.some.inj returned)

theorem readAll_all {α : Type} {read : Json D → Except Str α} {P : α → Prop} {items : List (Json D)}
    (each : ∀ item ∈ items, ∀ a, read item = .ok a → P a) {as : List α} (all : readAll read items = .ok as) :
    ∀ a ∈ as, P a := by
  induction items generalizing as with
  | nil =>
    cases all
    simp
  | cons item items ih =>
    obtain ⟨first, later⟩ := List.forall_mem_cons.1 each
    obtain ⟨a, readFirst, rest⟩ := except_bind_eq_ok all
    obtain ⟨rest', readRest, same⟩ := except_bind_eq_ok rest
    cases same
    exact List.forall_mem_cons.2 ⟨first a readFirst, ih later readRest⟩

theorem printable_elements {j : Json D} (printable : j.Printable) : ∀ item ∈ j.elements, item.Printable := by
  cases j with
  | null => simp [Json.elements]
  | array items => exact (Json.printableItems_iff items).1 printable
  | object members =>
    intro item mem
    obtain ⟨member, inside, rfl⟩ := List.mem_map.1 mem
    exact ((Json.printableMembers_iff members).1 printable.2 member inside).2
  | _ => exact List.forall_mem_singleton.2 printable

variable [CxxDouble D] {json}

/-- The reader refuses text that is not valid UTF-8. -/
theorem parseBatchTaskAssignPayload_named {held : Indeterminate D} {payload : Str} {batch : BatchTaskAssignMessage D}
    (parsed : parseBatchTaskAssignPayload json held payload = some batch) :
    ValidUtf8 batch.messageId ∧ ∀ task ∈ batch.scheduledTasks, Named (taskAssignToSegment task config.satelliteId) := by
  unfold parseBatchTaskAssignPayload at parsed
  obtain ⟨j, document, read⟩ := except_bind_eq_ok (eq_ok_of_toOption parsed)
  have printable := json.parse_printable payload j document
  unfold readBatchTaskAssign at read
  obtain ⟨messageId, messageRead, read⟩ := except_bind_eq_ok read
  obtain ⟨_, _, read⟩ := except_bind_eq_ok read
  obtain ⟨_, _, read⟩ := except_bind_eq_ok read
  obtain ⟨_, _, read⟩ := except_bind_eq_ok read
  obtain ⟨_, _, read⟩ := except_bind_eq_ok read
  obtain ⟨_, _, read⟩ := except_bind_eq_ok read
  obtain ⟨_, _, read⟩ := except_bind_eq_ok read
  obtain ⟨tasks, tasksRead, read⟩ := except_bind_eq_ok read
  cases read
  refine ⟨printable.valueString validUtf8_nil messageRead, ?_⟩
  unfold listUnder at tasksRead
  split at tasksRead
  · cases tasksRead
    simp
  · rename_i items found
    refine readAll_all (fun item mem task taskRead => ?_) tasksRead
    have inside := printable_elements (printable.find? found).2 item mem
    unfold parseTaskAssign at taskRead
    obtain ⟨segmentId, segmentRead, taskRead⟩ := except_bind_eq_ok taskRead
    obtain ⟨taskId, idRead, taskRead⟩ := except_bind_eq_ok taskRead
    obtain ⟨_, _, taskRead⟩ := except_bind_eq_ok taskRead
    obtain ⟨_, _, taskRead⟩ := except_bind_eq_ok taskRead
    obtain ⟨_, _, taskRead⟩ := except_bind_eq_ok taskRead
    obtain ⟨_, _, taskRead⟩ := except_bind_eq_ok taskRead
    cases taskRead
    exact ⟨inside.valueString validUtf8_nil segmentRead, inside.valueString validUtf8_nil idRead⟩

/-! ## The handler -/

variable (json)

/-- What the satellite reports about a batch, round by round, and what it acknowledges. -/
structure BatchReported (batch : BatchTaskAssignMessage D) (rounds : List TaskRound) (ack : BatchTaskAssignAck) : Prop where
  tasks : rounds.map (·.task) = batch.scheduledTasks.map (taskAssignToSegment · config.satelliteId)
  reported : ∀ round ∈ rounds, round.Reported json config (Int32.ofNat batch.scheduledTasks.length)
  /-- The product of the percentage fits into an `int`. -/
  percents : 100 * batch.scheduledTasks.length < 2147483648 →
    let percents := rounds.map fun round => (round.report (Int32.ofNat batch.scheduledTasks.length)).progressPercent
    percents.Pairwise (· ≤ ·) ∧ ∀ percent ∈ percents, percent < 100
  acceptedTaskIds : ack.acceptedTaskIds = (rounds.filter (·.taskOk)).map (·.task.taskId)
  rejectedTaskIds : ack.rejectedTaskIds = (rounds.filter (!·.taskOk)).map (·.task.taskId)
  accepted : ack.accepted = true ↔ ∀ round ∈ rounds, round.taskOk = true

variable {json config}

omit [CxxDouble D] in
/-- The acknowledgement of the rounds is read off the loop state. -/
theorem batchReported_of_rounds {batch : BatchTaskAssignMessage D} {rounds : List TaskRound} {st : BatchState}
    (counts : rounds.map (·.completed) = List.range' 0 batch.scheduledTasks.length)
    (tasks : rounds.map (·.task) = batch.scheduledTasks.map (taskAssignToSegment · config.satelliteId))
    (reported : ∀ round ∈ rounds, round.Reported json config (Int32.ofNat batch.scheduledTasks.length))
    (fresh : st.allSuccess = true ∧ st.ack.acceptedTaskIds = [] ∧ st.ack.rejectedTaskIds = []) :
    BatchReported json config batch rounds
      { (st.recordAll (rounds.map TaskRound.outcome)).ack with
        accepted := (st.recordAll (rounds.map TaskRound.outcome)).allSuccess } where
  tasks
  reported
  percents small := by
    have grow := percents_grow small
    rw [← counts, List.map_map] at grow
    exact grow
  acceptedTaskIds := by
    apply (recordAll_acceptedTaskIds st _).trans
    rw [fresh.2.1, List.nil_append, List.filter_map, List.map_map]
    rfl
  rejectedTaskIds := by
    apply (recordAll_rejectedTaskIds st _).trans
    rw [fresh.2.2, List.nil_append, List.filter_map, List.map_map]
    rfl
  accepted := by
    show (st.recordAll _).allSuccess = true ↔ _
    rw [BatchState.recordAll_allSuccess, fresh.1, Bool.true_and, List.all_map, List.all_eq_true]
    rfl

section Handler

variable (around : Surroundings D)

variable (json config) in
omit [CxxDouble D] in
/-- The one acknowledgement behind whatever came before. -/
theorem leaves_sendAck {ack : BatchTaskAssignAck} (utf8 : ack.Utf8) :
    Leaves (SatelliteSimulator.sendAck json config (satelliteHost around) ack) fun _ events =>
      ∃ message, events = [.sent config.coordinatorId message] ∧
        Carries config .batchTaskAssignAck (serializeBatchTaskAssignAckPayload json ack) message :=
  leaves_report around (BatchTaskAssignAck.printable utf8)

omit [CxxDouble D] in
theorem leaves_runBatch {batch : BatchTaskAssignMessage D} {ack : BatchTaskAssignAck} (utf8 : ack.Utf8)
    (fresh : ack.acceptedTaskIds = [] ∧ ack.rejectedTaskIds = []) (messageId : ValidUtf8 batch.messageId)
    (named : ∀ task ∈ batch.scheduledTasks, Named (taskAssignToSegment task config.satelliteId)) :
    Leaves (SatelliteSimulator.runBatch json config (satelliteHost around) ack batch) fun _ events =>
      ∃ rounds ack' message,
        events = rounds.flatMap (·.events config.coordinatorId) ++ [.sent config.coordinatorId message] ∧
        BatchReported json config batch rounds ack' ∧
        Carries config .batchTaskAssignAck (serializeBatchTaskAssignAckPayload json ack') message := by
  unfold SatelliteSimulator.runBatch
  apply (leaves_runTasks around named _ rfl).bind
  rintro _ _ ⟨rounds, rfl, counts, tasks, reported, rfl⟩
  have ids : ∀ outcome ∈ rounds.map TaskRound.outcome, ValidUtf8 outcome.1 := by
    intro outcome mem
    obtain ⟨round, inside, rfl⟩ := List.mem_map.1 mem
    have among : round.task ∈ rounds.map (·.task) := List.mem_map_of_mem inside
    rw [tasks] at among
    obtain ⟨task, listed, same⟩ := List.mem_map.1 among
    rw [TaskRound.outcome, ← same]
    exact (named task listed).taskId
  have start : ({ ack with messageId := batch.messageId } : BatchTaskAssignAck).Utf8 := { utf8 with messageId }
  let st : BatchState := { completed := 0, allSuccess := true, ack := { ack with messageId := batch.messageId } }
  have final : (st.recordAll (rounds.map TaskRound.outcome)).ack.Utf8 := BatchState.recordAll_utf8 start ids
  have acknowledged : BatchTaskAssignAck.Utf8 { (st.recordAll (rounds.map TaskRound.outcome)).ack with
      accepted := (st.recordAll (rounds.map TaskRound.outcome)).allSuccess } := { final with }
  apply (leaves_sendAck json config around acknowledged).mono
  rintro _ _ ⟨message, rfl, carries⟩
  exact ⟨rounds, _, message, rfl, batchReported_of_rounds counts tasks reported ⟨rfl, fresh⟩, carries⟩

end Handler

theorem initialAck_utf8 {satId : Str} (name : ValidUtf8 satId) (timestamp : UInt64) : (initialAck satId timestamp).Utf8 :=
  ⟨validUtf8_nil, name, name, by simp [initialAck], by simp [initialAck], by simp [Json.Utf8Map, initialAck]⟩

/-- The handler up to its branch. -/
theorem handleBatchTaskAssign_run (around : Surroundings D) (message : Message) :
    SatelliteSimulator.handleBatchTaskAssign json config (satelliteHost around) message {} =
      (match parseBatchTaskAssignPayload json (around.held 1) message.payload with
        | none => SatelliteSimulator.sendAck json config (satelliteHost around)
          { initialAck config.satelliteId (around.now 0) with
            rejectionReasons := (initialAck config.satelliteId (around.now 0)).rejectionReasons.insert (lit "payload")
              (lit "invalid batch task payload") }
        | some batch => SatelliteSimulator.runBatch json config (satelliteHost around)
          (initialAck config.satelliteId (around.now 0)) batch) { steps := 2 } := by
  have timed : (satelliteHost around).now {} = (.ok (around.now 0), { steps := 1 }) := rfl
  have held : (satelliteHost around).held { steps := 1 } = (.ok (around.held 1), { steps := 2 }) := rfl
  unfold SatelliteSimulator.handleBatchTaskAssign
  rw [Effect.bind_run_ok timed]
  refine (Effect.bind_run_ok held).trans ?_
  cases parseBatchTaskAssignPayload json (around.held 1) message.payload <;> rfl

variable (json config) in
/-- A batch that parses. -/
theorem handleBatchTaskAssign_parsed (name : ValidUtf8 config.satelliteId) (around : Surroundings D) {message : Message}
    {batch : BatchTaskAssignMessage D}
    (parsed : parseBatchTaskAssignPayload json (around.held 1) message.payload = some batch) :
    ∃ trace rounds ack ackMessage,
      SatelliteSimulator.handleBatchTaskAssign json config (satelliteHost around) message {} = (.ok (), trace) ∧
      trace.events = rounds.flatMap (TaskRound.events config.coordinatorId) ++ [.sent config.coordinatorId ackMessage] ∧
      BatchReported json config batch rounds ack ∧
      Carries config .batchTaskAssignAck (serializeBatchTaskAssignAckPayload json ack) ackMessage := by
  obtain ⟨messageId, named⟩ := parseBatchTaskAssignPayload_named config parsed
  obtain ⟨_, trace, _, run, logged, rounds, ack, ackMessage, rfl, reported, carries⟩ :=
    leaves_runBatch around (initialAck_utf8 name (around.now 0)) ⟨rfl, rfl⟩ messageId named { steps := 2 }
  refine ⟨trace, rounds, ack, ackMessage, ?_, logged, reported, carries⟩
  rw [handleBatchTaskAssign_run, parsed]
  exact run

variable (json config) in
/-- Whatever the payload, the satellite sends one acknowledgement, and that last. If the payload does not parse, it
executes nothing and does not accept. Otherwise it reports the progress of each task, executes it and reports its
completion, task by task. -/
theorem handleBatchTaskAssign_reports (name : ValidUtf8 config.satelliteId) (around : Surroundings D)
    (message : Message) :
    ∃ trace ack ackMessage,
      SatelliteSimulator.handleBatchTaskAssign json config (satelliteHost around) message {} = (.ok (), trace) ∧
      Carries config .batchTaskAssignAck (serializeBatchTaskAssignAckPayload json ack) ackMessage ∧
      (parseBatchTaskAssignPayload json (around.held 1) message.payload = none →
        trace.events = [.sent config.coordinatorId ackMessage] ∧ ack.accepted = false) ∧
      ∀ batch, parseBatchTaskAssignPayload json (around.held 1) message.payload = some batch →
        ∃ rounds : List TaskRound,
          trace.events = rounds.flatMap (·.events config.coordinatorId) ++ [.sent config.coordinatorId ackMessage] ∧
          BatchReported json config batch rounds ack := by
  cases parsed : parseBatchTaskAssignPayload json (around.held 1) message.payload with
  | none =>
    have initial := initialAck_utf8 name (around.now 0)
    have reasons := initial.rejectionReasons.insert (validUtf8_lit "payload") (validUtf8_lit "invalid batch task payload")
    have utf8 : BatchTaskAssignAck.Utf8 { initialAck config.satelliteId (around.now 0) with
        rejectionReasons := (initialAck config.satelliteId (around.now 0)).rejectionReasons.insert (lit "payload")
          (lit "invalid batch task payload") } := { initial with rejectionReasons := reasons }
    obtain ⟨_, trace, _, run, logged, ackMessage, rfl, carries⟩ :=
      leaves_sendAck json config around utf8 { steps := 2 }
    refine ⟨trace, _, ackMessage, ?_, carries, fun _ => ⟨logged, rfl⟩, fun batch same => ?_⟩
    · rw [handleBatchTaskAssign_run, parsed]
      exact run
    · cases same
  | some batch =>
    obtain ⟨trace, rounds, ack, ackMessage, run, events, reported, carries⟩ :=
      handleBatchTaskAssign_parsed json config name around parsed
    refine ⟨trace, ack, ackMessage, run, carries, fun broken => ?_, fun other same => ?_⟩
    · cases broken
    · cases same
      exact ⟨rounds, events, reported⟩

/-- A satellite on which every other reading differs and every second step fails. -/
def sampleSurroundings : Surroundings FixedPoint where
  now n := UInt64.ofNat n
  stamp n := { now := UInt64.ofNat n, header := {} }
  held n := sampleRound.held n
  sent n := n % 2 = 0
  taskOk n := n % 2 = 1

def twoTasks : Message where
  header := { msgType := .batchTaskAssign }
  payload := JsonText.print (.object [(lit "scheduled_tasks", .array [
    .object [(lit "task_id", .string (lit "T1"))], .object [(lit "task_id", .string (lit "T2"))]])])

theorem twoTasks_parsed :
    (parseBatchTaskAssignPayload JsonText.library (sampleSurroundings.held 1) twoTasks.payload).map (fun batch =>
      batch.scheduledTasks.map (·.taskId)) = some [lit "T1", lit "T2"] := by
  decide +kernel

theorem handleBatchTaskAssign_reports_sample : ∃ trace ackMessage, ∃ ack : BatchTaskAssignAck, ∃ rounds : List TaskRound,
    SatelliteSimulator.handleBatchTaskAssign JsonText.library { satelliteId := lit "S1", coordinatorId := lit "COORD" }
      (satelliteHost sampleSurroundings) twoTasks {} = (.ok (), trace) ∧
    trace.events = rounds.flatMap (·.events (lit "COORD")) ++ [.sent (lit "COORD") ackMessage] ∧
    rounds.map (·.task.taskId) = [lit "T1", lit "T2"] ∧
    (ack.accepted = true ↔ ∀ round ∈ rounds, round.taskOk = true) := by
  obtain ⟨batch, parsed, ids⟩ := Option.map_eq_some_iff.1 twoTasks_parsed
  obtain ⟨trace, ack, ackMessage, run, _, _, reports⟩ := handleBatchTaskAssign_reports JsonText.library
    { satelliteId := lit "S1", coordinatorId := lit "COORD" } (validUtf8_lit _) sampleSurroundings twoTasks
  obtain ⟨rounds, events, reported⟩ := reports batch parsed
  refine ⟨trace, ackMessage, ack, rounds, run, events, ?_, reported.accepted⟩
  have same := congrArg (List.map (·.taskId)) reported.tasks
  rw [List.map_map, List.map_map] at same
  exact same.trans ids

end Actuator.Coordinator
