import Actuator.Coordinator.Distribution
import Actuator.Coordinator.InterSatComm
import Actuator.Executor.SatelliteSimulator
import Actuator.Lib.Threads

/-!
# A run of the coordinator

`Coordinator::run` and the handlers that `sendMessage` starts on threads of
their own. The threads share the communication module and the maps that are
guarded by `task_status_mutex_`. What a thread does while it holds the mutex,
one send, and one call of `executeSingleTask` are one action each. During a run
no handler is registered or unregistered, so that a send may find a handler and
start its thread in one action (`Lifecycle` has two).

`sendThreadFunc` is not among these threads: what `sendMessage` queues for a node
without a local handler stays in the queue, and counts against its capacity. In
the program the coordinator and all satellites have local handlers, and a run
queues nothing. `LinkDelivery` is about the queue and the thread that empties it.
-/

namespace Actuator.Coordinator

open Actuator.Lib Actuator.Core Actuator.Parser Actuator.Executor

variable {D : Type}

/-! ## Tracking -/

/-- The maps guarded by `task_status_mutex_`. -/
structure Tracking where
  results : OrdMap Str Bool := OrdMap.empty
  finished : OrdMap Str Bool := OrdMap.empty
  expectedCounts : OrdMap Str Int32 := OrdMap.empty

namespace Tracking

/-- One round of the loop at the beginning of `run`. -/
def track (schedule : MultiSatSchedule) (tracking : Tracking) (satId : Str) : Tracking :=
  if (tasksOf schedule satId).isEmpty then tracking
  else {
    results := tracking.results.insert satId false
    finished := tracking.finished.insert satId false
    expectedCounts := tracking.expectedCounts.insert satId (Int32.ofNat (tasksOf schedule satId).length) }

/-- The first block of `run`. -/
def start (schedule : MultiSatSchedule) : Tracking := schedule.satelliteIds.foldl (track schedule) {}

/-- `satellite_success` for a tracked satellite. -/
def succeeds (expectedTaskCount : Int32) (ack : BatchTaskAssignAck) : Bool :=
  let processedTaskCount := Int32.ofNat (ack.acceptedTaskIds.length + ack.rejectedTaskIds.length)
  if 0 < expectedTaskCount ∧ 0 < processedTaskCount ∧ processedTaskCount ≠ expectedTaskCount then false
  else ack.accepted

/-- The block of `onCoordinatorBatchAck`. -/
def recordAck (tracking : Tracking) (ack : BatchTaskAssignAck) : Tracking :=
  match tracking.expectedCounts.find? ack.satelliteId with
  | none => tracking
  | some expectedTaskCount => { tracking with
      finished := tracking.finished.insert ack.satelliteId true
      results := tracking.results.insert ack.satelliteId (succeeds expectedTaskCount ack) }

/-- The predicate `run` waits for. -/
def allFinished (tracking : Tracking) : Bool := tracking.finished.entries.all (·.2)

/-- What `run` does with the unfinished satellites when the wait times out. -/
def giveUp (tracking : Tracking) : Tracking := { tracking with
  results := tracking.results.insertAll ((tracking.finished.entries.filter fun e => !e.2).map fun e => (e.1, false))
  finished := tracking.finished.mapValues fun _ => true }

/-- The satellite is tracked with the number of its tasks. -/
def Tracks (schedule : MultiSatSchedule) (tracking : Tracking) (satId : Str) : Prop :=
  tracking.expectedCounts.find? satId = some (Int32.ofNat (tasksOf schedule satId).length) ∧
    (tracking.finished.find? satId).isSome

/-- No satellite is finished. -/
def Unfinished (tracking : Tracking) : Prop := ∀ satId, tracking.finished.find? satId ≠ some true

theorem track_unfinished {schedule : MultiSatSchedule} {tracking : Tracking} (unfinished : tracking.Unfinished)
    (satId : Str) : (track schedule tracking satId).Unfinished := by
  intro other
  unfold track
  split
  · exact unfinished other
  · show (tracking.finished.insert satId false).find? other ≠ some true
    rw [OrdMap.find?_insert]
    split
    · simp
    · exact unfinished other

theorem track_self {schedule : MultiSatSchedule} (tracking : Tracking) {satId : Str}
    (busy : tasksOf schedule satId ≠ []) : (track schedule tracking satId).Tracks schedule satId := by
  unfold track Tracks
  rw [if_neg (by simpa using busy)]
  simp

theorem track_other {schedule : MultiSatSchedule} {tracking : Tracking} {satId : Str} (other : Str)
    (tracks : tracking.Tracks schedule satId) : (track schedule tracking other).Tracks schedule satId := by
  unfold track
  split
  · exact tracks
  · by_cases same : satId = other
    · subst same
      simp [Tracks]
    · obtain ⟨expected, finished⟩ := tracks
      simp [Tracks, OrdMap.find?_insert_of_ne _ _ same, expected, finished]

theorem foldl_track_unfinished {schedule : MultiSatSchedule} {tracking : Tracking} (unfinished : tracking.Unfinished)
    (satIds : List Str) : (satIds.foldl (track schedule) tracking).Unfinished :=
  List.foldlRecOn (motive := Unfinished) satIds _ unfinished fun _ held satId _ => track_unfinished held satId

theorem foldl_track_keeps {schedule : MultiSatSchedule} {tracking : Tracking} {satId : Str}
    (tracks : tracking.Tracks schedule satId) (satIds : List Str) :
    (satIds.foldl (track schedule) tracking).Tracks schedule satId :=
  List.foldlRecOn (motive := (Tracks schedule · satId)) satIds _ tracks fun _ held other _ => track_other other held

theorem foldl_track {schedule : MultiSatSchedule} (tracking : Tracking) {satId : Str} {satIds : List Str}
    (listed : satId ∈ satIds) (busy : tasksOf schedule satId ≠ []) :
    (satIds.foldl (track schedule) tracking).Tracks schedule satId := by
  induction satIds generalizing tracking with
  | nil => cases listed
  | cons other satIds ih =>
    rcases List.mem_cons.1 listed with rfl | later
    · exact foldl_track_keeps (track_self tracking busy) satIds
    · exact ih (track schedule tracking other) later

theorem start_unfinished (schedule : MultiSatSchedule) : (start schedule).Unfinished := by
  apply foldl_track_unfinished
  intro satId
  simp

/-- Every satellite with tasks is tracked. -/
theorem start_tracks {schedule : MultiSatSchedule} {satId : Str} (listed : satId ∈ schedule.satelliteIds)
    (busy : tasksOf schedule satId ≠ []) : (start schedule).Tracks schedule satId :=
  foldl_track {} listed busy

/-- An acknowledgement that speaks for every task decides the satellite's result. -/
theorem succeeds_of_length {n : Nat} {ack : BatchTaskAssignAck}
    (all : ack.acceptedTaskIds.length + ack.rejectedTaskIds.length = n) :
    succeeds (Int32.ofNat n) ack = ack.accepted := by
  unfold succeeds
  rw [all]
  exact if_neg fun differ => differ.2.2 rfl

/-- Once all are finished, each tracked satellite is. -/
theorem finished_of_allFinished {tracking : Tracking} (all : tracking.allFinished = true) {satId : Str}
    (tracked : (tracking.finished.find? satId).isSome) : tracking.finished.find? satId = some true := by
  obtain ⟨b, found⟩ := Option.isSome_iff_exists.1 tracked
  have done := List.all_eq_true.1 all (satId, b) (OrdMap.mem_entries.2 found)
  rw [found]
  exact congrArg some done

end Tracking

/-! ## Actions -/

/-- The local handlers: the coordinator's own, and one for each simulator. -/
inductive Handler where
  | coordinator
  | satellite (satId : Str)
deriving DecidableEq

/-- A call of `executeSingleTask` with its result. -/
structure Call where
  satId : Str
  task : TaskSegment
  taskOk : Bool

/-- What the threads share, with the calls and the acknowledgements so far. -/
structure Shared where
  comm : InterSatComm Handler
  tracking : Tracking := {}
  calls : List Call := []
  acks : List (Message × BatchTaskAssignAck) := []

inductive Action (D : Type) where
  | now
  | stamp
  | held
  | round
  | sendMessage (destNodeId : Str) (message : Message)
  | executeSingleTask (satId : Str) (task : TaskSegment)
  | startTracking
  | recordAck (message : Message) (ack : BatchTaskAssignAck)
  | awaitAcks
  /-- An exception leaves the thread, which ends the program. -/
  | terminate (what : Str)

/-- What an action returns. -/
@[reducible] def Action.Response : Action D → Type
  | now => UInt64
  | stamp => Stamp
  | held => Indeterminate D
  | round => Round D
  | sendMessage _ _ => Bool
  | executeSingleTask _ _ => Bool
  | startTracking => Unit
  | recordAck _ _ => Unit
  | awaitAcks => Bool
  | terminate _ => Empty

/-- A piece of a thread. -/
abbrev Thread (D : Type) := Program (Action D) Action.Response

/-! ## Programs -/

section Programs

def perform (action : Action D) : Thread D action.Response := Program.perform action

def throwing : Except Str Str → Thread D Str
  | .ok s => pure s
  | .error what => .act (.terminate what) Empty.elim

def coordinatorHost : Host (Thread D) D where
  round _ := perform .round
  throwing := throwing
  sendMessage dest message := perform (.sendMessage dest message)

def simulatorHost : SimulatorHost (Thread D) D where
  now := perform .now
  stamp := perform .stamp
  held := perform .held
  throwing := throwing
  sendMessage dest message := perform (.sendMessage dest message)
  executeSingleTask satId task := perform (.executeSingleTask satId task)

variable (json : JsonLibrary D) (coordinatorId : Str)

/-- `Coordinator::run`, once the module was started. -/
def run (schedule : MultiSatSchedule) : Thread D Unit := do
  perform .startTracking
  let _distributed ← distributeAllTasks json coordinatorId coordinatorHost schedule
  let _finished ← perform .awaitAcks
  return

variable [CxxDouble D]

def onCoordinatorBatchAck (message : Message) : Thread D Unit :=
  match parseBatchTaskAssignAckPayload json message.payload with
  | none => pure ()
  | some ack => perform (.recordAck message ack)

def onCoordinatorTaskProgress (message : Message) : Thread D Unit :=
  match parseTaskProgressPayload json message.payload with
  | none => pure ()
  | some _ => pure ()

def onCoordinatorTaskComplete (message : Message) : Thread D Unit :=
  match parseTaskCompletePayload json message.payload with
  | none => pure ()
  | some _ => pure ()

/-- `handleCoordinatorMessage` with the routes of `initializeMessageRouters`. -/
def handleCoordinatorMessage (message : Message) : Thread D Unit :=
  if message.header.msgType = .batchTaskAssignAck then onCoordinatorBatchAck json message
  else if message.header.msgType = .taskProgress then onCoordinatorTaskProgress json message
  else if message.header.msgType = .taskComplete then onCoordinatorTaskComplete json message
  else pure ()

/-- What the thread of a detached handler runs. -/
def handle (handler : Handler) (message : Message) : Thread D Unit :=
  match handler with
  | .coordinator => handleCoordinatorMessage json message
  | .satellite satId =>
    SatelliteSimulator.handleMessage json { satelliteId := satId, coordinatorId } simulatorHost message

end Programs

/-! ## The system -/

/-- The `true` of `sendMessage`. -/
def InterSatComm.SendResult.sent {H : Type} : SendResult H → Bool
  | .rejected => false
  | _ => true

/-- The thread `sendMessage` starts. -/
def InterSatComm.SendResult.started {H T : Type} (handle : H → Message → T) : SendResult H → List T
  | .detached handler outbound => [handle handler outbound]
  | _ => []

/-- What is fixed for a run. -/
structure Setting (D : Type) where
  json : JsonLibrary D
  coordinatorId : Str
  schedule : MultiSatSchedule
  /-- The satellites that have a simulator. -/
  simulators : Str → Bool
  /-- The wait for acknowledgements may time out. -/
  timesOut : Bool

/-- `registerLocalMessageHandlers`. -/
def registerLocalMessageHandlers (setting : Setting D) (comm : InterSatComm Handler) : InterSatComm Handler :=
  setting.schedule.satelliteIds.foldl (fun comm satId =>
    if setting.simulators satId then comm.registerLocalHandler satId (.satellite satId) else comm)
    (comm.registerLocalHandler setting.coordinatorId .coordinator)

variable [CxxDouble D]

/-- What the actions do. -/
def performs (setting : Setting D) :
    (a : Action D) → Shared → a.Response → Shared → List (Thread D Unit) → Prop
  | .now, s, _, s', started => s' = s ∧ started = []
  | .stamp, s, _, s', started => s' = s ∧ started = []
  | .held, s, _, s', started => s' = s ∧ started = []
  | .round, s, _, s', started => s' = s ∧ started = []
  | .sendMessage dest message, s, sent, s', started =>
    ∃ now pushedAt, let outcome := s.comm.sendMessage now pushedAt dest message
      s' = { s with comm := outcome.2 } ∧ sent = outcome.1.sent ∧
        started = outcome.1.started (handle setting.json setting.coordinatorId)
  | .executeSingleTask satId task, s, taskOk, s', started =>
    s' = { s with calls := s.calls ++ [{ satId, task, taskOk }] } ∧ started = []
  | .startTracking, s, _, s', started => s' = { s with tracking := .start setting.schedule } ∧ started = []
  | .recordAck message ack, s, _, s', started =>
    s' = { s with tracking := s.tracking.recordAck ack, acks := s.acks ++ [(message, ack)] } ∧ started = []
  | .awaitAcks, s, finished, s', started =>
    started = [] ∧ (finished = true ∧ s.tracking.allFinished ∧ s' = s ∨
      finished = false ∧ setting.timesOut ∧ ¬s.tracking.allFinished ∧ s' = { s with tracking := s.tracking.giveUp })
  | .terminate _, _, _, _, _ => False

def system (setting : Setting D) : Machine (Action D) Action.Response Shared := ⟨performs setting⟩

/-- The beginning of a run, with whatever the module holds besides the handlers. -/
def initialPool (setting : Setting D) (comm : InterSatComm Handler) : Pool (Action D) Action.Response Shared where
  shared := { comm := registerLocalMessageHandlers setting { comm with localHandlers := OrdMap.empty } }
  threads := [run setting.json setting.coordinatorId setting.schedule]

end Actuator.Coordinator
