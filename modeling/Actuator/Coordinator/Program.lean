import Actuator.Coordinator.Startup

/-!
# The program from its start

What `main` does to the coordinator, over the model of the runs: the fleet that
an initialization sets up has the satellites of the document, each with the
variables that its simulator has read there, and so its run computes what the
document says (`started_computes`), whatever the object has gone through before.
-/

namespace Actuator.Coordinator

open Actuator.Lib Actuator.Core Actuator.Parser Actuator.Executor

variable {D : Type} [CxxDouble D]

/-- What a run meets besides the coordinator. -/
structure World (D : Type) where
  cfg : ExecutorConfig
  behaviorTreePath : Str
  content : Option Str
  mailbox : VarMap D
  timesOut : Bool

namespace CoordinatorState

/-- The fleet of an initialized coordinator. -/
def fleet (build : Build D) (world : World D) (s : CoordinatorState D) : Fleet D where
  json := build.json
  coordinatorId := build.coordinatorId
  schedule := s.schedule
  simulators := s.simulators.contains
  timesOut := world.timesOut
  cfg := world.cfg
  behaviorTreePath := world.behaviorTreePath
  content := world.content
  executors satId := (s.simulators.find? satId).map fun vm => { vm, mailbox := world.mailbox }

variable {build : Build D} {s : CoordinatorState D}

/-- The coordinator has a simulator for each satellite with tasks. -/
theorem Up.staffed (up : s.Up build) (world : World D) (named : build.coordinatorId ≠ [])
    (apart : build.coordinatorId ∉ s.schedule.satelliteIds) : Staffed (s.fleet build world).toSetting := by
  refine ⟨named, apart, fun satId busy => (up.simulators satId).2 ?_⟩
  obtain ⟨text, read⟩ := up.read
  have tasks : (s.schedule.satelliteTasks.find? satId).isSome := by
    by_contra none
    refine busy.2 ?_
    show (s.schedule.satelliteTasks.find? satId).getD [] = []
    rw [Option.not_isSome_iff_eq_none.1 none]
    rfl
  rw [read] at tasks ⊢
  exact (parseAllSatellites_described build.json text satId tasks).2

end CoordinatorState

/-- The tasks of a satellite one after the other on an executor of their own, which starts with what the simulator reads
in the document. -/
def computeAlone (build : Build D) (world : World D) (path text satId : Str) (tasks : List TaskSegment) :
    List (TaskSegment × Bool) :=
  let simulator : SimulatorSetting D := {
    json := build.json
    cfg := world.cfg
    behaviorTreePath := world.behaviorTreePath
    contents _ := world.content }
  let turns : List (Turn D) := tasks.map fun task => { task, content := world.content, env := .quiet, elapsedMs := 0 }
  (replay simulator turns (some { vm := initializeSimulator build path (some text) satId, mailbox := world.mailbox })).1

section Program

variable {build : Build D} {path text : Str} {document : Json D} {given : Circumstances}

/-- The ids that the document lists. -/
def documentIds (document : Json D) : List Str := (satelliteEntries document).filterMap satelliteIdOf

theorem satellites_eq_nil_iff (accepted : AcceptedBy build.json text document) :
    (parseAllSatellites build.json (some text)).satellites = [] ↔ documentIds document = [] := by
  have records := records_of_acceptedBy accepted
  rw [documentIds, ← records.satelliteIds, ← records.satellites, List.map_eq_nil_iff]

/-- What an initialization that succeeds leaves of the document. -/
structure StartedOver (build : Build D) (path text : Str) (document : Json D) (s : CoordinatorState D) : Prop where
  read : s.schedule = parseAllSatellites build.json (some text)
  up : s.Up build
  simulators : ∀ satId ∈ documentIds document,
    s.simulators.find? satId = some (initializeSimulator build path (some text) satId)

theorem startedOver_of_outcome (accepted : AcceptedBy build.json text document) (reads : given.scheduleText = some text)
    (simulatorsRead : ∀ n, given.simulatorText n = some text) {s s' : CoordinatorState D}
    (outcome : CoordinatorState.Outcome build path given s true s') (idle : s.initialized = false) (down : s.Down) :
    StartedOver build path text document s' := by
  have sound := CoordinatorState.sound_of_outcome outcome idle down
  cases outcome with
  | up described succeeded =>
    refine ⟨by rw [reads], sound.up rfl, fun satId listed => ?_⟩
    have records := records_of_acceptedBy accepted
    rw [documentIds, ← records.satelliteIds, ← records.satellites] at listed
    rcases find?_initializeSimulators build path given.simulatorText
      (parseAllSatellites build.json given.scheduleText).satellites s.simulators satId with ⟨absent, _⟩ | ⟨_, n, found⟩
    · rw [reads] at absent
      exact absurd listed absent
    · rw [simulatorsRead n] at found
      exact found

theorem listed_of_tasks {satId : Str} (listed : listedUnder satId document ≠ []) :
    satId ∈ documentIds document := by
  obtain ⟨task, mem⟩ := List.exists_mem_of_ne_nil _ listed
  obtain ⟨satellite, carried, _⟩ := List.mem_flatMap.1 mem
  obtain ⟨entry, carries⟩ := List.mem_filter.1 carried
  exact List.mem_filterMap.2 ⟨satellite, entry, of_decide_eq_true carries⟩

/-- The fleet's sequential reference is the computation of each satellite alone. -/
theorem StartedOver.reference_eq {s : CoordinatorState D} (started : StartedOver build path text document s)
    (world : World D) (satId : Str) : (reference (s.fleet build world) satId (listedUnder satId document)).1 =
      computeAlone build world path text satId (listedUnder satId document) := by
  by_cases none : listedUnder satId document = []
  · rw [none]
    rfl
  · have found := started.simulators satId (listed_of_tasks none)
    unfold reference computeAlone
    have executor : (s.fleet build world).executors satId =
        some { vm := initializeSimulator build path (some text) satId, mailbox := world.mailbox } := by
      show (s.simulators.find? satId).map _ = _
      rw [found]
      rfl
    rw [executor]
    rfl

/-- Whatever the coordinator has gone through, it starts over a document if that lists a satellite and the socket can be
set up. Its run then leaves each satellite, and the coordinator about it, with what the satellite's tasks compute on
their own. -/
theorem started_computes (build : Build D) (events : List (CoordinatorState.Event D)) (path : Str)
    (given : Circumstances) {text : Str} {document : Json D} (accepted : AcceptedBy build.json text document)
    (distinct : (documentIds document).Nodup) (named : build.coordinatorId ≠ [])
    (apart : build.coordinatorId ∉ documentIds document) (reads : given.scheduleText = some text)
    (simulatorsRead : ∀ n, given.simulatorText n = some text)
    (idle : (events.foldl (CoordinatorState.perform build) {}).initialized = false) :
    let started := (events.foldl (CoordinatorState.perform build) {}).initializeCoordinator build path given
    (started.1 = true ↔ documentIds document ≠ [] ∧ given.answers.succeed = true) ∧
      (started.1 = true → ∀ (world : World D) (comm : InterSatComm Handler) (satId : Str)
        (pool : Pool (Action D) Action.Response (FleetState D)), world.timesOut = false →
        (∀ task ∈ listedUnder satId document, Deaf (started.2.fleet build world) task) →
        (fleetSystem (started.2.fleet build world)).Reaches (fleetPool (started.2.fleet build world) comm) pool →
        (∀ thread ∈ pool.threads, thread = .done ()) →
        callsOf pool.shared.shared satId = computeAlone build world path text satId (listedUnder satId document) ∧
          (listedUnder satId document ≠ [] → pool.shared.shared.tracking.results.find? satId =
            some ((computeAlone build world path text satId (listedUnder satId document)).all (·.2)))) := by
  intro started
  have down := (CoordinatorState.history_sound build events).down idle
  have outcome : CoordinatorState.Outcome build path given _ started.1 started.2 :=
    CoordinatorState.initializeCoordinator_outcome build path given idle down
  have describes := (satellites_eq_nil_iff accepted).not
  rw [← reads] at describes
  refine ⟨outcome.ok_iff.trans (and_congr_left' describes), fun ok world comm satId pool inTime deaf reaches ended => ?_⟩
  rw [ok] at outcome
  have fresh := startedOver_of_outcome accepted reads simulatorsRead outcome idle down
  have ids : started.2.schedule.satelliteIds = documentIds document := by
    rw [fresh.read]
    exact (records_of_acceptedBy accepted).satelliteIds
  have staffed := fresh.up.staffed world named (by rw [ids]; exact apart)
  rw [← fresh.reference_eq world satId]
  exact computed_of_document accepted fresh.read distinct staffed inTime deaf reaches ended

end Program

/-! ## A start behind a failed one -/

def sampleBuild : Build FixedPoint := { json := JsonText.library, coordinatorId := lit "COORD", keyFirst := false }

def sampleGiven : Circumstances where
  scheduleText := some (JsonText.print distinctSchedule)
  simulatorText _ := some (JsonText.print distinctSchedule)
  registration _ := (1000, fun _ => false)
  answers := { socketFd := some 3, bound := true, listening := true }

def sampleWorld : World FixedPoint where
  cfg := {}
  behaviorTreePath := lit "library.json"
  content := some (JsonText.print (libraryToJson (OrdMap.empty.insert [] checkTree) : Json FixedPoint))
  mailbox := OrdMap.empty
  timesOut := false

/-- The file is not there yet. -/
def failedStart : List (CoordinatorState.Event FixedPoint) :=
  [.initializeCoordinator (lit "schedule.json") { sampleGiven with scheduleText := none }]

def secondStart : Bool × CoordinatorState FixedPoint :=
  (failedStart.foldl (CoordinatorState.perform sampleBuild) {}).initializeCoordinator sampleBuild (lit "schedule.json")
    sampleGiven

def startedFleet : Fleet FixedPoint := secondStart.2.fleet sampleBuild sampleWorld

theorem startedFleet_ended : (Machine.turns (fleetOutcome startedFleet sampleRound) (fleetPool startedFleet sampleComm)
    (sampleOrder ++ [0])).any (fun pool => pool.threads.all doneThread) = true := by decide +kernel

/-- The tasks of the sample do not look into the mailbox. -/
theorem startedFleet_deaf {satId : Str} (mem : satId ∈ [lit "S1", lit "S2"]) :
    ∀ task ∈ listedUnder satId distinctSchedule, Deaf startedFleet task := by
  have silent : ∀ satId ∈ [lit "S1", lit "S2"], ∀ task ∈ listedUnder satId distinctSchedule, hears task = false := by
    decide +kernel
  intro task listed behavior parsed
  exact deaf_of_hears (silent satId mem task listed) behavior parsed

theorem started_computes_sample : secondStart.1 = true ∧ ∃ pool,
    (fleetSystem startedFleet).Reaches (fleetPool startedFleet sampleComm) pool ∧
      pool.shared.shared.tracking.results.find? (lit "S1") = some true ∧
      pool.shared.shared.tracking.results.find? (lit "S2") = some false := by
  have computes := started_computes sampleBuild failedStart (lit "schedule.json") sampleGiven
    distinctSchedule_accepted (by decide) (by decide) (by decide) rfl (fun _ => rfl) (by decide)
  have ok := computes.1.2 ⟨by decide, by decide⟩
  obtain ⟨pool, reached, all⟩ := (Option.any_eq_true _ _).1 startedFleet_ended
  have ended : ∀ thread ∈ pool.threads, thread = .done () := by
    intro thread mem
    have done := List.all_eq_true.1 all thread mem
    unfold doneThread at done
    split at done
    · rfl
    · cases done
  have reaches := Machine.reaches_of_turns (fleetOutcome_sound startedFleet sampleRound) reached
  have first := computes.2 ok sampleWorld sampleComm (lit "S1") pool rfl (startedFleet_deaf (by decide)) reaches ended
  have second := computes.2 ok sampleWorld sampleComm (lit "S2") pool rfl (startedFleet_deaf (by decide)) reaches ended
  refine ⟨ok, pool, reaches, (first.2 (by decide)).trans ?_, (second.2 (by decide)).trans ?_⟩
  · decide +kernel
  · decide +kernel

end Actuator.Coordinator
