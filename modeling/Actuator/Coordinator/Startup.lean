import Actuator.Coordinator.Fleet
import Actuator.Coordinator.ListenSocket
import Actuator.Coordinator.NodeRegistry
import Actuator.Executor.Snapshots

/-!
# Starting and shutting down

`Coordinator::initialize`, what `run` does to the communication module, and
`shutdown`, over all that one coordinator object goes through. An initialization
that succeeds leaves the same behind whatever came before it (`history_sound`),
but it only can if no earlier one was shut down without a run
(`history_restart_iff`), and behind a shutdown that does not return there is
none.
-/

namespace Actuator.Coordinator

open Actuator.Lib Actuator.Core Actuator.Parser Actuator.Executor

variable {D : Type} [CxxDouble D]

/-! ## The coordinator -/

/-- What is the same for all that the object goes through. -/
structure Build (D : Type) where
  json : JsonLibrary D
  coordinatorId : Str
  /-- An assignment enters its key before it evaluates its right side. -/
  keyFirst : Bool

/-- The members of `Coordinator`, with the sockets of the process. -/
structure CoordinatorState (D : Type) where
  scheduleFilePath : Str := []
  schedule : MultiSatSchedule := {}
  nodeRegistry : Option NodeRegistry := none
  comm : Option CommLife := none
  /-- The simulators, by the variables of their executors. -/
  simulators : OrdMap Str (VariableManager D) := OrdMap.empty
  initialized : Bool := false
  sockets : Sockets := {}
  /-- A call has not returned from the joins of `stop`. -/
  blocked : Bool := false

/-- What one call of `initialize` meets. -/
structure Circumstances where
  /-- The text of the file when the parser reads it, or `none` when it cannot be opened. -/
  scheduleText : Option Str
  /-- The text when the simulator of the n-th satellite reads it. -/
  simulatorText : Nat → Option Str
  /-- The clock at the n-th registration, and what its eviction makes of freed memory. -/
  registration : Nat → UInt64 × (Str → Bool)
  answers : SocketAnswers
  /-- Whether `accept` returns, if the module that is replaced listens. -/
  acceptReturns : Bool := true

/-! ### Nodes and simulators -/

/-- `comm_node_id`. -/
def commNodeId (info : SatelliteInfo) : Str := if info.nodeId.isEmpty then info.satelliteId else info.nodeId

def registerMsg (info : SatelliteInfo) : NodeRegisterMessage where
  nodeId := commNodeId info
  nodeName := if info.name.isEmpty then info.satelliteId else info.name
  nodeType := lit "SATELLITE"
  metadata := (OrdMap.empty.insert (lit "satellite_id") info.satelliteId).insert (lit "node_id") (commNodeId info)

/-- `registerSatelliteNodes`, with the number of nodes that it registers. -/
def registerSatelliteNodes (registration : Nat → UInt64 × (Str → Bool)) :
    List SatelliteInfo → NodeRegistry → Nat × NodeRegistry
  | [], registry => (0, registry)
  | info :: rest, registry =>
    let assigned := registry.registerNode (registration 0).1 (registration 0).2 (registerMsg info)
    let later := registerSatelliteNodes (fun n => registration (n + 1)) rest assigned.2
    (if assigned.1.isSome then later.1 + 1 else later.1, later.2)

/-- The file as `loadFromScheduleConfig` reads it. -/
def readScheduleConfig (json : JsonLibrary D) (path : Str) (text : Option Str) : Except Exn (Json D) :=
  match text with
  | none => .error (lit "Failed to open schedule config file: " ++ path)
  | some text =>
    match json.parse text with
    | .ok config => .ok config
    | .error what => .error (lit "Failed to parse schedule config JSON: " ++ what)

variable (build : Build D)

/-- `SatelliteSimulator::initialize`, which catches what reading the file throws. -/
def initializeSimulator (path : Str) (text : Option Str) (satelliteId : Str) : VariableManager D :=
  if path.isEmpty then {}
  else (VariableManager.loadFromScheduleConfig build.keyFirst (readScheduleConfig build.json path text) satelliteId {}).2

def initializeSimulators (path : Str) (simulatorText : Nat → Option Str) :
    List SatelliteInfo → OrdMap Str (VariableManager D) → OrdMap Str (VariableManager D)
  | [], simulators => simulators
  | info :: rest, simulators =>
    initializeSimulators path (fun n => simulatorText (n + 1)) rest
      (simulators.insert info.satelliteId (initializeSimulator build path (simulatorText 0) info.satelliteId))

namespace CoordinatorState

/-! ### Its life -/

/-- The end of the module that there is, with whether it returns. -/
def stopPrevious (acceptReturns : Bool) (s : CoordinatorState D) : Bool × CoordinatorState D :=
  match s.comm with
  | some comm =>
    let (returns, comm, sockets) := comm.stop acceptReturns s.sockets
    (returns, { s with comm := some comm, sockets, blocked := !returns })
  | none => (true, s)

/-- `initialize`. The module of an earlier initialization goes when the new one takes its place. -/
def initializeCoordinator (path : Str) (given : Circumstances) (s : CoordinatorState D) : Bool × CoordinatorState D :=
  if s.initialized then (true, s)
  else
    let schedule := parseAllSatellites build.json given.scheduleText
    let s := { s with scheduleFilePath := path, schedule }
    if schedule.satelliteIds.isEmpty then (false, s)
    else
      let (registeredCount, registry) :=
        registerSatelliteNodes given.registration schedule.satellites ({} : NodeRegistry).initializeRegistry
      let s := { s with nodeRegistry := some registry }
      if registeredCount = 0 then (false, s)
      else
        match stopPrevious given.acceptReturns s with
        -- The call does not return.
        | (false, s) => (false, s)
        | (true, s) =>
          match ({} : CommLife).initializeComm given.answers s.sockets with
          | (false, comm, sockets) => (false, { s with comm := some comm, sockets })
          | (true, comm, sockets) => (true, { s with
              comm := some comm
              sockets
              simulators := initializeSimulators build path given.simulatorText schedule.satellites s.simulators
              initialized := true })

/-- `run`, with what it leaves of the executors' variables. -/
def run (answers : SocketAnswers) (executed : Str → VariableManager D → VariableManager D) (s : CoordinatorState D) :
    CoordinatorState D :=
  if s.initialized then
    match s.comm with
    | none => s
    | some comm =>
      match comm.start answers s.sockets with
      | (false, comm, sockets) => { s with comm := some comm, sockets }
      | (true, comm, sockets) => { s with
          comm := some comm
          sockets
          simulators := OrdMap.ofList (s.simulators.entries.map fun entry => (entry.1, executed entry.1 entry.2)) }
  else s

def shutdownRegistry (registry : NodeRegistry) : NodeRegistry :=
  (registry.getAllNodeIds.foldl (fun registry nodeId => (registry.unregisterNode nodeId).2) registry).shutdown

/-- `shutdown`, and the destructor. -/
def shutdown (acceptReturns : Bool) (s : CoordinatorState D) : CoordinatorState D :=
  if s.initialized then
    match stopPrevious acceptReturns s with
    | (false, s) => s
    | (true, s) => { s with
        nodeRegistry := s.nodeRegistry.map shutdownRegistry
        simulators := OrdMap.empty
        initialized := false }
  else s

/-- A call of a member. -/
inductive Event (D : Type) where
  | initializeCoordinator (path : Str) (given : Circumstances)
  | run (answers : SocketAnswers) (executed : Str → VariableManager D → VariableManager D)
  | shutdown (acceptReturns : Bool)

def call (s : CoordinatorState D) : Event D → CoordinatorState D
  | .initializeCoordinator path given => (s.initializeCoordinator build path given).2
  | .run answers executed => s.run answers executed
  | .shutdown acceptReturns => s.shutdown acceptReturns

/-- Behind a call that does not return there is no other. -/
def perform (s : CoordinatorState D) (event : Event D) : CoordinatorState D :=
  if s.blocked then s else s.call build event

end CoordinatorState

/-! ## What an initialization does -/

theorem commNodeId_ne_nil {info : SatelliteInfo} (named : info.satelliteId ≠ []) : commNodeId info ≠ [] := by
  unfold commNodeId
  split
  · exact named
  · rename_i given
    simpa using given

/-- The coordinator gives both ids. -/
theorem registerMsg_ids {info : SatelliteInfo} (named : info.satelliteId ≠ []) :
    (registerMsg info).ids = some (commNodeId info, info.satelliteId) := by
  have node := commNodeId_ne_nil named
  have satelliteMember : (registerMsg info).metadata.find? (lit "satellite_id") = some info.satelliteId := by
    unfold registerMsg
    rw [OrdMap.find?_insert_of_ne _ _ (by decide), OrdMap.find?_insert_self]
  have nodeMember : (registerMsg info).metadata.find? (lit "node_id") = some (commNodeId info) :=
    OrdMap.find?_insert_self _ _ _
  simp [NodeRegisterMessage.ids, NodeRegisterMessage.named, satelliteMember, nodeMember, node, named]

theorem registerNode_registerMsg {info : SatelliteInfo} (named : info.satelliteId ≠ []) {registry : NodeRegistry}
    (ready : registry.initialized = true) (now : UInt64) (dangling : Str → Bool) :
    registry.registerNode now dangling (registerMsg info) = (some (commNodeId info),
      (registry.evict dangling (commNodeId info) info.satelliteId).enroll now (registerMsg info) (commNodeId info)
        info.satelliteId) := by
  unfold NodeRegistry.registerNode
  rw [if_pos ready, registerMsg_ids named]

theorem registerNode_initialized {registry : NodeRegistry} (now : UInt64) (dangling : Str → Bool)
    (msg : NodeRegisterMessage) : (registry.registerNode now dangling msg).2.initialized = registry.initialized := by
  unfold NodeRegistry.registerNode
  split
  · split
    · unfold NodeRegistry.enroll NodeRegistry.evict
      split
      · split <;> rfl
      · rfl
    · rfl
  · rfl

/-- Every satellite with an id is registered. -/
theorem registerSatelliteNodes_count {infos : List SatelliteInfo} (named : ∀ info ∈ infos, info.satelliteId ≠ [])
    {registry : NodeRegistry} (ready : registry.initialized = true) (registration : Nat → UInt64 × (Str → Bool)) :
    (registerSatelliteNodes registration infos registry).1 = infos.length := by
  induction infos generalizing registry registration with
  | nil => rfl
  | cons info rest ih =>
    obtain ⟨own, later⟩ := List.forall_mem_cons.1 named
    unfold registerSatelliteNodes
    dsimp only
    rw [ih later ((registerNode_initialized _ _ _).trans ready), registerNode_registerMsg own ready]
    rfl

omit [CxxDouble D] in
theorem find?_initializeSimulators (build : Build D) (path : Str) (simulatorText : Nat → Option Str)
    (infos : List SatelliteInfo) (simulators : OrdMap Str (VariableManager D)) (satId : Str) :
    (satId ∉ infos.map (·.satelliteId) ∧
      (initializeSimulators build path simulatorText infos simulators).find? satId = simulators.find? satId) ∨
    satId ∈ infos.map (·.satelliteId) ∧ ∃ n, (initializeSimulators build path simulatorText infos simulators).find? satId =
      some (initializeSimulator build path (simulatorText n) satId) := by
  induction infos generalizing simulatorText simulators with
  | nil => exact .inl ⟨List.not_mem_nil, rfl⟩
  | cons info rest ih =>
    unfold initializeSimulators
    rcases ih (fun n => simulatorText (n + 1))
      (simulators.insert info.satelliteId (initializeSimulator build path (simulatorText 0) info.satelliteId))
      with ⟨absent, same⟩ | ⟨mem, n, found⟩
    · rw [same, OrdMap.find?_insert]
      by_cases own : satId = info.satelliteId
      · subst own
        exact .inr ⟨List.mem_cons_self, 0, if_pos rfl⟩
      · exact .inl ⟨by simpa [own] using absent, if_neg own⟩
    · exact .inr ⟨List.mem_cons_of_mem _ mem, n + 1, found⟩

namespace CoordinatorState

variable {build : Build D}

/-- What an initialization comes to. -/
inductive Outcome (build : Build D) (path : Str) (given : Circumstances) (s : CoordinatorState D) :
    Bool → CoordinatorState D → Prop where
  /-- The document describes no satellite. -/
  | empty (undescribed : (parseAllSatellites build.json given.scheduleText).satellites = []) (registry : Option NodeRegistry) :
    Outcome build path given s false { s with
      scheduleFilePath := path
      schedule := parseAllSatellites build.json given.scheduleText
      nodeRegistry := registry }
  | unbound (described : (parseAllSatellites build.json given.scheduleText).satellites ≠ [])
      (failed : given.answers.succeed = false) (registry : NodeRegistry) :
    Outcome build path given s false { s with
      scheduleFilePath := path
      schedule := parseAllSatellites build.json given.scheduleText
      nodeRegistry := registry
      comm := some { listenSocket := given.answers.socketFd }
      sockets := given.answers.leave s.sockets }
  | up (described : (parseAllSatellites build.json given.scheduleText).satellites ≠ [])
      (succeeded : given.answers.succeed = true) :
    Outcome build path given s true {
      scheduleFilePath := path
      schedule := parseAllSatellites build.json given.scheduleText
      nodeRegistry := (registerSatelliteNodes given.registration (parseAllSatellites build.json given.scheduleText).satellites
        ({} : NodeRegistry).initializeRegistry).2
      comm := some { listenSocket := given.answers.socketFd, initialized := true }
      simulators := initializeSimulators build path given.simulatorText
        (parseAllSatellites build.json given.scheduleText).satellites s.simulators
      initialized := true
      sockets := given.answers.leave s.sockets }

/-- It succeeds if the document describes a satellite and the socket can be set up. -/
theorem Outcome.ok_iff {path : Str} {given : Circumstances} {s s' : CoordinatorState D} {ok : Bool}
    (outcome : Outcome build path given s ok s') : ok = true ↔
      (parseAllSatellites build.json given.scheduleText).satellites ≠ [] ∧ given.answers.succeed = true := by
  cases outcome with
  | empty undescribed registry => exact iff_of_false Bool.false_ne_true fun both => both.1 undescribed
  | unbound described failed registry =>
    exact iff_of_false Bool.false_ne_true fun both => Bool.false_ne_true (failed.symm.trans both.2)
  | up described succeeded => exact iff_of_true rfl ⟨described, succeeded⟩

/-- What holds while the coordinator is not initialized. -/
structure Down (s : CoordinatorState D) : Prop where
  resting : ∀ comm, s.comm = some comm → comm.running = false
  simulators : s.simulators = OrdMap.empty
  returned : s.blocked = false

omit [CxxDouble D] in
/-- A module that does not run ends at once. -/
theorem stopPrevious_resting {s : CoordinatorState D} (resting : ∀ comm, s.comm = some comm → comm.running = false)
    (returned : s.blocked = false) (acceptReturns : Bool) : stopPrevious acceptReturns s = (true, s) := by
  unfold stopPrevious
  split
  · rename_i comm held
    simp only [CommLife.stop_resting (resting comm held)]
    rw [← held, Bool.not_true, ← returned]
  · rfl

theorem initializeCoordinator_outcome (build : Build D) (path : Str) (given : Circumstances) {s : CoordinatorState D}
    (idle : s.initialized = false) (down : s.Down) :
    Outcome build path given s (s.initializeCoordinator build path given).1
      (s.initializeCoordinator build path given).2 := by
  have named := parseAllSatellites_named build.json given.scheduleText
  have count : (registerSatelliteNodes given.registration (parseAllSatellites build.json given.scheduleText).satellites
      ({} : NodeRegistry).initializeRegistry).1 =
        (parseAllSatellites build.json given.scheduleText).satellites.length :=
    registerSatelliteNodes_count (fun info mem none => named.named (none ▸ named.listed info mem)) rfl _
  have previous (schedule : MultiSatSchedule) (registry : NodeRegistry) := stopPrevious_resting
    (s := { s with scheduleFilePath := path, schedule, nodeRegistry := some registry }) down.resting down.returned
      given.acceptReturns
  unfold initializeCoordinator
  rw [if_neg (by simp [idle])]
  dsimp only
  by_cases idless : (parseAllSatellites build.json given.scheduleText).satelliteIds.isEmpty = true
  · rw [if_pos idless]
    refine .empty (List.eq_nil_iff_forall_not_mem.2 fun info mem => ?_) s.nodeRegistry
    have listed := named.listed info mem
    rw [List.isEmpty_iff.1 idless] at listed
    cases listed
  · rw [if_neg idless, count]
    by_cases none : (parseAllSatellites build.json given.scheduleText).satellites = []
    · rw [if_pos (by simp [none])]
      exact .empty none _
    · rw [if_neg (by simpa using none), previous]
      dsimp only
      rw [initializeComm_new]
      cases succeeded : given.answers.succeed with
      | false => exact .unbound none succeeded _
      | true =>
        rw [down.returned]
        exact .up none succeeded

/-! ## All that it goes through -/

/-- What holds while the coordinator is initialized. -/
structure Up (build : Build D) (s : CoordinatorState D) : Prop where
  read : ∃ text, s.schedule = parseAllSatellites build.json text
  described : s.schedule.satellites ≠ []
  registry : ∃ registration, s.nodeRegistry =
    some (registerSatelliteNodes registration s.schedule.satellites ({} : NodeRegistry).initializeRegistry).2
  comm : ∃ comm, s.comm = some comm ∧ comm.initialized = true
  simulators : ∀ satId, s.simulators.contains satId = true ↔ satId ∈ s.schedule.satellites.map (·.satelliteId)

structure Sound (build : Build D) (s : CoordinatorState D) : Prop where
  up : s.initialized = true → s.Up build
  down : s.initialized = false → s.Down

theorem sound_new : Sound build {} := ⟨fun up => (nomatch up), fun _ => ⟨fun _ held => (nomatch held), rfl, rfl⟩⟩

theorem sound_of_outcome {path : Str} {given : Circumstances} {s s' : CoordinatorState D} {ok : Bool}
    (outcome : Outcome build path given s ok s') (initialized : s.initialized = false) (down : s.Down) :
    Sound build s' := by
  cases outcome with
  | empty undescribed registry =>
    exact ⟨fun up => (nomatch initialized.symm.trans up), fun _ => ⟨down.resting, down.simulators, down.returned⟩⟩
  | unbound described failed registry =>
    refine ⟨fun up => (nomatch initialized.symm.trans up), fun _ => ⟨fun comm held => ?_, down.simulators, down.returned⟩⟩
    cases held
    rfl
  | up described succeeded =>
    refine ⟨fun _ => ⟨⟨_, rfl⟩, described, ⟨_, rfl⟩, ⟨_, rfl, rfl⟩, fun satId => ?_⟩, fun none => (nomatch none)⟩
    rw [OrdMap.contains_iff]
    rcases find?_initializeSimulators build path given.simulatorText
      (parseAllSatellites build.json given.scheduleText).satellites s.simulators satId
      with ⟨absent, same⟩ | ⟨mem, n, found⟩
    · rw [down.simulators] at same
      exact iff_of_false (fun held => by simp [down.simulators, same] at held) absent
    · exact iff_of_true ⟨_, found⟩ mem

omit [CxxDouble D] in
/-- A run exchanges the variables of the simulators that there are. -/
theorem contains_executed (simulators : OrdMap Str (VariableManager D))
    (executed : Str → VariableManager D → VariableManager D) (satId : Str) :
    (OrdMap.ofList (simulators.entries.map fun entry => (entry.1, executed entry.1 entry.2))).contains satId = true ↔
      simulators.contains satId = true := by
  have keys : (simulators.entries.map fun entry => (entry.1, executed entry.1 entry.2)).map Prod.fst =
      simulators.entries.map Prod.fst := by
    rw [List.map_map]
    rfl
  have distinct := keys ▸ simulators.nodup_keys
  rw [OrdMap.contains_iff, OrdMap.contains_iff]
  constructor
  · intro held
    obtain ⟨vm, found⟩ := held
    obtain ⟨entry, mem, same⟩ := List.mem_map.1 (OrdMap.mem_of_find?_ofList found)
    cases same
    exact ⟨entry.2, OrdMap.mem_entries.1 mem⟩
  · intro held
    obtain ⟨vm, found⟩ := held
    exact ⟨executed satId vm, OrdMap.find?_ofList_of_mem distinct
      (List.mem_map.2 ⟨(satId, vm), OrdMap.mem_entries.2 found, rfl⟩)⟩

omit [CxxDouble D] in
/-- A run of an initialized coordinator starts the module, if it does not run yet. -/
theorem run_eq {s : CoordinatorState D} (initialized : s.initialized = true) {comm : CommLife}
    (held : s.comm = some comm) (ready : comm.initialized = true) (answers : SocketAnswers)
    (executed : Str → VariableManager D → VariableManager D) :
    s.run answers executed = { s with
      comm := some { comm with running := true }
      simulators := OrdMap.ofList (s.simulators.entries.map fun entry => (entry.1, executed entry.1 entry.2)) } := by
  unfold run
  rw [if_pos initialized, held]
  obtain ⟨listenSocket, _, running⟩ := comm
  cases ready
  cases running <;> rfl

/-- What a shutdown of an initialized coordinator comes to. -/
inductive ShutdownOutcome (s : CoordinatorState D) (comm : CommLife) (acceptReturns : Bool) : CoordinatorState D → Prop
  /-- The module was not started. -/
  | unused (resting : comm.running = false) : ShutdownOutcome s comm acceptReturns { s with
      blocked := false
      nodeRegistry := s.nodeRegistry.map shutdownRegistry
      simulators := OrdMap.empty
      initialized := false }
  | closed (running : comm.running = true) (returns : acceptReturns = true) : ShutdownOutcome s comm acceptReturns { s with
      comm := some { (comm.closeListen s.sockets).1 with initialized := false }
      sockets := (comm.closeListen s.sockets).2
      blocked := false
      nodeRegistry := s.nodeRegistry.map shutdownRegistry
      simulators := OrdMap.empty
      initialized := false }
  /-- It does not return. -/
  | stalled (running : comm.running = true) (stays : acceptReturns = false) : ShutdownOutcome s comm acceptReturns { s with
      comm := some (comm.closeListen s.sockets).1
      sockets := (comm.closeListen s.sockets).2
      blocked := true }

omit [CxxDouble D] in
theorem shutdown_outcome {s : CoordinatorState D} (initialized : s.initialized = true) {comm : CommLife}
    (held : s.comm = some comm) (acceptReturns : Bool) :
    ShutdownOutcome s comm acceptReturns (s.shutdown acceptReturns) := by
  unfold shutdown stopPrevious
  rw [if_pos initialized, held]
  dsimp only
  cases running : comm.running with
  | false =>
    rw [CommLife.stop_resting running]
    dsimp only
    rw [← held]
    exact .unused running
  | true =>
    unfold CommLife.stop
    rw [if_pos running]
    cases acceptReturns with
    | true => exact .closed running rfl
    | false => exact .stalled running rfl

theorem call_sound {s : CoordinatorState D} (sound : s.Sound build) (event : Event D) :
    (s.call build event).Sound build := by
  cases initialized : s.initialized with
  | false =>
    cases event with
    | initializeCoordinator path given =>
      have down := sound.down initialized
      exact sound_of_outcome (initializeCoordinator_outcome build path given initialized down) initialized down
    | run answers executed =>
      show (s.run answers executed).Sound build
      unfold run
      rw [if_neg (by simp [initialized])]
      exact sound
    | shutdown acceptReturns =>
      show (s.shutdown acceptReturns).Sound build
      unfold shutdown
      rw [if_neg (by simp [initialized])]
      exact sound
  | true =>
    have up := sound.up initialized
    obtain ⟨comm, held, ready⟩ := up.comm
    cases event with
    | initializeCoordinator path given =>
      show (s.initializeCoordinator build path given).2.Sound build
      unfold initializeCoordinator
      rw [if_pos initialized]
      exact sound
    | run answers executed =>
      show (s.run answers executed).Sound build
      rw [run_eq initialized held ready]
      exact ⟨fun _ => ⟨up.read, up.described, up.registry, ⟨_, rfl, ready⟩, fun satId =>
        (contains_executed s.simulators executed satId).trans (up.simulators satId)⟩,
        fun none => (nomatch initialized.symm.trans none)⟩
    | shutdown acceptReturns =>
      show (s.shutdown acceptReturns).Sound build
      have outcome := shutdown_outcome initialized held acceptReturns
      generalize s.shutdown acceptReturns = s' at outcome
      cases outcome with
      | unused resting =>
        refine ⟨fun none => (nomatch none), fun _ => ⟨fun comm' rest => ?_, rfl, rfl⟩⟩
        cases held.symm.trans rest
        exact resting
      | closed running returns =>
        refine ⟨fun none => (nomatch none), fun _ => ⟨fun comm' rest => ?_, rfl, rfl⟩⟩
        cases rest
        exact comm.closeListen_running s.sockets
      | stalled running stays =>
        refine ⟨fun _ => ⟨up.read, up.described, up.registry, ⟨_, rfl, ?_⟩, up.simulators⟩,
          fun none => (nomatch initialized.symm.trans none)⟩
        exact (comm.closeListen_initialized s.sockets).trans ready

theorem perform_sound {s : CoordinatorState D} (sound : s.Sound build) (event : Event D) :
    (s.perform build event).Sound build := by
  unfold perform
  split
  · exact sound
  · exact call_sound sound event

theorem history_sound (build : Build D) (events : List (Event D)) : (events.foldl (perform build) {}).Sound build :=
  List.foldlRecOn (motive := Sound build) events _ sound_new fun _ sound event _ => perform_sound sound event

end CoordinatorState

end Actuator.Coordinator
