import Actuator.Coordinator.Completion
import Actuator.Executor.Independence
import Actuator.Executor.SingleTasks

/-!
# The whole program

A run of the coordinator in which the satellites execute their tasks: each in an
executor of its own, on the behaviours of one library, and all on one mailbox,
which others may write at any moment. If no task of a satellite looks into the
mailbox, the order in which the threads act makes no difference to it: its
outcomes and its result are those of its tasks as the document lists them,
executed one after the other with nobody else at work (`fleet_computes`).
-/

namespace Actuator.Coordinator

open Actuator.Lib Actuator.Core Actuator.Parser Actuator.Executor

variable {D : Type}

/-! ## The system -/

/-- A setting with its satellites: the file of their library, and their executors at the beginning of the run. -/
structure Fleet (D : Type) extends Setting D where
  cfg : ExecutorConfig
  behaviorTreePath : Str
  content : Option Str
  executors : Str → Option (ExecState D)

/-- Every simulator reads the same library. -/
def Fleet.simulator (fleet : Fleet D) : SimulatorSetting D where
  json := fleet.json
  cfg := fleet.cfg
  behaviorTreePath := fleet.behaviorTreePath
  contents _ := fleet.content

structure FleetState (D : Type) where
  shared : Shared
  executors : Str → Option (ExecState D)

variable [CxxDouble D] (fleet : Fleet D)

/-- A task is executed on its satellite. What other executors do to the mailbox meanwhile is left open; nobody cancels
tasks during a run. -/
def fleetPerforms : (a : Action D) → FleetState D → a.Response → FleetState D → List (Thread D Unit) → Prop
  | .executeSingleTask satId task, s, taskOk, s', started =>
    performs fleet.toSetting (.executeSingleTask satId task) s.shared taskOk s'.shared started ∧
      ∃ env elapsedMs executor, env.Uncancelled ∧
        executeUncached fleet.simulator ⟨task, fleet.content, env, elapsedMs⟩ (s.executors satId) = (taskOk, executor) ∧
        s'.executors = Function.update s.executors satId executor
  | a, s, r, s', started => performs fleet.toSetting a s.shared r s'.shared started ∧ s'.executors = s.executors

def fleetSystem : Machine (Action D) Action.Response (FleetState D) := ⟨fleetPerforms fleet⟩

def fleetPool (comm : InterSatComm Handler) : Pool (Action D) Action.Response (FleetState D) where
  shared := { shared := (initialPool fleet.toSetting comm).shared, executors := fleet.executors }
  threads := (initialPool fleet.toSetting comm).threads

/-- The task in a quiet environment. -/
def quietTurn (task : TaskSegment) : Turn D := { task, content := fleet.content, env := .quiet, elapsedMs := 0 }

/-- The tasks of a satellite one after the other, with nobody else at work: their outcomes, and the executor behind
them. -/
def reference (satId : Str) (tasks : List TaskSegment) : List (TaskSegment × Bool) × Option (ExecState D) :=
  replay fleet.simulator (tasks.map (quietTurn fleet)) (fleet.executors satId)

/-- The behaviour of the task does not look into the mailbox. -/
def Deaf (task : TaskSegment) : Prop :=
  ∀ behavior, parseBehaviorDefinition fleet.json fleet.behaviorTreePath fleet.content task.behaviorRef = .ok behavior →
    ¬Listens task behavior

variable {fleet}

/-! ## One task -/

/-- Both executors are missing, or have the same GLOBAL variables. -/
abbrev SameVariables : Option (ExecState D) → Option (ExecState D) → Prop :=
  Option.Rel fun exec exec' => exec.vm.globalVars = exec'.vm.globalVars

/-- Whatever others do meanwhile, a deaf task does what it does on its own. -/
theorem executeUncached_quiet {task : TaskSegment} (deaf : Deaf fleet task) {env : Environment D}
    (uncancelled : env.Uncancelled) (elapsedMs : Int) {executor executor' : Option (ExecState D)}
    (same : SameVariables executor executor') :
    (executeUncached fleet.simulator ⟨task, fleet.content, env, elapsedMs⟩ executor).1 =
        (executeUncached fleet.simulator (quietTurn fleet task) executor').1 ∧
      SameVariables (executeUncached fleet.simulator ⟨task, fleet.content, env, elapsedMs⟩ executor).2
        (executeUncached fleet.simulator (quietTurn fleet task) executor').2 := by
  cases same with
  | none => exact ⟨rfl, .none⟩
  | @some exec exec' same =>
    unfold executeUncached quietTurn
    dsimp only
    cases parsed : parseBehaviorDefinition fleet.simulator.json fleet.simulator.behaviorTreePath fleet.content
        task.behaviorRef with
    | error what => exact ⟨rfl, .some same⟩
    | ok behavior =>
      have agree : Agree task behavior env .quiet exec exec' :=
        ⟨uncancelled, fun _ => rfl, fun name _ _ => by rw [same], fun listens => absurd listens (deaf behavior parsed)⟩
      obtain ⟨result, s', t', run, run', left, _⟩ := agree.outcome fleet.cfg elapsedMs 0
      change executeTaskInternal fleet.simulator.cfg _ _ _ _ _ = _ at run run'
      simp only [run, run', true_and]
      refine .some (OrdMap.ext_find? fun name => ?_)
      rcases left name with eq | ⟨kept, kept'⟩
      · exact eq
      · rw [kept, kept', same]

/-! ## All tasks -/

/-- What the satellite has executed so far is what it executes on its own. -/
def Computed (fleet : Fleet D) (satId : Str) (s : FleetState D) : Prop :=
  (∀ outcome ∈ callsOf s.shared satId, Deaf fleet outcome.1) →
    callsOf s.shared satId = (reference fleet satId ((callsOf s.shared satId).map Prod.fst)).1 ∧
      SameVariables (s.executors satId) (reference fleet satId ((callsOf s.shared satId).map Prod.fst)).2

theorem reference_append (satId : Str) (tasks : List TaskSegment) (task : TaskSegment) :
    reference fleet satId (tasks ++ [task]) =
      ((reference fleet satId tasks).1 ++
          [(task, (executeUncached fleet.simulator (quietTurn fleet task) (reference fleet satId tasks).2).1)],
        (executeUncached fleet.simulator (quietTurn fleet task) (reference fleet satId tasks).2).2) := by
  unfold reference
  rw [List.map_append]
  exact replay_append _ _ _

/-- A step of the fleet is a step of its run. -/
theorem performs_of_fleet {a : Action D} {s : FleetState D} {r : a.Response} {s' : FleetState D}
    {started : List (Thread D Unit)} (acts : fleetPerforms fleet a s r s' started) :
    performs fleet.toSetting a s.shared r s'.shared started := by
  cases a <;> exact acts.1

/-- Only `executeSingleTask` adds a call. -/
theorem calls_of_performs {setting : Setting D} {a : Action D} {s : Shared} {r : a.Response} {s' : Shared}
    {started : List (Thread D Unit)} (acts : performs setting a s r s' started)
    (other : ∀ satId task, a ≠ .executeSingleTask satId task) : s'.calls = s.calls := by
  cases a with
  | executeSingleTask satId task => exact absurd rfl (other satId task)
  | sendMessage dest message =>
    obtain ⟨_, _, rfl, _⟩ := acts
    rfl
  | awaitAcks =>
    rcases acts.2 with ⟨_, _, rfl⟩ | ⟨_, _, _, rfl⟩
    · rfl
    · rfl
  | terminate what => cases acts
  | _ =>
    obtain ⟨rfl, _⟩ := acts
    rfl

/-- The step lemma: a satellite's own task is the next one of its reference, and no other action concerns it. -/
theorem computed_step {satId : Str} {a : Action D} {s : FleetState D} {r : a.Response} {s' : FleetState D}
    {started : List (Thread D Unit)} (acts : fleetPerforms fleet a s r s' started) (computed : Computed fleet satId s) :
    Computed fleet satId s' := by
  have idle (calls : callsOf s'.shared satId = callsOf s.shared satId) (executors : s'.executors satId = s.executors satId) :
      Computed fleet satId s' := by
    unfold Computed
    rw [calls, executors]
    exact computed
  by_cases executes : ∃ other task, a = .executeSingleTask other task
  · obtain ⟨other, task, rfl⟩ := executes
    obtain ⟨⟨shared, _⟩, env, elapsedMs, executor, uncancelled, ran, executors⟩ := acts
    have calls := callsOf_append (s := s.shared) { satId := other, task, taskOk := r } satId
    rw [← shared] at calls
    by_cases own : other = satId
    · subst own
      rw [if_pos rfl] at calls
      intro deaf
      rw [calls] at deaf
      obtain ⟨outcomes, same⟩ := computed fun outcome mem => deaf outcome (List.mem_append_left _ mem)
      obtain ⟨ok, left⟩ := executeUncached_quiet (deaf (task, r) (by simp)) uncancelled elapsedMs same
      rw [ran] at ok left
      rw [calls, List.map_append, List.map_cons, List.map_nil, reference_append, executors, Function.update_self,
        ← outcomes, ← ok]
      exact ⟨rfl, left⟩
    · rw [if_neg own, List.append_nil] at calls
      refine idle calls ?_
      rw [executors]
      exact Function.update_of_ne (Ne.symm own) _ _
  · have others : ∀ other task, a ≠ .executeSingleTask other task := fun other task is => executes ⟨other, task, is⟩
    refine idle ?_ ?_
    · unfold callsOf
      rw [calls_of_performs (performs_of_fleet acts) others]
    · cases a with
      | executeSingleTask other task => exact absurd rfl (others other task)
      | _ => rw [acts.2]

theorem computed_of_document {fleet : Fleet D} {text : Str} {document : Json D}
    (accepted : AcceptedBy fleet.json text document)
    (read : fleet.schedule = parseAllSatellites fleet.json (some text))
    (distinct : ((satelliteEntries document).filterMap satelliteIdOf).Nodup) (staffed : Staffed fleet.toSetting)
    (inTime : fleet.timesOut = false) {comm : InterSatComm Handler} {satId : Str}
    (deaf : ∀ task ∈ listedUnder satId document, Deaf fleet task)
    {pool : Pool (Action D) Action.Response (FleetState D)}
    (reaches : (fleetSystem fleet).Reaches (fleetPool fleet comm) pool)
    (ended : ∀ thread ∈ pool.threads, thread = .done ()) :
    callsOf pool.shared.shared satId = (reference fleet satId (listedUnder satId document)).1 ∧
      (listedUnder satId document ≠ [] → pool.shared.shared.tracking.results.find? satId =
        some ((reference fleet satId (listedUnder satId document)).1.all (·.2))) := by
  have projected : (system fleet.toSetting).Reaches (initialPool fleet.toSetting comm) ⟨pool.shared.shared, pool.threads⟩ :=
    reaches.project FleetState.shared fun _ _ _ _ _ => performs_of_fleet
  obtain ⟨tasks, result⟩ := executed_of_document accepted read distinct staffed inTime projected
    (Machine.not_step_of_done ended) satId
  have computed : Computed fleet satId pool.shared := by
    refine reaches.keeps (fun _ _ _ _ _ => computed_step) ?_
    intro _
    refine ⟨rfl, ?_⟩
    show SameVariables (fleet.executors satId) (fleet.executors satId)
    cases fleet.executors satId with
    | none => exact .none
    | some exec => exact .some rfl
  have outcomes : callsOf pool.shared.shared satId = (reference fleet satId (listedUnder satId document)).1 := by
    rw [← tasks]
    exact (computed fun outcome mem => deaf outcome.1 (tasks ▸ List.mem_map_of_mem mem)).1
  exact ⟨outcomes, fun listed => outcomes ▸ result listed⟩

/-- In a run of a fleet whose tasks do not look into the mailbox, whatever the order in which the threads act: at the
end the outcomes of a satellite are those of the tasks that the document lists for it, executed one after the other with
nobody else at work, and the coordinator's result for it is whether all of these succeed. -/
theorem fleet_computes (fleet : Fleet D) {text : Str} {document : Json D}
    (accepted : AcceptedBy fleet.json text document)
    (read : fleet.schedule = parseAllSatellites fleet.json (some text))
    (distinct : ((satelliteEntries document).filterMap satelliteIdOf).Nodup) (staffed : Staffed fleet.toSetting)
    (inTime : fleet.timesOut = false) (comm : InterSatComm Handler) {satId : Str}
    (deaf : ∀ task ∈ listedUnder satId document, Deaf fleet task)
    {pool : Pool (Action D) Action.Response (FleetState D)}
    (reaches : (fleetSystem fleet).Reaches (fleetPool fleet comm) pool)
    (ended : ∀ thread ∈ pool.threads, thread = .done ()) :
    callsOf pool.shared.shared satId = (reference fleet satId (listedUnder satId document)).1 ∧
      (listedUnder satId document ≠ [] → pool.shared.shared.tracking.results.find? satId =
        some ((reference fleet satId (listedUnder satId document)).1.all (·.2))) :=
  computed_of_document accepted read distinct staffed inTime deaf reaches ended

/-! ## Two satellites with one behaviour -/

/-- The condition holds for the task of the first satellite only. -/
def checkTree : BehaviorNode := .mk { name := lit "Check", type := .condition, expression := lit "task_id == 'T1'" } []

def sampleFleet : Fleet FixedPoint where
  toSetting := sampleSetting
  cfg := {}
  behaviorTreePath := lit "library.json"
  content := some (JsonText.print (libraryToJson (OrdMap.empty.insert [] checkTree) : Json FixedPoint))
  executors _ := some {}

/-- One outcome of each action, where nobody disturbs a task. -/
def fleetOutcome (fleet : Fleet D) (round : Round D) : (a : Action D) → FleetState D →
    Option (a.Response × FleetState D × List (Thread D Unit))
  | .executeSingleTask satId task, s =>
    let ran := executeUncached fleet.simulator (quietTurn fleet task) (s.executors satId)
    some (ran.1, {
      shared := { s.shared with calls := s.shared.calls ++ [{ satId, task, taskOk := ran.1 }] }
      executors := Function.update s.executors satId ran.2 }, [])
  | a, s => (outcome fleet.toSetting round (fun _ => true) a s.shared).map fun out =>
    (out.1, { s with shared := out.2.1 }, out.2.2)

theorem fleetOutcome_sound (fleet : Fleet D) (round : Round D) (a : Action D) (s : FleetState D)
    (out : a.Response × FleetState D × List (Thread D Unit)) (known : fleetOutcome fleet round a s = some out) :
    (fleetSystem fleet).performs a s out.1 out.2.1 out.2.2 := by
  cases a with
  | executeSingleTask satId task =>
    obtain rfl := Option.some.inj known
    exact ⟨⟨rfl, rfl⟩, .quiet, 0, _, fun _ => rfl, rfl, rfl⟩
  | _ =>
    unfold fleetOutcome at known
    obtain ⟨own, found, rfl⟩ := Option.map_eq_some_iff.1 known
    exact ⟨outcome_sound fleet.toSetting round _ _ _ own found, rfl⟩

def doneThread (thread : Thread FixedPoint Unit) : Bool :=
  match thread with
  | .done _ => true
  | _ => false

theorem sampleFleet_ended : (Machine.turns (fleetOutcome sampleFleet sampleRound) (fleetPool sampleFleet sampleComm) (sampleOrder ++ [0])).any
    (fun pool => pool.threads.all doneThread) = true := by decide +kernel

/-- Whether the behaviour of the task looks into the mailbox. -/
def hears (task : TaskSegment) : Bool :=
  match parseBehaviorDefinition sampleFleet.json sampleFleet.behaviorTreePath sampleFleet.content task.behaviorRef with
  | .ok behavior => decide (Listens task behavior)
  | .error _ => false

theorem deaf_of_hears {task : TaskSegment} (silent : hears task = false) : Deaf sampleFleet task := by
  intro behavior parsed
  unfold hears at silent
  rw [parsed] at silent
  exact of_decide_eq_false silent

theorem fleet_computes_sample : ∃ pool,
    (fleetSystem sampleFleet).Reaches (fleetPool sampleFleet sampleComm) pool ∧
      pool.shared.shared.tracking.results.find? (lit "S1") = some true ∧
      pool.shared.shared.tracking.results.find? (lit "S2") = some false := by
  obtain ⟨pool, reached, all⟩ := (Option.any_eq_true _ _).1 sampleFleet_ended
  have ended : ∀ thread ∈ pool.threads, thread = .done () := by
    intro thread mem
    have done := List.all_eq_true.1 all thread mem
    unfold doneThread at done
    split at done
    · rfl
    · cases done
  have reaches := Machine.reaches_of_turns (fleetOutcome_sound sampleFleet sampleRound) reached
  have silent : ∀ satId ∈ [lit "S1", lit "S2"], ∀ task ∈ listedUnder satId distinctSchedule, hears task = false := by
    decide +kernel
  have first := fleet_computes sampleFleet distinctSchedule_accepted sampleSetting_read (by decide) sampleSetting_staffed
    rfl sampleComm (fun task mem => deaf_of_hears (silent (lit "S1") (by decide) task mem)) reaches ended
  have second := fleet_computes sampleFleet distinctSchedule_accepted sampleSetting_read (by decide) sampleSetting_staffed
    rfl sampleComm (fun task mem => deaf_of_hears (silent (lit "S2") (by decide) task mem)) reaches ended
  refine ⟨pool, reaches, (first.2 (by decide)).trans ?_, (second.2 (by decide)).trans ?_⟩
  · decide +kernel
  · decide +kernel

end Actuator.Coordinator
