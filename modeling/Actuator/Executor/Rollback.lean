import Actuator.Executor.Frame

/-!
# Rollback

A task that does not succeed leaves the GLOBAL variables as they were when it
started, its own three identifiers apart, and no task leaves anything in LOCAL
or INTERMEDIATE. The snapshot taken before the first node is still there when it
is needed: no node touches the snapshots, whether it returns or throws.
-/

namespace Actuator.Executor

open Actuator.Lib Actuator.Core Actuator.Parser
open Actuator.Lib.Effect

variable {D : Type} [CxxDouble D]

/-- No step of a node touches the snapshots. -/
theorem snapshots_frame (env : Environment D) :
    Frame (SameOn fun s : ExecState D => s.vm.snapshots) env
      { sets := fun _ _ => True, evaluates := fun _ _ => True } where
  set name value scope _ s := VariableManager.set_snapshots s.vm name value scope
  evaluates _ _ _ _ := rfl
  polls _ := rfl
  receives _ := rfl
  sends _ _ := rfl

theorem executeNode_snapshots (env : Environment D) (node : BehaviorNode) (s : ExecState D) :
    (executeNode env node s).2.vm.snapshots = s.vm.snapshots :=
  (snapshots_frame env).keeps_executeNode node { sets := fun _ _ _ _ _ => trivial, evaluates := fun _ _ _ _ _ _ => trivial } s

mutual

/-- The defaults are written with `setFromParams` on LOCAL only, at every node. -/
theorem initializeBehaviorDefaults_keeps {α : Type} (part : VariableManager D → α)
    (keeps : ∀ vm name value, part (vm.set name value .loc) = part vm) :
    ∀ (node : BehaviorNode) (vm : VariableManager D), part (initializeBehaviorDefaults node vm) = part vm
  | .mk data children, vm => by
    unfold initializeBehaviorDefaults
    rw [initializeAllDefaults_keeps part keeps children, VariableManager.setFromParams_keeps part keeps,
      VariableManager.setFromParams_keeps part keeps]

theorem initializeAllDefaults_keeps {α : Type} (part : VariableManager D → α)
    (keeps : ∀ vm name value, part (vm.set name value .loc) = part vm) :
    ∀ (nodes : List BehaviorNode) (vm : VariableManager D), part (initializeAllDefaults nodes vm) = part vm
  | [], vm => by
    unfold initializeAllDefaults
    rfl
  | node :: nodes, vm => by
    unfold initializeAllDefaults
    rw [initializeAllDefaults_keeps part keeps nodes, initializeBehaviorDefaults_keeps part keeps node]

end

/-- The GLOBAL map once a task has announced itself. -/
def announced (task : TaskSegment) (globalVars : VarMap D) : VarMap D :=
  ((globalVars.insert (lit "satellite_id") (.string task.satelliteId)).insert (lit "task_id")
    (.string task.taskId)).insert (lit "segment_id") (.string task.segmentId)

theorem initializeTaskContext_globalVars (task : TaskSegment) (vm : VariableManager D) :
    (initializeTaskContext task vm).globalVars = announced task vm.globalVars := by
  unfold initializeTaskContext
  exact VariableManager.setFromParams_keeps (·.globalVars) (fun _ _ _ => rfl) _ _

/-- The state in which the `try` block starts. -/
def startState (task : TaskSegment) (s : ExecState D) : ExecState D :=
  { s with vm := (initializeTaskContext task s.vm).createSnapshot.2 }

/-- The snapshot a task is rolled back to. -/
def startSnapshot (task : TaskSegment) (s : ExecState D) : Str := (initializeTaskContext task s.vm).createSnapshot.1

/-- The variables a task leaves behind: LOCAL and INTERMEDIATE are cleared. -/
def leave (s : ExecState D) : ExecState D := { s with vm := s.vm.clearLocal.clearScope .intermediate }

/-- The snapshot of a task is there and holds the announced GLOBAL map. -/
structure Restorable (task : TaskSegment) (start s : ExecState D) : Prop where
  holds : ∃ snapshot, s.vm.snapshots.find? (startSnapshot task start) = some snapshot ∧
    snapshot.globalVars = announced task start.vm.globalVars

theorem restorable_startState (task : TaskSegment) (s : ExecState D) : Restorable task s (startState task s) := by
  refine ⟨_, VariableManager.find?_createSnapshot _, ?_⟩
  exact initializeTaskContext_globalVars task s.vm

theorem Restorable.transfer {task : TaskSegment} {start s s' : ExecState D} (restorable : Restorable task start s)
    (same : s'.vm.snapshots = s.vm.snapshots) : Restorable task start s' := by
  obtain ⟨snapshot, found, global'⟩ := restorable.holds
  exact ⟨snapshot, by rw [same, found], global'⟩

theorem Restorable.restored {task : TaskSegment} {start s : ExecState D} (restorable : Restorable task start s) :
    (s.vm.restoreSnapshot (startSnapshot task start)).2.globalVars = announced task start.vm.globalVars := by
  obtain ⟨snapshot, found, global'⟩ := restorable.holds
  rw [VariableManager.restoreSnapshot_of_find? found]
  exact global'

/-! ## The `try` block -/

theorem runNodes_snapshots (cfg : ExecutorConfig) (env : Environment D) (snapshotId : Str) (nodes : List BehaviorNode)
    (outputs : VarMap D) : Keeps (SameOn fun s : ExecState D => s.vm.snapshots)
      (runNodes cfg env snapshotId nodes outputs) := by
  induction nodes generalizing outputs with
  | nil => exact keeps_pure _
  | cons node nodes ih =>
    unfold runNodes
    refine Keeps.bind (fun s => rfl) fun cancelled => ?_
    apply Keeps.ite
    · intro _
      exact keeps_pure _
    intro _
    refine Keeps.bind (executeNode_snapshots env node) fun nodeResult => ?_
    apply Keeps.ite
    · intro _
      exact ih _
    intro _
    apply Keeps.ite
    · intro _
      refine Keeps.bind (fun s => ?_) fun _ => keeps_pure _
      exact VariableManager.restoreSnapshot_snapshots s.vm snapshotId
    · intro _
      exact keeps_pure _

theorem runTask_snapshots (cfg : ExecutorConfig) (env : Environment D) (task : TaskSegment) (behavior : BehaviorNode)
    (snapshotId : Str) : Keeps (SameOn fun s : ExecState D => s.vm.snapshots)
      (runTask cfg env task behavior snapshotId) := by
  unfold runTask
  refine Keeps.bind (fun s => ?_) fun _ => Keeps.bind (fun s => ?_) fun _ => runNodes_snapshots _ _ _ _ _
  · exact initializeAllDefaults_keeps (·.snapshots) (fun _ _ _ => VariableManager.set_snapshots _ _ _ _) _ s.vm
  · exact VariableManager.setFromParams_keeps (·.snapshots) (fun _ _ _ => VariableManager.set_snapshots _ _ _ _) s.vm _

/-- A tree is instantiated to one node, so a task is cancelled before that node or fails in it. -/
theorem runNodes_failed {cfg : ExecutorConfig} (rollback : cfg.enableRollback = true) {env : Environment D}
    {task : TaskSegment} {start s s' : ExecState D} {node : BehaviorNode} {result : ExecutionResult D}
    (run : runNodes cfg env (startSnapshot task start) [node] OrdMap.empty s = (.ok result, s'))
    (failed : result.success = false) (restorable : Restorable task start s)
    (before : s.vm.globalVars = announced task start.vm.globalVars) :
    s'.vm.globalVars = announced task start.vm.globalVars := by
  unfold runNodes at run
  obtain ⟨cancelled, s₁, polled, run⟩ := bind_eq_ok run
  cases polled
  split at run
  · cases run
    exact before
  · obtain ⟨nodeResult, s₂, ran, run⟩ := bind_eq_ok run
    have kept := executeNode_snapshots env node { s with polls := s.polls + 1 }
    rw [ran] at kept
    split at run
    · unfold runNodes at run
      cases run
      cases failed
    · cases run
      exact (restorable.transfer kept).restored

theorem runTask_failed {cfg : ExecutorConfig} (rollback : cfg.enableRollback = true) {env : Environment D}
    {task : TaskSegment} {behavior : BehaviorNode} {start s s' : ExecState D} {result : ExecutionResult D}
    (run : runTask cfg env task behavior (startSnapshot task start) s = (.ok result, s'))
    (failed : result.success = false) (restorable : Restorable task start s)
    (before : s.vm.globalVars = announced task start.vm.globalVars) :
    s'.vm.globalVars = announced task start.vm.globalVars := by
  unfold runTask at run
  obtain ⟨_, s₁, defaults, run⟩ := bind_eq_ok run
  cases defaults
  obtain ⟨_, s₂, params, run⟩ := bind_eq_ok run
  cases params
  apply runNodes_failed rollback run failed
  · apply restorable.transfer
    show (VariableManager.setFromParams _ _ _).snapshots = _
    rw [VariableManager.setFromParams_keeps (·.snapshots) fun _ _ _ => VariableManager.set_snapshots _ _ _ _]
    exact initializeAllDefaults_keeps (·.snapshots) (fun _ _ _ => VariableManager.set_snapshots _ _ _ _) _ s.vm
  · show (VariableManager.setFromParams _ _ _).globalVars = _
    rw [VariableManager.setFromParams_keeps (·.globalVars) fun _ _ _ => rfl,
      initializeAllDefaults_keeps (·.globalVars) fun _ _ _ => rfl]
    exact before

/-! ## The task -/

/-- How a task ends, by the outcome of its `try` block. -/
theorem executeTaskInternal_run (cfg : ExecutorConfig) (env : Environment D) (task : TaskSegment)
    (behavior : BehaviorNode) (elapsedMs : Int) (s : ExecState D) :
    executeTaskInternal cfg env task behavior elapsedMs s =
      match runTask cfg env task behavior (startSnapshot task s) (startState task s) with
      | (.ok result, s') => (.ok { result with executionTimeMs := elapsedMs }, leave s')
      | (.error what, s') =>
        (.ok { ExecutionResult.ofFailure (lit "执行异常: " ++ what) [] with executionTimeMs := elapsedMs },
          leave { s' with vm := (s'.vm.restoreSnapshot (startSnapshot task s)).2 }) := by
  rcases run : runTask cfg env task behavior (startSnapshot task s) (startState task s) with ⟨outcome, s'⟩
  have caught : (runTask cfg env task behavior (startSnapshot task s)).attempt (startState task s) =
      ((.ok outcome, s') : Except Exn _ × _) := by
    unfold Effect.attempt
    rw [run]
  have started : createSnapshot { s with vm := initializeTaskContext task s.vm } =
      (.ok (startSnapshot task s), startState task s) := rfl
  have announce : modifyVm (initializeTaskContext task) s =
      (.ok (), { s with vm := initializeTaskContext task s.vm }) := rfl
  unfold executeTaskInternal
  rw [bind_run_ok announce, bind_run_ok started, bind_run_ok caught]
  cases outcome with
  | ok result => rfl
  | error what => rfl

/-- A task always returns a result. If that is a failure, of whatever kind and at
whatever depth, GLOBAL is as before the task but for the task's identifiers; LOCAL
and INTERMEDIATE are empty in any case. -/
theorem executeTaskInternal_rolls_back (cfg : ExecutorConfig) (rollback : cfg.enableRollback = true)
    (env : Environment D) (task : TaskSegment) (behavior : BehaviorNode) (elapsedMs : Int) (s : ExecState D) :
    ∃ result s', executeTaskInternal cfg env task behavior elapsedMs s = (.ok result, s') ∧
      (result.success = false → s'.vm.globalVars = announced task s.vm.globalVars) ∧
      s'.vm.localVars = OrdMap.empty ∧ s'.vm.intermediateVars = OrdMap.empty := by
  have restorable := restorable_startState task s
  have before : (startState task s).vm.globalVars = announced task s.vm.globalVars :=
    initializeTaskContext_globalVars task s.vm
  have kept := runTask_snapshots cfg env task behavior (startSnapshot task s) (startState task s)
  rw [executeTaskInternal_run]
  rcases run : runTask cfg env task behavior (startSnapshot task s) (startState task s) with ⟨outcome, s'⟩
  rw [run] at kept
  cases outcome with
  | ok result =>
    refine ⟨_, _, rfl, ?_, rfl, rfl⟩
    intro failed
    have restored := runTask_failed rollback run failed restorable before
    exact restored
  | error what =>
    refine ⟨_, _, rfl, ?_, rfl, rfl⟩
    intro _
    exact (restorable.transfer kept).restored

/-- A tree that assigns a GLOBAL variable and then divides by zero. -/
def divisionTree : BehaviorNode :=
  .mk { name := lit "Main", type := .sequence }
    [.mk { name := lit "Mark", type := .action, command := lit "SETVAR mode = 1" } [],
      .mk { name := lit "Divide", type := .action, command := lit "ASSIGN"
            params := OrdMap.empty.insert (lit "q") (lit "1 / 0") } []]

/-- A task without parameters, for the runs on fixed inputs. -/
def plainTask : TaskSegment := {
  segmentId := lit "SEG_1", taskId := lit "TASK_1", satelliteId := lit "SAT_1", behaviorRef := lit "Main"
  behaviorParams := OrdMap.empty }

theorem executeTaskInternal_rolls_back_sample :
    ∃ result s', executeTaskInternal {} (.quiet : Environment FixedPoint) plainTask divisionTree 3 {} =
        (.ok result, s') ∧
      result.message = lit "执行异常: division by zero" ∧
      s'.vm.globalVars = announced plainTask OrdMap.empty ∧ s'.vm.localVars = OrdMap.empty := by
  obtain ⟨result, s', run, restored, emptied, -⟩ :=
    executeTaskInternal_rolls_back {} rfl (.quiet : Environment FixedPoint) plainTask divisionTree 3 {}
  have failed : result.success = false ∧ result.message = lit "执行异常: division by zero" := by
    have outcome : (executeTaskInternal {} (.quiet : Environment FixedPoint) plainTask divisionTree 3 {}).1.toOption.map
        (fun r => (r.success, r.message)) = some (false, lit "执行异常: division by zero") := by decide
    rw [run] at outcome
    have both : (result.success, result.message) = _ := Option.some.inj outcome
    exact ⟨congrArg Prod.fst both, congrArg Prod.snd both⟩
  exact ⟨result, s', run, failed.2, restored failed.1, emptied⟩

end Actuator.Executor
