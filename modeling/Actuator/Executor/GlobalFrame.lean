import Actuator.Executor.Rollback

/-!
# What a task leaves in GLOBAL

The names that a task may set in GLOBAL can be listed from its tree: the three
identifiers, the position sensors, the two flags, what `REPORT_TARGET` reports
and what `SETVAR` assigns. All other commands, the observations, the defaults and
the parameters write to LOCAL or INTERMEDIATE, and the roll back restores a copy
of the same maps, so every other key is after the task as it was before.
-/

namespace Actuator.Executor

open Actuator.Lib Actuator.Core Actuator.Parser
open Actuator.Lib.Effect

variable {D : Type} [CxxDouble D]

/-! ## The keys -/

instance decidableRunsCommand (data : NodeData) : Decidable (RunsCommand data) := by unfold RunsCommand; infer_instance

/-- The keys that a node sets if its command in the task is `REPORT_TARGET`. -/
def reportedKeys (behavior : BehaviorNode) (params : StrMap) (node : BehaviorNode) : List Str :=
  if RunsCommand node.data ∧ commandName (instantiated behavior params node).data.command = lit "REPORT_TARGET" then
    node.data.params.entries.map fun param => lit "reported_" ++ param.1
  else []

/-- The name that an instantiated node assigns if its command is a `SETVAR`. -/
def assignedNames (node : BehaviorNode) : List Str :=
  if RunsCommand node.data ∧ occurs (lit "SETVAR") (commandName node.data.command) = true then
    match find? (lit "=") node.data.command with
    | some eqPos =>
      if (setvarName node.data.command eqPos).isEmpty then [] else [setvarName node.data.command eqPos]
    | none => []
  else []

def identifierKeys : List Str := [lit "satellite_id", lit "task_id", lit "segment_id"]

def flagKeys : List Str := [lit "target_reported", lit "mission_exit"]

/-- The GLOBAL keys that the task may change. -/
def changeableKeys (task : TaskSegment) (behavior : BehaviorNode) : List Str :=
  identifierKeys ++ positionKeys.map Prod.snd ++ flagKeys ++
    behavior.subnodes.flatMap (reportedKeys behavior task.behaviorParams) ++
    (BehaviorNode.subnodesOf (instantiate behavior task.behaviorParams)).flatMap assignedNames

/-! ## One node -/

/-- Expansion changes neither the kind of a node nor the names of its parameters. -/
theorem instantiated_data (behavior : BehaviorNode) (params : StrMap) (node : BehaviorNode) :
    (instantiated behavior params node).data.type = node.data.type ∧
      ∀ key text, (instantiated behavior params node).data.params.find? key = some text →
        ∃ before, node.data.params.find? key = some before := by
  constructor
  · cases node
    rfl
  · intro key text found
    rw [find?_instantiated_params] at found
    obtain ⟨before, held, _⟩ := Option.map_eq_some_iff.1 found
    exact ⟨before, held⟩

/-- What a node of the tree sets in GLOBAL is listed. -/
theorem mem_changeableKeys_of_writes {task : TaskSegment} {behavior node : BehaviorNode}
    (inside : node ∈ BehaviorNode.subnodesOf (instantiate behavior task.behaviorParams)) {key : Str}
    (writes : NodeWrites node.data key .global) : key ∈ changeableKeys task behavior := by
  unfold changeableKeys
  obtain ⟨runs, command⟩ : RunsCommand node.data ∧ CommandWrites node.data.command node.data.params key .global := by
    cases writes with
    | command runs command => exact ⟨runs, command⟩
  cases command with
  | sensor is axis param =>
    have sensor : key ∈ positionKeys.map Prod.snd := List.mem_map.2 ⟨_, axis, rfl⟩
    simp only [List.mem_append]
    tauto
  | targetReported is =>
    have flag : lit "target_reported" ∈ flagKeys := List.mem_cons_self
    simp only [List.mem_append]
    tauto
  | exit is =>
    have flag : lit "mission_exit" ∈ flagKeys := List.mem_cons_of_mem _ List.mem_cons_self
    simp only [List.mem_append]
    tauto
  | @report k text is param =>
    rw [subnodesOf_instantiate] at inside
    obtain ⟨original, member, rfl⟩ := List.mem_map.1 inside
    obtain ⟨kind, keeps⟩ := instantiated_data behavior task.behaviorParams original
    obtain ⟨before, held⟩ := keeps k text param
    have runsBefore : RunsCommand original.data := by
      unfold RunsCommand at runs ⊢
      rwa [kind] at runs
    have reported : lit "reported_" ++ k ∈ reportedKeys behavior task.behaviorParams original := by
      unfold reportedKeys
      rw [if_pos ⟨runsBefore, is⟩]
      exact List.mem_map.2 ⟨_, OrdMap.mem_entries.2 held, rfl⟩
    have listed := List.mem_flatMap.2 ⟨original, member, reported⟩
    simp only [List.mem_append]
    tauto
  | @setvar eqPos is assigns named =>
    have assigned : setvarName node.data.command eqPos ∈ assignedNames node := by
      unfold assignedNames
      rw [if_pos ⟨runs, is⟩, assigns]
      dsimp only
      rw [if_neg fun empty => named (List.isEmpty_iff.1 empty)]
      exact List.mem_singleton_self _
    have listed := List.mem_flatMap.2 ⟨node, inside, assigned⟩
    simp only [List.mem_append]
    tauto

/-! ## The task -/

/-- The value under a GLOBAL key. -/
def globalAt (key : Str) (s : ExecState D) : Option (VariableValue D) := s.vm.globalVars.find? key

/-- Every step but a GLOBAL `set` under the key leaves its value. -/
theorem globalAt_frame (env : Environment D) (key : Str) :
    Frame (SameOn (globalAt (D := D) key)) env
      { sets := fun name scope => ¬(name = key ∧ scope = .global), evaluates := fun _ _ => True } where
  set name value scope other s := by
    cases scope with
    | loc => rfl
    | intermediate => rfl
    | global => exact OrdMap.find?_insert_of_ne _ _ fun same => other ⟨same.symm, rfl⟩
  evaluates _ _ _ _ := rfl
  polls _ := rfl
  receives _ := rfl
  sends _ _ := rfl

variable {task : TaskSegment} {behavior : BehaviorNode} {key : Str}

omit [CxxDouble D] in
/-- The identifiers are among the listed keys. -/
theorem find?_announced (other : key ∉ changeableKeys task behavior) (globalVars : VarMap D) :
    (announced task globalVars).find? key = globalVars.find? key := by
  have differ : key ∉ identifierKeys := by
    unfold changeableKeys at other
    simp only [List.mem_append] at other
    tauto
  simp only [identifierKeys, List.mem_cons, List.not_mem_nil, or_false, not_or] at differ
  obtain ⟨satellite, taskId, segment⟩ := differ
  unfold announced
  rw [OrdMap.find?_insert_of_ne _ _ segment, OrdMap.find?_insert_of_ne _ _ taskId,
    OrdMap.find?_insert_of_ne _ _ satellite]

/-- The snapshot of the task can be restored, and the key has the value from before the task. -/
structure Untouched (task : TaskSegment) (key : Str) (start s : ExecState D) : Prop where
  restorable : Restorable task start s
  value : globalAt key s = globalAt key start

theorem Untouched.transfer {start s s' : ExecState D} (untouched : Untouched task key start s)
    (snapshots : s'.vm.snapshots = s.vm.snapshots) (value : globalAt key s' = globalAt key s) :
    Untouched task key start s' :=
  ⟨untouched.restorable.transfer snapshots, value.trans untouched.value⟩

theorem Untouched.restore {start s : ExecState D} (untouched : Untouched task key start s)
    (other : key ∉ changeableKeys task behavior) :
    Untouched task key start { s with vm := (s.vm.restoreSnapshot (startSnapshot task start)).2 } where
  restorable := untouched.restorable.transfer (VariableManager.restoreSnapshot_snapshots s.vm _)
  value := by
    unfold globalAt
    rw [untouched.restorable.restored]
    exact find?_announced other start.vm.globalVars

theorem runNodes_untouched (cfg : ExecutorConfig) (env : Environment D) (start : ExecState D)
    (other : key ∉ changeableKeys task behavior) (nodes : List BehaviorNode)
    (within : ∀ node ∈ BehaviorNode.subnodesOf nodes,
      node ∈ BehaviorNode.subnodesOf (instantiate behavior task.behaviorParams)) (outputs : VarMap D) :
    Keeps (Maintains (Untouched task key start)) (runNodes cfg env (startSnapshot task start) nodes outputs) := by
  induction nodes generalizing outputs with
  | nil => exact keeps_pure _
  | cons node nodes ih =>
    have first : ∀ sub ∈ node.subnodes, sub ∈ BehaviorNode.subnodesOf (instantiate behavior task.behaviorParams) :=
      fun sub mem => within sub (List.mem_append_left _ mem)
    have permitted : Within { sets := fun name scope => ¬(name = key ∧ scope = .global), evaluates := fun _ _ => True }
        node.subnodes := by
      refine ⟨fun sub mem name scope writes same => ?_, fun _ _ _ _ _ _ => trivial⟩
      obtain ⟨rfl, rfl⟩ := same
      exact other (mem_changeableKeys_of_writes (first sub mem) writes)
    unfold runNodes
    refine Keeps.bind (fun s untouched => untouched.transfer rfl rfl) fun cancelled => ?_
    refine .ite (fun _ => keeps_pure _) fun _ => ?_
    refine Keeps.bind (fun s untouched => ?_) fun nodeResult => ?_
    · exact untouched.transfer (executeNode_snapshots env node s)
        ((globalAt_frame env key).keeps_executeNode node permitted s)
    refine .ite (fun _ => ih (fun sub mem => within sub (List.mem_append_right _ mem)) _) fun _ => ?_
    refine .ite (fun _ => ?_) fun _ => keeps_pure _
    exact Keeps.bind (fun s untouched => untouched.restore other) fun _ => keeps_pure _

theorem runTask_untouched (cfg : ExecutorConfig) (env : Environment D) (start : ExecState D)
    (other : key ∉ changeableKeys task behavior) :
    Keeps (Maintains (Untouched task key start)) (runTask cfg env task behavior (startSnapshot task start)) := by
  unfold runTask
  refine Keeps.bind (fun s untouched => untouched.transfer ?_ ?_) fun _ =>
    Keeps.bind (fun s untouched => untouched.transfer ?_ ?_) fun _ =>
      runNodes_untouched cfg env start other _ (fun _ mem => mem) _
  · exact initializeAllDefaults_keeps (·.snapshots) (fun _ _ _ => VariableManager.set_snapshots _ _ _ _) _ s.vm
  · exact initializeAllDefaults_keeps (·.globalVars.find? key) (fun _ _ _ => rfl) _ s.vm
  · exact VariableManager.setFromParams_keeps (·.snapshots) (fun _ _ _ => VariableManager.set_snapshots _ _ _ _) s.vm _
  · exact VariableManager.setFromParams_keeps (·.globalVars.find? key) (fun _ _ _ => rfl) s.vm _

/-- A task leaves every GLOBAL key that is not listed as it was, present or absent, whatever it runs and however it
ends. -/
theorem executeTaskInternal_global (cfg : ExecutorConfig) (env : Environment D) (task : TaskSegment)
    (behavior : BehaviorNode) (elapsedMs : Int) (s : ExecState D) (key : Str)
    (other : key ∉ changeableKeys task behavior) :
    (executeTaskInternal cfg env task behavior elapsedMs s).2.vm.globalVars.find? key = s.vm.globalVars.find? key := by
  have started : Untouched task key s (startState task s) := by
    refine ⟨restorable_startState task s, ?_⟩
    show (initializeTaskContext task s.vm).globalVars.find? key = _
    rw [initializeTaskContext_globalVars]
    exact find?_announced other s.vm.globalVars
  have kept := runTask_untouched cfg env s other (startState task s) started
  rw [executeTaskInternal_run]
  rcases run : runTask cfg env task behavior (startSnapshot task s) (startState task s) with ⟨outcome, s'⟩
  rw [run] at kept
  cases outcome with
  | ok result => exact kept.value
  | error what => exact (kept.restore other).value

/-- The failing task of the roll back, with a variable of its own and one of an earlier task. -/
theorem executeTaskInternal_global_sample :
    (executeTaskInternal {} (.quiet : Environment FixedPoint) plainTask divisionTree 3
        { vm := ({} : VariableManager FixedPoint).set (lit "q") (.int 5) .global }).2.vm.globalVars.find? (lit "q") =
      some (.int 5) :=
  executeTaskInternal_global {} .quiet plainTask divisionTree 3
    { vm := ({} : VariableManager FixedPoint).set (lit "q") (.int 5) .global } (lit "q") (by decide)

end Actuator.Executor
