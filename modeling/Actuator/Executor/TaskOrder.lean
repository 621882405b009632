import Actuator.Executor.Independence
import Actuator.Lib.Commuting

/-!
# Tasks behind each other

The tasks of an executor share its GLOBAL variables. Tasks of which none writes
a variable that occurs in another, or that another writes, do not notice each
other: each returns what it returns on its own, and whatever their order, they
leave the same variables (`executeJobs_perm`). Only the identifiers, which each
task sets, are those of the last one.
-/

namespace Actuator.Executor

open Actuator.Lib Actuator.Core Actuator.Parser
open Actuator.Lib.Effect

variable {D : Type} [CxxDouble D]

/-! ## What a task does not write -/

/-- A node of the task sets the GLOBAL variable. -/
def WritesGlobal (task : TaskSegment) (behavior : BehaviorNode) (name : Str) : Prop :=
  ∃ node ∈ taskNodes task behavior, NodeWrites node.data name .global

omit [CxxDouble D] in
/-- Announcing a task changes the identifiers only. -/
theorem find?_announced_other (task : TaskSegment) (globalVars : VarMap D) {name : Str} (other : name ∉ identifierKeys) :
    (announced task globalVars).find? name = globalVars.find? name := by
  simp only [identifierKeys, List.mem_cons, List.not_mem_nil, or_false, not_or] at other
  obtain ⟨satellite, taskId, segment⟩ := other
  unfold announced
  rw [OrdMap.find?_insert_of_ne _ _ segment, OrdMap.find?_insert_of_ne _ _ taskId,
    OrdMap.find?_insert_of_ne _ _ satellite]

/-- The snapshot of the task is still there, and so is the value under the name. -/
structure Spared (task : TaskSegment) (name : Str) (start s : ExecState D) : Prop where
  snapshots : s.vm.snapshots = (startState task start).vm.snapshots
  value : globalAt name s = globalAt name (startState task start)

section Spared

variable {task : TaskSegment} {behavior : BehaviorNode} {name : Str} {start s s' : ExecState D}

theorem Spared.transfer (spared : Spared task name start s) (snapshots : s'.vm.snapshots = s.vm.snapshots)
    (value : globalAt name s' = globalAt name s) : Spared task name start s' :=
  ⟨snapshots.trans spared.snapshots, value.trans spared.value⟩

theorem Spared.restore (spared : Spared task name start s) :
    Spared task name start { s with vm := (s.vm.restoreSnapshot (startSnapshot task start)).2 } := by
  rw [restored_vm spared.snapshots]
  exact ⟨spared.snapshots, rfl⟩

theorem runNodes_spared (cfg : ExecutorConfig) (env : Environment D) (start : ExecState D)
    (unwritten : ¬WritesGlobal task behavior name) (nodes : List BehaviorNode)
    (within : ∀ node ∈ BehaviorNode.subnodesOf nodes, node ∈ taskNodes task behavior) (outputs : VarMap D) :
    Keeps (Maintains (Spared task name start)) (runNodes cfg env (startSnapshot task start) nodes outputs) := by
  induction nodes generalizing outputs with
  | nil => exact keeps_pure _
  | cons node nodes ih =>
    have permitted : Within { sets := fun other scope => ¬(other = name ∧ scope = .global), evaluates := fun _ _ => True }
        node.subnodes := by
      refine ⟨fun sub mem other scope writes same => ?_, fun _ _ _ _ _ _ => trivial⟩
      obtain ⟨rfl, rfl⟩ := same
      exact unwritten ⟨sub, within sub (List.mem_append_left _ mem), writes⟩
    unfold runNodes
    refine Keeps.bind (fun s spared => spared.transfer rfl rfl) fun cancelled => ?_
    refine .ite (fun _ => keeps_pure _) fun _ => ?_
    refine Keeps.bind (fun s spared => ?_) fun nodeResult => ?_
    · exact spared.transfer (executeNode_snapshots env node s)
        ((globalAt_frame env name).keeps_executeNode node permitted s)
    refine .ite (fun _ => ih (fun sub mem => within sub (List.mem_append_right _ mem)) _) fun _ => ?_
    refine .ite (fun _ => ?_) fun _ => keeps_pure _
    exact Keeps.bind (fun s spared => spared.restore) fun _ => keeps_pure _

theorem runTask_spared (cfg : ExecutorConfig) (env : Environment D) (start : ExecState D)
    (unwritten : ¬WritesGlobal task behavior name) :
    Keeps (Maintains (Spared task name start)) (runTask cfg env task behavior (startSnapshot task start)) := by
  unfold runTask
  refine Keeps.bind (fun s spared => spared.transfer ?_ ?_) fun _ =>
    Keeps.bind (fun s spared => spared.transfer ?_ ?_) fun _ =>
      runNodes_spared cfg env start unwritten _ (fun _ mem => mem) _
  · exact initializeAllDefaults_keeps (·.snapshots) (fun _ _ _ => VariableManager.set_snapshots _ _ _ _) _ s.vm
  · exact initializeAllDefaults_keeps (·.globalVars.find? name) (fun _ _ _ => rfl) _ s.vm
  · exact VariableManager.setFromParams_keeps (·.snapshots) (fun _ _ _ => VariableManager.set_snapshots _ _ _ _) s.vm _
  · exact VariableManager.setFromParams_keeps (·.globalVars.find? name) (fun _ _ _ => rfl) s.vm _

/-- A variable that no node of the task writes keeps its value, unless it is one of the identifiers. -/
theorem executeTaskInternal_spares (cfg : ExecutorConfig) (env : Environment D) (elapsedMs : Int)
    (unwritten : ¬WritesGlobal task behavior name) (other : name ∉ identifierKeys) (s : ExecState D) :
    (executeTaskInternal cfg env task behavior elapsedMs s).2.vm.globalVars.find? name = s.vm.globalVars.find? name := by
  have announcing : globalAt name (startState task s) = s.vm.globalVars.find? name := by
    show (initializeTaskContext task s.vm).globalVars.find? name = _
    rw [initializeTaskContext_globalVars]
    exact find?_announced_other task s.vm.globalVars other
  have kept := runTask_spared cfg env s unwritten (startState task s) ⟨rfl, rfl⟩
  rw [executeTaskInternal_run]
  rcases run : runTask cfg env task behavior (startSnapshot task s) (startState task s) with ⟨outcome, s'⟩
  rw [run] at kept
  cases outcome with
  | ok result => exact kept.value.trans announcing
  | error what => exact kept.restore.value.trans announcing

end Spared

/-! ## Jobs -/

/-- One call of `executeTaskInternal`, with what others do meanwhile and how long it takes. -/
structure Job (D : Type) where
  task : TaskSegment
  behavior : BehaviorNode
  env : Environment D
  elapsedMs : Int

namespace Job

/-- Nobody cancels the job, and it does not listen to others. -/
structure Alone (job : Job D) : Prop where
  uncancelled : job.env.Uncancelled
  deaf : ¬Listens job.task job.behavior

/-- What the one job writes occurs in the other at most as an identifier. -/
def Spares (job other : Job D) : Prop :=
  ∀ name ∉ identifierKeys, WritesGlobal job.task job.behavior name →
    ¬Mentions other.task other.behavior name ∧ ¬WritesGlobal other.task other.behavior name

/-- Neither job notices the other. -/
def Independent (job other : Job D) : Prop := Spares job other ∧ Spares other job

def execute (cfg : ExecutorConfig) (job : Job D) (s : ExecState D) : Except Exn (ExecutionResult D) × ExecState D :=
  executeTaskInternal cfg job.env job.task job.behavior job.elapsedMs s

end Job

/-- The jobs are executed one after the other. -/
def executeJobs (cfg : ExecutorConfig) :
    List (Job D) → ExecState D → List (Job D × Except Exn (ExecutionResult D)) × ExecState D
  | [], s => ([], s)
  | job :: jobs, s =>
    let ran := job.execute cfg s
    let later := executeJobs cfg jobs ran.2
    ((job, ran.1) :: later.1, later.2)

theorem executeJobs_state (cfg : ExecutorConfig) (jobs : List (Job D)) (s : ExecState D) :
    (executeJobs cfg jobs s).2 = jobs.foldl (fun s job => (job.execute cfg s).2) s := by
  induction jobs generalizing s with
  | nil => rfl
  | cons job jobs ih => exact ih (job.execute cfg s).2

/-- The GLOBAL variables are the same but for the identifiers of a task. -/
def SameGlobals (s t : ExecState D) : Prop :=
  ∀ name ∉ identifierKeys, s.vm.globalVars.find? name = t.vm.globalVars.find? name

section Jobs

variable {cfg : ExecutorConfig} {job other : Job D}

/-- A job that is alone depends on the variables that occur in it. -/
theorem Job.Alone.execute_congr (alone : job.Alone) {s t : ExecState D}
    (same : ∀ name ∉ identifierKeys, Mentions job.task job.behavior name →
      s.vm.globalVars.find? name = t.vm.globalVars.find? name) :
    (job.execute cfg s).1 = (job.execute cfg t).1 ∧ ∀ name,
      (job.execute cfg s).2.vm.globalVars.find? name = (job.execute cfg t).2.vm.globalVars.find? name ∨
        (job.execute cfg s).2.vm.globalVars.find? name = s.vm.globalVars.find? name ∧
          (job.execute cfg t).2.vm.globalVars.find? name = t.vm.globalVars.find? name := by
  have agree : Agree job.task job.behavior job.env job.env s t :=
    ⟨alone.uncancelled, alone.uncancelled, fun name mentioned identifier => same name identifier mentioned,
      fun listens => absurd listens alone.deaf⟩
  obtain ⟨result, s', t', run, run', left, _⟩ := agree.outcome cfg job.elapsedMs job.elapsedMs
  unfold Job.execute
  rw [run, run']
  exact ⟨rfl, left⟩

/-- Behind an independent job, a job does what it does on its own. -/
theorem Job.Alone.execute_behind (alone : job.Alone) (spares : other.Spares job) (s : ExecState D) :
    (job.execute cfg (other.execute cfg s).2).1 = (job.execute cfg s).1 ∧ ∀ name ∉ identifierKeys,
      ¬WritesGlobal other.task other.behavior name →
      (job.execute cfg (other.execute cfg s).2).2.vm.globalVars.find? name =
        (job.execute cfg s).2.vm.globalVars.find? name := by
  have before : ∀ name ∉ identifierKeys, ¬WritesGlobal other.task other.behavior name →
      (other.execute cfg s).2.vm.globalVars.find? name = s.vm.globalVars.find? name :=
    fun name identifier unwritten => executeTaskInternal_spares cfg other.env other.elapsedMs unwritten identifier s
  have agree : ∀ name ∉ identifierKeys, Mentions job.task job.behavior name →
      (other.execute cfg s).2.vm.globalVars.find? name = s.vm.globalVars.find? name :=
    fun name identifier mentioned => before name identifier fun writes => (spares name identifier writes).1 mentioned
  obtain ⟨outcome, left⟩ := alone.execute_congr agree
  refine ⟨outcome, fun name identifier unwritten => ?_⟩
  rcases left name with same | ⟨kept, kept'⟩
  · exact same
  · exact kept.trans ((before name identifier unwritten).trans kept'.symm)

theorem sameGlobals_swap (alone : job.Alone) (alone' : other.Alone) (independent : job.Independent other)
    (s : ExecState D) :
    SameGlobals (other.execute cfg (job.execute cfg s).2).2 (job.execute cfg (other.execute cfg s).2).2 := by
  obtain ⟨spares, spares'⟩ := independent
  intro name identifier
  by_cases writes : WritesGlobal job.task job.behavior name
  · -- the other job leaves what this one writes
    have unwritten := (spares name identifier writes).2
    rw [(alone.execute_behind spares' s).2 name identifier unwritten]
    exact executeTaskInternal_spares cfg other.env other.elapsedMs unwritten identifier _
  · rw [(alone'.execute_behind spares s).2 name identifier writes]
    exact (executeTaskInternal_spares cfg job.env job.elapsedMs writes identifier _).symm

/-- Jobs that are alone respect what they have in common, and independent ones commute. -/
theorem jobs_commuting (cfg : ExecutorConfig) :
    Commuting (fun s (job : Job D) => (job.execute cfg s).2) SameGlobals Job.Alone Job.Independent where
  equivalence :=
    ⟨fun _ _ _ => rfl, fun same name other => (same name other).symm,
      fun first next name other => (first name other).trans (next name other)⟩
  congr alone same name identifier := by
    rcases (alone.execute_congr fun name identifier _ => same name identifier).2 name with eq | ⟨kept, kept'⟩
    · exact eq
    · exact kept.trans ((same name identifier).trans kept'.symm)
  swap alone alone' independent s := sameGlobals_swap alone alone' independent s
  symm independent := independent.symm

end Jobs

/-- Independent jobs return what each of them returns on its own, and leave the same GLOBAL variables in every order. -/
theorem executeJobs_perm (cfg : ExecutorConfig) (jobs : List (Job D)) (alone : ∀ job ∈ jobs, job.Alone)
    (independent : jobs.Pairwise Job.Independent) (s : ExecState D) :
    (executeJobs cfg jobs s).1 = jobs.map (fun job => (job, (job.execute cfg s).1)) ∧
      ∀ others, jobs.Perm others → SameGlobals (executeJobs cfg jobs s).2 (executeJobs cfg others s).2 := by
  constructor
  · induction jobs generalizing s with
    | nil => rfl
    | cons job jobs ih =>
      obtain ⟨first, rest⟩ := List.pairwise_cons.1 independent
      have later := ih (fun other mem => alone other (List.mem_cons_of_mem _ mem)) rest (job.execute cfg s).2
      show (job, (job.execute cfg s).1) :: (executeJobs cfg jobs (job.execute cfg s).2).1 = _
      rw [later, List.map_cons]
      congr 1
      refine List.map_congr_left fun other mem => ?_
      rw [((alone other (List.mem_cons_of_mem _ mem)).execute_behind (first other mem).1 s).1]
  · intro others perm
    rw [executeJobs_state, executeJobs_state]
    exact (jobs_commuting cfg).foldl_perm perm alone independent s

/-! ## Two jobs that assign different variables -/

/-- Another tree of one node, for another variable. -/
def gainTree : BehaviorNode := .mk { name := lit "Gain", type := .action, command := lit "SETVAR gain = 2" } []

def sampleJob (behavior : BehaviorNode) : Job FixedPoint where
  task := plainTask
  behavior
  env := .quiet
  elapsedMs := 3

/-- The node has only a `SETVAR` command, which assigns this name and evaluates a text without either name. -/
structure Assigns (node : BehaviorNode) (own other : Str) : Prop where
  instantiates : taskNodes plainTask node = [node]
  plain : node.data.params = OrdMap.empty ∧ node.data.observation = OrdMap.empty ∧ node.data.expression = []
  named : own ≠ [] ∧ other ≠ []
  command : commandName node.data.command ≠ lit "REPORT_TARGET" ∧ commandName node.data.command ≠ lit "EXIT" ∧
    commandName node.data.command ≠ lit "RECEIVE"
  assigns : ∃ eqPos, find? (lit "=") node.data.command = some eqPos ∧ setvarName node.data.command eqPos = own ∧
    ¬own <:+: setvarExpression node.data.command eqPos ∧ ¬other <:+: setvarExpression node.data.command eqPos

theorem Assigns.writes {node : BehaviorNode} {own other name : Str} (is : Assigns node own other)
    (writes : WritesGlobal plainTask node name) : name = own := by
  obtain ⟨sub, inside, writes⟩ := writes
  rw [is.instantiates] at inside
  obtain rfl := List.mem_singleton.1 inside
  obtain ⟨eqPos, found, named, _⟩ := is.assigns
  cases writes with
  | command runs writes =>
    cases writes with
    | sensor _ _ param => rw [is.plain.1] at param; cases param
    | targetReported report => exact absurd report is.command.1
    | report report => exact absurd report is.command.1
    | exit exits => exact absurd exits is.command.2.1
    | setvar _ assigns _ =>
      rw [found] at assigns
      obtain rfl := Option.some.inj assigns
      exact named

theorem Assigns.mentions {node : BehaviorNode} {own other : Str} (is : Assigns node own other) :
    ¬Mentions plainTask node other := by
  rintro ⟨sub, inside, mentions⟩
  rw [is.instantiates] at inside
  obtain rfl := List.mem_singleton.1 inside
  obtain ⟨params, observation, expression⟩ := is.plain
  obtain ⟨eqPos, found, _, _, apart⟩ := is.assigns
  cases mentions with
  | expression inside =>
    rw [expression] at inside
    exact is.named.2 (List.eq_nil_of_infix_nil inside)
  | text evaluates inside =>
    cases evaluates.2 with
    | param held => rw [params] at held; cases held
    | setvar _ assigns =>
      rw [found] at assigns
      obtain rfl := Option.some.inj assigns
      exact apart inside
  | output held => rw [params] at held; cases held
  | observed maps => rw [observation] at maps; cases maps
  | sensor maps => rw [observation] at maps; cases maps
  | aliased maps => rw [observation] at maps; cases maps

theorem markTree_assigns : Assigns markTree (lit "mode") (lit "gain") :=
  ⟨rfl, by decide, by decide, by decide, ⟨12, by decide⟩⟩

theorem gainTree_assigns : Assigns gainTree (lit "gain") (lit "mode") :=
  ⟨rfl, by decide, by decide, by decide, ⟨12, by decide⟩⟩

theorem Assigns.spares {node node' : BehaviorNode} {own other : Str} (is : Assigns node own other)
    (is' : Assigns node' other own) (differ : own ≠ other) : (sampleJob node).Spares (sampleJob node') := by
  intro name _ writes
  obtain rfl := is.writes writes
  exact ⟨is'.mentions, fun writes => differ (is'.writes writes)⟩

theorem Assigns.alone {node : BehaviorNode} {own other : Str} (is : Assigns node own other) :
    (sampleJob node).Alone := by
  refine ⟨fun _ => rfl, ?_⟩
  rintro ⟨sub, inside, _, receives⟩
  change sub ∈ taskNodes plainTask node at inside
  rw [is.instantiates] at inside
  obtain rfl := List.mem_singleton.1 inside
  exact is.command.2.2 receives

theorem executeJobs_perm_sample :
    (executeJobs {} [sampleJob markTree, sampleJob gainTree] {}).1.map Prod.snd =
        [((sampleJob markTree).execute {} {}).1, ((sampleJob gainTree).execute {} {}).1] ∧
      SameGlobals (executeJobs {} [sampleJob markTree, sampleJob gainTree] {}).2
        (executeJobs {} [sampleJob gainTree, sampleJob markTree] {}).2 := by
  have differ : lit "mode" ≠ lit "gain" := by decide
  have spares := markTree_assigns.spares gainTree_assigns differ
  have spares' := gainTree_assigns.spares markTree_assigns differ.symm
  obtain ⟨outcomes, same⟩ := executeJobs_perm {} [sampleJob markTree, sampleJob gainTree]
    (List.forall_mem_cons.2 ⟨markTree_assigns.alone, List.forall_mem_singleton.2 gainTree_assigns.alone⟩)
    (List.pairwise_pair.2 ⟨spares, spares'⟩) {}
  exact ⟨by rw [outcomes]; rfl, same _ (List.Perm.swap _ _ _)⟩

end Actuator.Executor
