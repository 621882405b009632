import Actuator.Executor.ExecutedNodes
import Actuator.Executor.GlobalFrame
import Actuator.Executor.SharedMailbox

/-!
# How much a task does

However a task ends, it has executed some nodes of its tree in depth-first order,
each at most once, and none below an Action, a Condition or a SubTree. It has
looked at its flag once before them and once at each of them, and has used the
mailbox at most once for each Action and SubTree among them, so that the size of
its behaviour bounds its work (`executeTaskInternal_work`).
-/

namespace Actuator.Executor

open Actuator.Lib Actuator.Core Actuator.Parser
open Actuator.Lib.Effect

variable {D : Type}

/-! ## The nodes that can be run -/

mutual

/-- The node and what it can run, depth first. -/
def runnable : BehaviorNode → List BehaviorNode
  | .mk data children => .mk data children ::
      match data.type with
      | .sequence | .selector | .parallel => runnableOf children
      | .action | .condition | .subtree => []

def runnableOf : List BehaviorNode → List BehaviorNode
  | [] => []
  | node :: nodes => runnable node ++ runnableOf nodes

end

mutual

theorem runnable_sublist : ∀ node, (runnable node).Sublist node.subnodes
  | .mk data children => by
    unfold runnable BehaviorNode.subnodes
    apply List.Sublist.cons_cons
    cases data.type with
    | sequence => exact runnableOf_sublist children
    | selector => exact runnableOf_sublist children
    | parallel => exact runnableOf_sublist children
    | action => exact List.nil_sublist _
    | condition => exact List.nil_sublist _
    | subtree => exact List.nil_sublist _

theorem runnableOf_sublist : ∀ nodes, (runnableOf nodes).Sublist (BehaviorNode.subnodesOf nodes)
  | [] => by
    unfold runnableOf BehaviorNode.subnodesOf
    exact .refl _
  | node :: nodes => by
    unfold runnableOf BehaviorNode.subnodesOf
    exact (runnable_sublist node).append (runnableOf_sublist nodes)

end

/-! ## Work -/

/-- The execution of a node that runs its command. -/
def commands (executions : List Execution) : List Execution := executions.filter fun e => decide (RunsCommand e.1.data)

/-- Between the two states these nodes were executed, which are among the given ones. -/
structure Works (nodes : List BehaviorNode) (executions : List Execution) (s s' : ExecState D) : Prop where
  among : (executions.map Prod.fst).Sublist nodes
  polls : s'.polls = s.polls + executions.length
  accesses : s'.accesses ≤ s.accesses + (commands executions).length

/-- What every run of the computation executes. -/
def Executes {α : Type} (x : Exec D α) (nodes : List BehaviorNode) (executions : ExecState D → List Execution) : Prop :=
  ∀ s, Works nodes (executions s) s (x s).2

theorem works_none (nodes : List BehaviorNode) {s s' : ExecState D} (polls : s'.polls = s.polls)
    (accesses : s'.accesses = s.accesses) : Works nodes [] s s' :=
  ⟨List.nil_sublist _, polls, accesses.le⟩

theorem Works.append {nodes more : List BehaviorNode} {executions later : List Execution} {s s₁ s₂ : ExecState D}
    (first : Works nodes executions s s₁) (second : Works more later s₁ s₂) :
    Works (nodes ++ more) (executions ++ later) s s₂ := by
  refine ⟨?_, ?_, ?_⟩
  · rw [List.map_append]
    exact first.among.append second.among
  · rw [second.polls, first.polls, List.length_append, Nat.add_assoc]
  · unfold commands
    rw [List.filter_append, List.length_append, ← Nat.add_assoc]
    exact second.accesses.trans (Nat.add_le_add_right first.accesses _)

/-- What comes behind a computation that returns, comes behind what that executes. -/
theorem Executes.bind {α β : Type} {x : Exec D α} {k : α → Exec D β} {nodes more : List BehaviorNode}
    {executions : ExecState D → List Execution} {later : α → ExecState D → List Execution}
    (first : Executes x nodes executions) (next : ∀ a, Executes (k a) more (later a)) :
    Executes (x >>= k) (nodes ++ more) (fun s => executions s ++ behind x later s) := by
  intro s
  show Works (nodes ++ more) (executions s ++ behind x later s) s ((x >>= k) s).2
  have work := first s
  rcases run : x s with ⟨outcome, s₁⟩
  rw [run] at work
  cases outcome with
  | ok a =>
    rw [bind_run_ok run, behind_ok run]
    exact work.append (next a s₁)
  | error e =>
    rw [bind_run_error run, behind_error run]
    exact work.append (works_none more rfl rfl)

/-- The node itself, in front of what it runs. -/
theorem Works.self {data : NodeData} {children nodes : List BehaviorNode} {executions : List Execution} {verdict : Bool}
    {s s₁ s₂ : ExecState D} (polls : s₁.polls = s.polls + 1) (accesses : s₁.accesses = s.accesses)
    (work : Works nodes executions s₁ s₂) :
    Works (.mk data children :: nodes) ((.mk data children, verdict) :: executions) s s₂ := by
  refine ⟨work.among.cons_cons _, ?_, ?_⟩
  · rw [work.polls, polls, List.length_cons]
    omega
  · refine work.accesses.trans ?_
    rw [accesses]
    have kept : (commands executions).length ≤ (commands ((.mk data children, verdict) :: executions)).length :=
      ((List.sublist_cons_self _ _).filter _).length_le
    omega

section Nodes

variable [CxxDouble D] (env : Environment D)

/-! ### Commands -/

/-- A command uses the mailbox at most once. -/
theorem commandAccesses_length (command : Str) (params : StrMap) (s : ExecState D) :
    (commandAccesses env command params s).length ≤ 1 := by
  unfold commandAccesses
  split
  · exact Nat.zero_le 1
  split
  · unfold behind
    split
    · exact le_refl 1
    · exact Nat.zero_le 1
  split
  · exact le_refl 1
  · exact Nat.zero_le 1

/-- A node that runs its command accounts for it. -/
theorem Works.command {data : NodeData} {children : List BehaviorNode} {verdict : Bool} (runs : RunsCommand data)
    {s s₁ : ExecState D} (polls : s₁.polls = s.polls + 1) (accesses : s₁.accesses = s.accesses) :
    Works [.mk data children] [(.mk data children, verdict)] s
      (executeCommand env data.command data.params s₁).2 := by
  have explained := @logs_executeCommand D env _ data.command data.params s₁
  have once := commandAccesses_length env data.command data.params s₁
  refine ⟨List.Sublist.refl _, ?_, ?_⟩
  · exact (executeCommand_polls env data.command data.params s₁).trans polls
  · have counted : (commands [((.mk data children, verdict) : Execution)]).length = 1 := by
      simp [commands, BehaviorNode.data, runs]
    rw [explained.accesses, counted, accesses]
    omega

/-! ### Entering and leaving -/

/-- A node looks at the flag once as it is entered, and never raises there. -/
theorem enterNode_work (data : NodeData) (s : ExecState D) : ∃ failure? s₁, enterNode env data s = (.ok failure?, s₁) ∧
    s₁.polls = s.polls + 1 ∧ s₁.accesses = s.accesses := by
  have poll : pollCancelled env s = (.ok (env.cancelled s.polls), { s with polls := s.polls + 1 }) := rfl
  have observe : modifyVm (applyObservationValues data) { s with polls := s.polls + 1 } = (.ok (), entered data s) := rfl
  unfold enterNode
  rw [bind_run_ok poll]
  split
  · exact ⟨_, _, rfl, rfl, rfl⟩
  rw [bind_run_ok observe]
  split
  · exact ⟨_, _, rfl, rfl, rfl⟩
  have read : readVm (fun vm => Constraint.evaluateDetailed vm data.expression) (entered data s) =
      (.ok (Constraint.evaluateDetailed (entered data s).vm data.expression), entered data s) := rfl
  rw [bind_run_ok read]
  split
  · exact ⟨_, _, rfl, rfl, rfl⟩
  · exact ⟨_, _, rfl, rfl, rfl⟩

/-- A Condition only reads. -/
theorem executeCondition_state (data : NodeData) (s : ExecState D) : (executeCondition data s).2 = s := by
  have read : readVm (fun vm => Constraint.evaluate vm data.expression) s =
      (.ok (Constraint.evaluate s.vm data.expression), s) := rfl
  unfold executeCondition
  split
  · rfl
  rw [bind_run_ok read]
  split
  · rfl
  · rfl

omit [CxxDouble D] in
/-- Leaving a node does no work. -/
theorem finishNode_state (data : NodeData) (x : Exec D (ExecutionResult D)) (s : ExecState D) :
    ((x >>= finishNode data) s).2 = (x s).2 := by
  rcases run : x s with ⟨outcome, s₁⟩
  cases outcome with
  | ok result =>
    obtain ⟨result', finished, -⟩ := finishNode_run data result s₁
    rw [bind_run_ok run, finished]
  | error e => rw [bind_run_error run]

/-! ### Trees -/

mutual

/-- By induction on the tree, with one case for each type of node. -/
theorem executeNode_work : ∀ node, Executes (executeNode env node) (runnable node) (nodeExecutions env node)
  | .mk data children => by
    intro s
    obtain ⟨failure?, s₁, entry, polls, accesses⟩ := enterNode_work env data s
    have ran : (executeNode env (.mk data children) s).2 = (match failure? with
        | some failure => (.ok failure, s₁)
        | none => ((match data.type with
          | .action => executeAction env data
          | .condition => executeCondition data
          | .sequence => executeSequence env children OrdMap.empty
          | .selector => executeSelector env data.name children
          | .parallel => executeParallel env children none OrdMap.empty
          | .subtree => executeCommand env data.command data.params) >>= finishNode data) s₁ :
        Except Exn (ExecutionResult D) × ExecState D).2 := by
      unfold executeNode
      rw [bind_run_ok entry]
      cases failure? <;> rfl
    unfold nodeExecutions runnable
    rw [behind_ok entry, ran]
    cases failure? with
    | some failure => exact Works.self polls accesses (works_none _ rfl rfl)
    | none =>
      show Works _ _ s ((_ >>= finishNode data) s₁).2
      rw [finishNode_state]
      cases type : data.type with
      | action => exact Works.command env (Or.inl type) polls accesses
      | subtree => exact Works.command env (Or.inr type) polls accesses
      | condition =>
        have state : (executeCondition data s₁).2 = s₁ := executeCondition_state data s₁
        exact Works.self polls accesses (works_none _ (congrArg _ state) (congrArg _ state))
      | sequence => exact Works.self polls accesses (executeSequence_work children OrdMap.empty s₁)
      | selector => exact Works.self polls accesses (executeSelector_work data.name children s₁)
      | parallel => exact Works.self polls accesses (executeParallel_work children none OrdMap.empty s₁)

theorem executeSequence_work : ∀ children outputs,
    Executes (executeSequence env children outputs) (runnableOf children) (sequenceExecutions env children)
  | [], outputs => by
    unfold executeSequence runnableOf sequenceExecutions
    exact fun s => works_none _ rfl rfl
  | child :: children, outputs => by
    unfold executeSequence runnableOf sequenceExecutions
    refine (executeNode_work child).bind fun result => ?_
    split
    · exact executeSequence_work children _
    · exact fun s => works_none _ rfl rfl

theorem executeSelector_work (name : Str) : ∀ children,
    Executes (executeSelector env name children) (runnableOf children) (selectorExecutions env children)
  | [] => by
    unfold executeSelector runnableOf selectorExecutions
    exact fun s => works_none _ rfl rfl
  | child :: children => by
    unfold executeSelector runnableOf selectorExecutions
    refine (executeNode_work child).bind fun result => ?_
    split
    · exact fun s => works_none _ rfl rfl
    · exact executeSelector_work name children

theorem executeParallel_work : ∀ children firstFailed outputs,
    Executes (executeParallel env children firstFailed outputs) (runnableOf children) (parallelExecutions env children)
  | [], none, outputs => by
    unfold executeParallel runnableOf parallelExecutions
    exact fun s => works_none _ rfl rfl
  | [], some _, outputs => by
    unfold executeParallel runnableOf parallelExecutions
    exact fun s => works_none _ rfl rfl
  | child :: children, firstFailed, outputs => by
    unfold executeParallel runnableOf parallelExecutions
    refine (executeNode_work child).bind fun result => ?_
    split
    · exact executeParallel_work children _ _
    · exact executeParallel_work children _ _

end

/-! ## Tasks -/

/-- The tree that a task executes. -/
def taskRoot (task : TaskSegment) (behavior : BehaviorNode) : BehaviorNode :=
  instantiated behavior task.behaviorParams behavior

/-- The executions of a task. -/
def taskExecutions (task : TaskSegment) (behavior : BehaviorNode) (s : ExecState D) : List Execution :=
  let started := startState task s
  let declared := (initializeAllDefaults (instantiate behavior task.behaviorParams) started.vm).setFromParams
    task.behaviorParams .loc
  behind (pollCancelled env) (fun cancelled => if cancelled then noExecution else nodeExecutions env (taskRoot task behavior))
    { started with vm := declared }

/-- One round of the loop over the nodes: a tree is instantiated to one node. -/
theorem runNodes_work (cfg : ExecutorConfig) (snapshotId : Str) (root : BehaviorNode) (s : ExecState D) :
    Works (runnable root) (behind (pollCancelled env) (fun cancelled =>
      if cancelled then noExecution else nodeExecutions env root) s) { s with polls := s.polls + 1 }
      (runNodes cfg env snapshotId [root] OrdMap.empty s).2 := by
  have poll : pollCancelled env s = (.ok (env.cancelled s.polls), { s with polls := s.polls + 1 }) := rfl
  unfold runNodes
  rw [behind_ok poll, bind_run_ok poll]
  cases env.cancelled s.polls with
  | true => exact works_none _ rfl rfl
  | false =>
    have work := executeNode_work env root { s with polls := s.polls + 1 }
    show Works _ (nodeExecutions env root { s with polls := s.polls + 1 }) _ _
    rcases run : executeNode env root { s with polls := s.polls + 1 } with ⟨outcome, s₁⟩
    rw [run] at work
    rw [if_neg (by decide)]
    cases outcome with
    | error e =>
      rw [bind_run_error run]
      exact work
    | ok result =>
      rw [bind_run_ok run]
      split
      · unfold runNodes
        exact work
      · split
        · exact ⟨work.among, work.polls, work.accesses⟩
        · exact work

/-- However a task ends, it has looked at its flag once and then executed nodes that it can run: in depth-first order and
each at most once, with one look at the flag for each, and at most one use of the mailbox for each that is a command. -/
theorem executeTaskInternal_work (cfg : ExecutorConfig) (env : Environment D) (task : TaskSegment)
    (behavior : BehaviorNode) (elapsedMs : Int) (s : ExecState D) :
    Works (runnable (taskRoot task behavior)) (taskExecutions env task behavior s) { s with polls := s.polls + 1 }
      (executeTaskInternal cfg env task behavior elapsedMs s).2 ∧
    (taskExecutions env task behavior s).length ≤ behavior.subnodes.length := by
  have work := runNodes_work env cfg (startSnapshot task s) (taskRoot task behavior)
    { startState task s with vm := (initializeAllDefaults (instantiate behavior task.behaviorParams)
        (startState task s).vm).setFromParams task.behaviorParams .loc }
  have ran : runNodes cfg env (startSnapshot task s) [taskRoot task behavior] OrdMap.empty
      { startState task s with vm := (initializeAllDefaults (instantiate behavior task.behaviorParams)
        (startState task s).vm).setFromParams task.behaviorParams .loc } =
      runTask cfg env task behavior (startSnapshot task s) (startState task s) := rfl
  rw [ran] at work
  constructor
  · rw [executeTaskInternal_run]
    rcases run : runTask cfg env task behavior (startSnapshot task s) (startState task s) with ⟨outcome, s'⟩
    rw [run] at work
    cases outcome with
    | ok result => exact ⟨work.among, work.polls, work.accesses⟩
    | error what => exact ⟨work.among, work.polls, work.accesses⟩
  · have few := (work.among.trans (runnable_sublist _)).length_le
    have expanded : (taskRoot task behavior).subnodes.length = behavior.subnodes.length := by
      have nodes := congrArg List.length
        (subnodes_expandNode (buildTemplateParams behavior task.behaviorParams) behavior)
      rw [List.length_map] at nodes
      exact nodes
    rw [List.length_map, expanded] at few
    exact few

end Nodes

/-- The Sequence, the assignment and the division that raises. -/
example : (taskExecutions (.quiet : Environment FixedPoint) plainTask divisionTree {}).map Prod.snd =
    [false, true, false] := by decide

end Actuator.Executor
