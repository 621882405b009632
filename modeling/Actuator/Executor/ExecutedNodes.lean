import Actuator.Executor.Fallback

/-!
# The nodes that are executed

A Sequence and a Parallel run their children, and a Selector some of them. The
children of any other node stay where they are: an Action, a Condition and a
SubTree look only at their own members. What runs when a tree without Selectors
succeeds are therefore the nodes reached through Sequences and Parallels alone
(`executed_reached`).

The list of executions follows the dispatch of `executeNode`. That it leaves out
none and adds none is `executeNode_work` in `WorkBounds`: each execution looks at
the cancel flag once, and in every run the executor's looks are as many as the
entries of the list.
-/

namespace Actuator.Executor

open Actuator.Lib Actuator.Core Actuator.Parser
open Actuator.Lib.Effect

variable {D : Type}

/-- A node that was executed, and whether it succeeded. -/
abbrev Execution := BehaviorNode × Bool

/-! ## The executions of a run -/

/-- Whether the run from this state returns a success. -/
def Succeeds (x : Exec D (ExecutionResult D)) (s : ExecState D) : Bool :=
  match (x s).1 with
  | .ok result => result.success
  | .error _ => false

def noExecution (_ : ExecState D) : List Execution := []

section Executions

variable [CxxDouble D] (env : Environment D)

mutual

/-- The executions of a node and of the nodes it runs, in the order in which they begin. -/
def nodeExecutions : BehaviorNode → ExecState D → List Execution
  | .mk data children => fun s => (.mk data children, Succeeds (executeNode env (.mk data children)) s) ::
      behind (enterNode env data) (fun failure? =>
        match failure? with
        | some _ => noExecution
        | none =>
          match data.type with
          | .action => noExecution
          | .condition => noExecution
          | .sequence => sequenceExecutions children
          | .selector => selectorExecutions children
          | .parallel => parallelExecutions children
          | .subtree => noExecution) s

def sequenceExecutions : List BehaviorNode → ExecState D → List Execution
  | [] => noExecution
  | child :: children => fun s => nodeExecutions child s ++
      behind (executeNode env child) (fun result => if result.success then sequenceExecutions children else noExecution) s

def selectorExecutions : List BehaviorNode → ExecState D → List Execution
  | [] => noExecution
  | child :: children => fun s => nodeExecutions child s ++
      behind (executeNode env child) (fun result => if result.success then noExecution else selectorExecutions children) s

def parallelExecutions : List BehaviorNode → ExecState D → List Execution
  | [] => noExecution
  | child :: children => fun s => nodeExecutions child s ++
      behind (executeNode env child) (fun _ => parallelExecutions children) s

end

end Executions

/-! ## The nodes that are reached -/

/-- The types of the nodes that run all their children. -/
def RunsChildren (type : NodeType) : Prop := type = .sequence ∨ type = .parallel

instance (type : NodeType) : Decidable (RunsChildren type) := inferInstanceAs (Decidable (_ ∨ _))

mutual

/-- The node and what it reaches through nodes that run their children, depth first. -/
def reached : BehaviorNode → List BehaviorNode
  | .mk data children => .mk data children :: if RunsChildren data.type then reachedOf children else []

def reachedOf : List BehaviorNode → List BehaviorNode
  | [] => []
  | node :: nodes => reached node ++ reachedOf nodes

end

/-- Only nodes that run their children have any. -/
def Composed (nodes : List BehaviorNode) : Prop := ∀ node ∈ nodes, node.children ≠ [] → RunsChildren node.data.type

mutual

theorem reached_sublist : ∀ node, (reached node).Sublist node.subnodes
  | .mk data children => by
    unfold reached BehaviorNode.subnodes
    split
    · exact (reachedOf_sublist children).cons_cons _
    · exact (List.nil_sublist _).cons_cons _

theorem reachedOf_sublist : ∀ nodes, (reachedOf nodes).Sublist (BehaviorNode.subnodesOf nodes)
  | [] => by
    unfold reachedOf BehaviorNode.subnodesOf
    exact .refl _
  | node :: nodes => by
    unfold reachedOf BehaviorNode.subnodesOf
    exact (reached_sublist node).append (reachedOf_sublist nodes)

end

/-- Parts of two lists make up the whole only if each is the whole of its list. -/
theorem append_eq_of_sublist {α : Type} {xs ys xs' ys' : List α} (first : xs.Sublist xs') (second : ys.Sublist ys') :
    xs ++ ys = xs' ++ ys' ↔ xs = xs' ∧ ys = ys' := by
  constructor
  · intro same
    have sizes := congrArg List.length same
    have le := first.length_le
    have le' := second.length_le
    rw [List.length_append, List.length_append] at sizes
    exact ⟨first.eq_of_length (by omega), second.eq_of_length (by omega)⟩
  · rintro ⟨rfl, rfl⟩
    rfl

mutual

/-- All nodes are reached exactly if only nodes that run their children have any. -/
theorem reached_eq_subnodes : ∀ node, reached node = node.subnodes ↔ Composed node.subnodes
  | .mk data children => by
    unfold reached BehaviorNode.subnodes Composed
    rw [List.cons.injEq, List.forall_mem_cons]
    show (_ ∧ _) ↔ (children ≠ [] → RunsChildren data.type) ∧ Composed (BehaviorNode.subnodesOf children)
    by_cases runs : RunsChildren data.type
    · rw [if_pos runs, reachedOf_eq_subnodesOf children]
      exact ⟨fun all => ⟨fun _ => runs, all.2⟩, fun all => ⟨rfl, all.2⟩⟩
    · rw [if_neg runs]
      constructor
      · rintro ⟨-, none⟩
        cases children with
        | nil => exact ⟨fun some => absurd rfl some, fun node mem => absurd mem List.not_mem_nil⟩
        | cons child children =>
          obtain ⟨data, below⟩ := child
          cases none
      · rintro ⟨bare, -⟩
        have none : children = [] := by_contra fun some => runs (bare some)
        rw [none]
        exact ⟨rfl, rfl⟩

theorem reachedOf_eq_subnodesOf : ∀ nodes,
    reachedOf nodes = BehaviorNode.subnodesOf nodes ↔ Composed (BehaviorNode.subnodesOf nodes)
  | [] => by
    unfold reachedOf BehaviorNode.subnodesOf
    exact iff_of_true rfl fun node mem => absurd mem List.not_mem_nil
  | node :: nodes => by
    unfold reachedOf BehaviorNode.subnodesOf Composed
    rw [append_eq_of_sublist (reached_sublist node) (reachedOf_sublist nodes), List.forall_mem_append]
    exact and_congr (reached_eq_subnodes node) (reachedOf_eq_subnodesOf nodes)

end

/-! ## A run that succeeds -/

section Success

variable [CxxDouble D] {env : Environment D}

/-- A node that ends as it is entered has failed. -/
theorem enterNode_some {data : NodeData} {failure : ExecutionResult D} {s s' : ExecState D}
    (run : enterNode env data s = (.ok (some failure), s')) : failure.success = false := by
  unfold enterNode at run
  obtain ⟨cancelled, s₁, _, run⟩ := bind_eq_ok run
  split at run
  · cases run
    rfl
  obtain ⟨_, s₂, _, run⟩ := bind_eq_ok run
  split at run
  · cases run
  obtain ⟨constraintResult, s₃, _, run⟩ := bind_eq_ok run
  split at run
  · cases run
  · cases run
    rfl

/-- Behind a failed child a Parallel fails. -/
theorem executeParallel_failed {children : List BehaviorNode} {failedNode : Str} {outputs : VarMap D}
    {result : ExecutionResult D} {s s' : ExecState D}
    (run : executeParallel env children (some failedNode) outputs s = (.ok result, s')) : result.success = false := by
  induction children generalizing outputs s with
  | nil =>
    rw [executeParallel] at run
    cases run
    rfl
  | cons child children ih =>
    rw [executeParallel] at run
    obtain ⟨childResult, s₁, _, run⟩ := bind_eq_ok run
    split at run
    · exact ih run
    · exact ih run

omit [CxxDouble D] in
theorem succeeds_of_run {x : Exec D (ExecutionResult D)} {result : ExecutionResult D} {s s' : ExecState D}
    (run : x s = (.ok result, s')) (succeeded : result.success = true) : Succeeds x s = true := by
  unfold Succeeds
  rw [run]
  exact succeeded

/-- No node of the trees is a Selector. -/
def Unselective (nodes : List BehaviorNode) : Prop := ∀ node ∈ nodes, node.data.type ≠ .selector

instance (nodes : List BehaviorNode) : Decidable (Unselective nodes) :=
  inferInstanceAs (Decidable (∀ node ∈ nodes, node.data.type ≠ .selector))

mutual

/-- By induction on the tree: a node that succeeds has entered, and its children, if it runs them, have all succeeded. -/
theorem nodeExecutions_succeeded : ∀ node, Unselective node.subnodes → ∀ {result : ExecutionResult D} {s s' : ExecState D},
    executeNode env node s = (.ok result, s') → result.success = true →
      nodeExecutions env node s = (reached node).map (·, true)
  | .mk data children, unselective, result, s, s', run, succeeded => by
    obtain ⟨notSelector, below⟩ := List.forall_mem_cons.1 unselective
    have self := succeeds_of_run run succeeded
    unfold executeNode at run
    obtain ⟨failure?, s₁, entered, run⟩ := bind_eq_ok run
    unfold nodeExecutions reached
    rw [self, behind_ok entered, List.map_cons]
    apply congrArg (_ :: ·)
    cases failure? with
    | some failure =>
      cases run
      rw [enterNode_some entered] at succeeded
      cases succeeded
    | none =>
      obtain ⟨inner, s₂, ran, finished⟩ := bind_eq_ok run
      have innerSucceeded : inner.success = true := by
        obtain ⟨result', finish, same⟩ := finishNode_run data inner s₂
        rw [finish] at finished
        cases finished
        exact same.symm.trans succeeded
      cases type : data.type with
      | action => rfl
      | condition => rfl
      | subtree => rfl
      | selector => exact absurd type notSelector
      | sequence =>
        simp only [type] at ran
        rw [if_pos (show RunsChildren .sequence from Or.inl rfl)]
        exact sequenceExecutions_succeeded children below ran innerSucceeded
      | parallel =>
        simp only [type] at ran
        rw [if_pos (show RunsChildren .parallel from Or.inr rfl)]
        exact parallelExecutions_succeeded children below ran innerSucceeded

theorem sequenceExecutions_succeeded : ∀ children, Unselective (BehaviorNode.subnodesOf children) →
    ∀ {outputs : VarMap D} {result : ExecutionResult D} {s s' : ExecState D},
      executeSequence env children outputs s = (.ok result, s') → result.success = true →
        sequenceExecutions env children s = (reachedOf children).map (·, true)
  | [], _, _, _, _, _, _, _ => by
    unfold sequenceExecutions reachedOf
    rfl
  | child :: children, unselective, outputs, result, s, s', run, succeeded => by
    obtain ⟨first, later⟩ := List.forall_mem_append.1 unselective
    unfold executeSequence at run
    obtain ⟨childResult, s₁, ran, run⟩ := bind_eq_ok run
    unfold sequenceExecutions reachedOf
    rw [List.map_append, behind_ok ran]
    split at run
    · rename_i childSucceeded
      rw [if_pos childSucceeded, nodeExecutions_succeeded child first ran childSucceeded,
        sequenceExecutions_succeeded children later run succeeded]
    · rename_i childFailed
      cases run
      exact absurd succeeded childFailed

theorem parallelExecutions_succeeded : ∀ children, Unselective (BehaviorNode.subnodesOf children) →
    ∀ {outputs : VarMap D} {result : ExecutionResult D} {s s' : ExecState D},
      executeParallel env children none outputs s = (.ok result, s') → result.success = true →
        parallelExecutions env children s = (reachedOf children).map (·, true)
  | [], _, _, _, _, _, _, _ => by
    unfold parallelExecutions reachedOf
    rfl
  | child :: children, unselective, outputs, result, s, s', run, succeeded => by
    obtain ⟨first, later⟩ := List.forall_mem_append.1 unselective
    unfold executeParallel at run
    obtain ⟨childResult, s₁, ran, run⟩ := bind_eq_ok run
    unfold parallelExecutions reachedOf
    rw [List.map_append, behind_ok ran]
    split at run
    · rename_i childSucceeded
      rw [nodeExecutions_succeeded child first ran childSucceeded,
        parallelExecutions_succeeded children later run succeeded]
    · rw [executeParallel_failed run] at succeeded
      cases succeeded

end

/-- If the root of a tree without Selectors succeeds, the nodes that it reaches through Sequences and Parallels have been
executed depth first, each once and with success, and no other node: `executeNode_work` counts the executor's looks at its
flag by this list. That is the whole tree exactly if only Sequences and Parallels have children. -/
theorem executed_reached (env : Environment D) {node : BehaviorNode} (unselective : Unselective node.subnodes)
    {result : ExecutionResult D} {s s' : ExecState D} (run : executeNode env node s = (.ok result, s'))
    (succeeded : result.success = true) :
    nodeExecutions env node s = (reached node).map (·, true) ∧
      (nodeExecutions env node s = node.subnodes.map (·, true) ↔ Composed node.subnodes) := by
  have executed := nodeExecutions_succeeded node unselective run succeeded
  refine ⟨executed, ?_⟩
  have paired : Function.Injective fun inner : BehaviorNode => (inner, true) := fun _ _ same => (Prod.mk.inj same).1
  rw [executed, (List.map_injective_iff.2 paired).eq_iff]
  exact reached_eq_subnodes node

end Success

/-! ## An Action with a child -/

def leafNode : BehaviorNode := .mk { name := lit "Exit", type := .action, command := lit "EXIT" } []

/-- A Sequence of two Actions. -/
def flatTree : BehaviorNode := .mk { name := lit "Both", type := .sequence } [noOpNode, leafNode]

theorem executed_reached_sample : nodeExecutions (.quiet : Environment FixedPoint) flatTree {} =
    [(flatTree, true), (noOpNode, true), (leafNode, true)] := by
  have unselective : Unselective flatTree.subnodes := by decide
  have run : executeNode (.quiet : Environment FixedPoint) flatTree {} = (.ok { success := true }, _) := rfl
  exact (executed_reached .quiet unselective run rfl).1

def actionTree : BehaviorNode := .mk { name := lit "Root", type := .action, command := lit "NO_OP" } [leafNode]

/-- The Action succeeds, and its child was not executed. -/
theorem action_child_not_executed : ∃ result s',
    executeNode (.quiet : Environment FixedPoint) actionTree {} = (.ok result, s') ∧ result.success = true ∧
      Unselective actionTree.subnodes ∧ actionTree.subnodes = [actionTree, leafNode] ∧
      nodeExecutions (.quiet : Environment FixedPoint) actionTree {} = [(actionTree, true)] ∧
      s'.vm.lookup (lit "mission_exit") = none :=
  ⟨_, _, rfl, rfl, by decide, rfl, rfl, by decide⟩

end Actuator.Executor
