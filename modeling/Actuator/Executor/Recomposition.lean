import Actuator.Executor.Flattening
import Actuator.Executor.ExecutedNodes
import Actuator.Executor.Rollback

/-!
# Sequences and Parallels

A Parallel runs its children one behind the other, as a Sequence does; it only
goes on when one has failed, and fails in the end. Where a failure is the
failure of the whole task, which the rollback undoes, it does not matter which
of the two a node is (`recomposed_alike`). Below a Selector it does: there the
branch behind the failed one sees what the failed one has left.
-/

namespace Actuator.Executor

open Actuator.Lib Actuator.Core Actuator.Parser
open Actuator.Lib.Effect

variable {D : Type}

/-- Somewhere in the tree, with no Selector above, a Sequence becomes a Parallel or a Parallel becomes a Sequence. -/
inductive Recomposes : BehaviorNode → BehaviorNode → Prop
  | here {data : NodeData} {type : NodeType} {children : List BehaviorNode} (before : RunsChildren data.type)
    (after : RunsChildren type) : Recomposes (.mk data children) (.mk { data with type } children)
  | deeper {data : NodeData} {before after : List BehaviorNode} {node node' : BehaviorNode}
    (runs : RunsChildren data.type) (recomposes : Recomposes node node') :
    Recomposes (.mk data (before ++ node :: after)) (.mk data (before ++ node' :: after))

/-! ## Runs that succeed -/

/-- The two succeed from the same states, and are the same run where they do. -/
def AlikeOnSuccess (x y : Exec D (ExecutionResult D)) : Prop :=
  ∀ s, Succeeds x s = Succeeds y s ∧ (Succeeds x s = true → x s = y s)

/-- No run of the computation succeeds. -/
def NeverSucceeds (x : Exec D (ExecutionResult D)) : Prop := ∀ s, Succeeds x s = false

namespace AlikeOnSuccess

variable {α : Type} {x y z : Exec D (ExecutionResult D)}

theorem rfl' : AlikeOnSuccess x x := fun _ => ⟨rfl, fun _ => rfl⟩

theorem symm (alike : AlikeOnSuccess x y) : AlikeOnSuccess y x := fun s =>
  ⟨(alike s).1.symm, fun succeeds => ((alike s).2 ((alike s).1.trans succeeds)).symm⟩

theorem trans (first : AlikeOnSuccess x y) (second : AlikeOnSuccess y z) : AlikeOnSuccess x z := fun s =>
  ⟨(first s).1.trans (second s).1,
    fun succeeds => ((first s).2 succeeds).trans ((second s).2 ((first s).1.symm.trans succeeds))⟩

/-- Behind the same beginning. -/
theorem behind {begin : Exec D α} {k l : α → Exec D (ExecutionResult D)} (next : ∀ a, AlikeOnSuccess (k a) (l a)) :
    AlikeOnSuccess (begin >>= k) (begin >>= l) := by
  intro s
  rcases ran : begin s with ⟨out, s₁⟩
  unfold Succeeds
  cases out with
  | ok a =>
    rw [bind_run_ok ran, bind_run_ok ran]
    exact next a s₁
  | error what =>
    rw [bind_run_error ran, bind_run_error ran]
    exact ⟨rfl, fun _ => rfl⟩

end AlikeOnSuccess

theorem succeeds_iff {x : Exec D (ExecutionResult D)} {s : ExecState D} :
    Succeeds x s = true ↔ ∃ result s', x s = (.ok result, s') ∧ result.success = true := by
  unfold Succeeds
  rcases x s with ⟨out, s'⟩
  cases out with
  | ok result =>
    constructor
    · exact fun succeeded => ⟨result, s', rfl, succeeded⟩
    · rintro ⟨_, _, same, succeeded⟩
      cases same
      exact succeeded
  | error what =>
    constructor
    · exact fun succeeded => by cases succeeded
    · rintro ⟨_, _, same, _⟩
      cases same

theorem neverSucceeds_of {x : Exec D (ExecutionResult D)}
    (failed : ∀ s result s', x s = (.ok result, s') → result.success = false) : NeverSucceeds x := by
  intro s
  by_contra success
  obtain ⟨result, s', run, succeeded⟩ := succeeds_iff.1 (Bool.eq_true_of_not_eq_false success)
  rw [failed s result s' run] at succeeded
  cases succeeded

theorem neverSucceeds_pure {result : ExecutionResult D} (failed : result.success = false) :
    NeverSucceeds (pure result : Exec D (ExecutionResult D)) := fun _ => failed

/-- The computations go on alike behind a success, and not to a success behind a failure. -/
theorem AlikeOnSuccess.bind {x y : Exec D (ExecutionResult D)} {k l : ExecutionResult D → Exec D (ExecutionResult D)}
    (first : AlikeOnSuccess x y) (next : ∀ result, result.success = true → AlikeOnSuccess (k result) (l result))
    (stop : ∀ result, result.success = false → NeverSucceeds (k result) ∧ NeverSucceeds (l result)) :
    AlikeOnSuccess (x >>= k) (y >>= l) := by
  intro s
  cases success : Succeeds x s with
  | true =>
    have same := (first s).2 success
    obtain ⟨result, s₁, run, succeeded⟩ := succeeds_iff.1 success
    have run' : y s = (.ok result, s₁) := same.symm.trans run
    unfold Succeeds
    rw [bind_run_ok run, bind_run_ok run']
    exact next result succeeded s₁
  | false =>
    have both : ∀ {x : Exec D (ExecutionResult D)} {k : ExecutionResult D → Exec D (ExecutionResult D)},
        Succeeds x s = false → (∀ result, result.success = false → NeverSucceeds (k result)) →
          Succeeds (x >>= k) s = false := by
      intro x k failed stop
      rcases ran : x s with ⟨out, s₁⟩
      unfold Succeeds at failed ⊢
      rw [ran] at failed
      cases out with
      | ok result =>
        rw [bind_run_ok ran]
        exact stop result failed s₁
      | error what => rw [bind_run_error ran]
    have failedX := both success fun result failed => (stop result failed).1
    have failedY := both ((first s).1.symm.trans success) fun result failed => (stop result failed).2
    exact ⟨failedX.trans failedY.symm, fun succeeds => absurd (failedX.symm.trans succeeds) Bool.false_ne_true⟩

/-! ## Composites -/

section Composites

variable [CxxDouble D] {env : Environment D}

theorem executeParallel_never (children : List BehaviorNode) (failedNode : Str) (outputs : VarMap D) :
    NeverSucceeds (executeParallel env children (some failedNode) outputs) :=
  neverSucceeds_of fun _ _ _ run => executeParallel_failed run

/-- By induction on the children: up to the first failure the two run the same, and behind it neither succeeds. -/
theorem parallel_alike_sequence (children : List BehaviorNode) (outputs : VarMap D) :
    AlikeOnSuccess (executeParallel env children none outputs) (executeSequence env children outputs) := by
  induction children generalizing outputs with
  | nil =>
    rw [executeParallel, executeSequence]
    exact .rfl'
  | cons child children ih =>
    rw [executeParallel, executeSequence]
    refine AlikeOnSuccess.bind .rfl' ?_ ?_
    · intro result succeeded
      rw [if_pos succeeded, if_pos succeeded]
      exact ih _
    · intro result failed
      have not : ¬result.success = true := by rw [failed]; exact Bool.false_ne_true
      rw [if_neg not, if_neg not]
      exact ⟨executeParallel_never _ _ _, neverSucceeds_pure failed⟩

omit [CxxDouble D] in
theorem finishNode_alike {data : NodeData} {x y : Exec D (ExecutionResult D)} (alike : AlikeOnSuccess x y) :
    AlikeOnSuccess (x >>= finishNode data) (y >>= finishNode data) := by
  refine alike.bind (fun _ _ => .rfl') ?_
  intro result failed
  have never : NeverSucceeds (finishNode data result) := by
    intro s
    obtain ⟨result', run, same⟩ := finishNode_run data result s
    unfold Succeeds
    rw [run]
    exact same.trans failed
  exact ⟨never, never⟩

/-- A node of either type, run as a Sequence. -/
def asSequence (env : Environment D) (data : NodeData) (children : List BehaviorNode) : Exec D (ExecutionResult D) := do
  match ← enterNode env data with
  | some failure => return failure
  | none => executeSequence env children OrdMap.empty >>= finishNode data

theorem composite_alike {data : NodeData} (runs : RunsChildren data.type) (children : List BehaviorNode) :
    AlikeOnSuccess (executeNode env (.mk data children)) (asSequence env data children) := by
  unfold executeNode asSequence
  refine AlikeOnSuccess.behind fun failure? => ?_
  cases failure? with
  | some failure => exact .rfl'
  | none =>
    rcases runs with sequence | parallel
    · simp only [sequence]
      exact .rfl'
    · simp only [parallel]
      exact finishNode_alike (parallel_alike_sequence children _)

theorem sequence_child_alike {node node' : BehaviorNode}
    (alike : AlikeOnSuccess (executeNode env node) (executeNode env node')) (before after : List BehaviorNode) (outputs : VarMap D) :
    AlikeOnSuccess (executeSequence env (before ++ node :: after) outputs)
      (executeSequence env (before ++ node' :: after) outputs) := by
  induction before generalizing outputs with
  | nil =>
    rw [List.nil_append, List.nil_append, executeSequence, executeSequence]
    refine alike.bind (fun _ _ => .rfl') fun result failed => ?_
    have not : ¬result.success = true := by rw [failed]; exact Bool.false_ne_true
    rw [if_neg not]
    exact ⟨neverSucceeds_pure failed, neverSucceeds_pure failed⟩
  | cons child before ih =>
    rw [List.cons_append, List.cons_append, executeSequence, executeSequence]
    refine AlikeOnSuccess.behind fun result => ?_
    split
    · exact ih _
    · exact .rfl'

/-- By induction on where the node stands. -/
theorem recomposes_alike {node node' : BehaviorNode} (recomposes : Recomposes node node') :
    AlikeOnSuccess (executeNode env node) (executeNode env node') := by
  induction recomposes with
  | @here data type children before after =>
    have changed : RunsChildren { data with type }.type := after
    exact (composite_alike before children).trans (composite_alike changed children).symm
  | @deeper data before after node node' runs recomposes ih =>
    refine (composite_alike runs _).trans (AlikeOnSuccess.trans ?_ (composite_alike runs _).symm)
    unfold asSequence
    refine AlikeOnSuccess.behind fun failure? => ?_
    cases failure? with
    | some failure => exact .rfl'
    | none => exact finishNode_alike (sequence_child_alike ih before after _)

end Composites

/-! ## Tasks -/

section Tasks

variable [CxxDouble D]

theorem Recomposes.expandNode {node node' : BehaviorNode} (params : StrMap) (recomposes : Recomposes node node') :
    Recomposes (expandNode params node) (expandNode params node') := by
  induction recomposes with
  | @here data type children before after =>
    have kept : expandData params { data with type } = { expandData params data with type } := by
      have not : data.type ≠ .condition ∧ type ≠ .condition := by
        constructor
        · rcases before with same | same <;> rw [same] <;> decide
        · rcases after with same | same <;> rw [same] <;> decide
      simp [expandData, not.1, not.2]
    unfold Parser.expandNode
    rw [kept]
    exact .here before after
  | @deeper data before after node node' runs recomposes ih =>
    unfold Parser.expandNode
    rw [expandNodes_eq_map, expandNodes_eq_map, List.map_append, List.map_append, List.map_cons, List.map_cons]
    exact .deeper runs ih

theorem initializeAllDefaults_append (before after : List BehaviorNode) (vm : VariableManager D) :
    initializeAllDefaults (before ++ after) vm = initializeAllDefaults after (initializeAllDefaults before vm) := by
  induction before generalizing vm with
  | nil =>
    rw [initializeAllDefaults]
    rfl
  | cons node before ih =>
    rw [List.cons_append, initializeAllDefaults, initializeAllDefaults]
    exact ih _

theorem Recomposes.defaults {node node' : BehaviorNode} (recomposes : Recomposes node node') (vm : VariableManager D) :
    initializeBehaviorDefaults node vm = initializeBehaviorDefaults node' vm := by
  induction recomposes generalizing vm with
  | here _ _ =>
    unfold initializeBehaviorDefaults
    rfl
  | deeper _ _ ih =>
    unfold initializeBehaviorDefaults
    rw [initializeAllDefaults_append, initializeAllDefaults_append, initializeAllDefaults, initializeAllDefaults, ih]

theorem Recomposes.data {node node' : BehaviorNode} (recomposes : Recomposes node node') :
    ∃ type, node'.data = { node.data with type } := by
  cases recomposes with
  | here _ _ => exact ⟨_, rfl⟩
  | @deeper data _ _ _ _ _ _ => exact ⟨data.type, rfl⟩

theorem runNodes_alike (cfg : ExecutorConfig) (env : Environment D) (snapshotId : Str) {node node' : BehaviorNode}
    (recomposes : Recomposes node node') :
    AlikeOnSuccess (runNodes cfg env snapshotId [node] OrdMap.empty) (runNodes cfg env snapshotId [node'] OrdMap.empty) := by
  obtain ⟨type, data⟩ := recomposes.data
  unfold runNodes
  refine AlikeOnSuccess.behind fun cancelled => ?_
  rw [data]
  split
  · exact .rfl'
  refine (recomposes_alike recomposes).bind (fun _ _ => .rfl') fun result failed => ?_
  have not : ¬result.success = true := by rw [failed]; exact Bool.false_ne_true
  simp only [if_neg not]
  have never : NeverSucceeds (do
      if cfg.enableRollback then restoreSnapshot snapshotId
      return result : Exec D (ExecutionResult D)) := by
    intro s
    cases cfg.enableRollback with
    | true => exact failed
    | false => exact failed
  exact ⟨never, never⟩

theorem runTask_alike (cfg : ExecutorConfig) (env : Environment D) (task : TaskSegment) (snapshotId : Str)
    {behavior behavior' : BehaviorNode} (recomposes : Recomposes behavior behavior') :
    AlikeOnSuccess (runTask cfg env task behavior snapshotId) (runTask cfg env task behavior' snapshotId) := by
  obtain ⟨type, data⟩ := recomposes.data
  have params : buildTemplateParams behavior' task.behaviorParams = buildTemplateParams behavior task.behaviorParams := by
    unfold buildTemplateParams
    rw [data]
  have expanded := recomposes.expandNode (buildTemplateParams behavior task.behaviorParams)
  have defaults : (initializeAllDefaults (D := D) (instantiate behavior' task.behaviorParams)) =
      initializeAllDefaults (instantiate behavior task.behaviorParams) := by
    funext vm
    unfold instantiate
    rw [params]
    simp only [initializeAllDefaults]
    exact (expanded.defaults vm).symm
  unfold runTask
  simp only [defaults]
  unfold instantiate
  rw [params]
  exact AlikeOnSuccess.behind fun _ => .behind fun _ => runNodes_alike cfg env snapshotId expanded

/-- The tasks succeed together and are then the same run. -/
theorem executeTaskInternal_alike (cfg : ExecutorConfig) (env : Environment D) (task : TaskSegment) (elapsedMs : Int)
    {behavior behavior' : BehaviorNode} (recomposes : Recomposes behavior behavior') :
    AlikeOnSuccess (executeTaskInternal cfg env task behavior elapsedMs)
      (executeTaskInternal cfg env task behavior' elapsedMs) := by
  intro s
  have alike := runTask_alike cfg env task (startSnapshot task s) recomposes (startState task s)
  have verdict : ∀ behavior, Succeeds (executeTaskInternal cfg env task behavior elapsedMs) s =
      Succeeds (runTask cfg env task behavior (startSnapshot task s)) (startState task s) := by
    intro behavior
    unfold Succeeds
    rw [executeTaskInternal_run]
    rcases runTask cfg env task behavior (startSnapshot task s) (startState task s) with ⟨out, s'⟩
    cases out with
    | ok result => rfl
    | error what => rfl
  rw [verdict, verdict]
  refine ⟨alike.1, fun succeeds => ?_⟩
  rw [executeTaskInternal_run, executeTaskInternal_run, alike.2 succeeds]

/-- A tree whose Sequences and Parallels have been exchanged, as often as one likes and wherever no Selector stands above:
the task succeeds as before and then returns and does the same, and it leaves the same variables in any case. -/
theorem recomposed_alike (cfg : ExecutorConfig) (rollback : cfg.enableRollback = true) (env : Environment D)
    (task : TaskSegment) {behavior behavior' : BehaviorNode}
    (recomposed : Relation.ReflTransGen Recomposes behavior behavior') (elapsedMs : Int) (s : ExecState D) :
    ∃ result result' s₁ s₂, executeTaskInternal cfg env task behavior elapsedMs s = (.ok result, s₁) ∧
      executeTaskInternal cfg env task behavior' elapsedMs s = (.ok result', s₂) ∧
      result'.success = result.success ∧ s₂.vm.globalVars = s₁.vm.globalVars ∧
      s₂.vm.localVars = s₁.vm.localVars ∧ s₂.vm.intermediateVars = s₁.vm.intermediateVars ∧
      (result.success = true → result' = result ∧ s₂ = s₁) := by
  have alike : AlikeOnSuccess (executeTaskInternal cfg env task behavior elapsedMs)
      (executeTaskInternal cfg env task behavior' elapsedMs) := by
    induction recomposed with
    | refl => exact .rfl'
    | tail _ step ih => exact ih.trans (executeTaskInternal_alike cfg env task elapsedMs step)
  obtain ⟨result, s₁, run, restored, noLocals, noIntermediates⟩ :=
    executeTaskInternal_rolls_back cfg rollback env task behavior elapsedMs s
  obtain ⟨result', s₂, run', restored', noLocals', noIntermediates'⟩ :=
    executeTaskInternal_rolls_back cfg rollback env task behavior' elapsedMs s
  have verdict := (alike s).1
  have same := (alike s).2
  unfold Succeeds at verdict same
  rw [run, run'] at verdict same
  change result.success = result'.success at verdict
  refine ⟨result, result', s₁, s₂, run, run', verdict.symm, ?_, noLocals'.trans noLocals.symm,
    noIntermediates'.trans noIntermediates.symm, ?_⟩
  · cases success : result.success with
    | true =>
      obtain ⟨_, rfl⟩ := Prod.mk.inj (same success)
      rfl
    | false => rw [restored success, restored' (verdict.symm.trans success)]
  · intro success
    obtain ⟨outcome, rfl⟩ := Prod.mk.inj (same success)
    cases outcome
    exact ⟨rfl, rfl⟩

end Tasks

/-- The tree of the division, whose two actions now belong to a Parallel. -/
def parallelDivision : BehaviorNode := .mk { divisionTree.data with type := .parallel } divisionTree.children

/-- The Sequence is left by the exception, and the Parallel too. -/
theorem recomposed_alike_sample :
    ∃ result result' s₁ s₂,
      executeTaskInternal {} (.quiet : Environment FixedPoint) plainTask divisionTree 3 {} = (.ok result, s₁) ∧
      executeTaskInternal {} (.quiet : Environment FixedPoint) plainTask parallelDivision 3 {} = (.ok result', s₂) ∧
      result'.success = result.success ∧ s₂.vm.globalVars = s₁.vm.globalVars := by
  have recomposes : Recomposes divisionTree parallelDivision := .here (by decide) (by decide)
  obtain ⟨result, result', s₁, s₂, run, run', verdict, globals, -⟩ :=
    recomposed_alike {} rfl (.quiet : Environment FixedPoint) plainTask (.single recomposes) 3 {}
  exact ⟨result, result', s₁, s₂, run, run', verdict, globals⟩

end Actuator.Executor
