import Actuator.Executor.TreeRules

/-!
# Children that fail and children that raise

A child of a Selector or a Parallel can end in two ways that are not a success.
If it returns a failure, the next sibling is run. If it raises, nothing below
the task catches the exception: no sibling runs, a `NO_OP` at the end included.
Conditions never raise; only the evaluation of a command's texts does.
-/

namespace Actuator.Executor

open Actuator.Lib Actuator.Core Actuator.Parser
open Actuator.Lib.Effect
open Actuator.Constraint (evaluateDetailed)

variable {D : Type} [CxxDouble D]

/-! ## Where exceptions come from -/

/-- The exception is raised by evaluating one of the texts. -/
def RaisedBy (D : Type) [CxxDouble D] (texts : Str → Prop) (e : Exn) : Prop :=
  ∃ text, texts text ∧ ∃ vm : VariableManager D, evaluateValueExpression vm text = .error e

theorem throwsOnly_rules (env : Environment D) (texts : Str → Prop) :
    TreeRules (D := D) (ThrowsOnly (RaisedBy D texts)) env .all texts where
  pure := throwsOnly_pure
  bind := ThrowsOnly.bind
  reads _ := throwsOnly_read _
  sets _ _ _ _ := throwsOnly_modify _
  polls s e s' run := by cases run
  receives s e s' run := by cases run
  sends _ := throwsOnly_modify _
  evaluates key text _ permitted s e s' run := ⟨text, permitted, s.vm, congrArg Prod.fst run⟩
  assigns text permitted s e s' run := ⟨text, permitted, s.vm, congrArg Prod.fst run⟩

/-- The texts that the commands of these trees may evaluate. -/
def TreeTexts (nodes : List BehaviorNode) (text : Str) : Prop :=
  ∃ node ∈ BehaviorNode.subnodesOf nodes, NodeText node.data text

theorem mem_subnodesOf {node child : BehaviorNode} : ∀ {children : List BehaviorNode}, child ∈ children →
    node ∈ child.subnodes → node ∈ BehaviorNode.subnodesOf children
  | first :: rest, mem, below => by
    unfold BehaviorNode.subnodesOf
    rcases List.mem_cons.1 mem with rfl | later
    · exact List.mem_append_left _ below
    · exact List.mem_append_right _ (mem_subnodesOf later below)

theorem executeNode_raises {env : Environment D} {children : List BehaviorNode} {child : BehaviorNode}
    (mem : child ∈ children) {s s' : ExecState D} {e : Exn} (raises : executeNode env child s = (.error e, s')) :
    RaisedBy D (TreeTexts children) e := by
  refine (throwsOnly_rules env (TreeTexts children)).executeNode child (within_all _) ?_ s e s' raises
  intro node below text evaluates
  exact ⟨node, mem_subnodesOf mem below, evaluates⟩

/-! ## Entering and leaving a node -/

/-- The context of the task is not cancelled while it runs. -/
def Environment.Uncancelled (env : Environment D) : Prop := ∀ n, env.cancelled n = false

/-- The state in which a node's command or its children run. -/
def entered (data : NodeData) (s : ExecState D) : ExecState D :=
  { s with vm := applyObservationValues data s.vm, polls := s.polls + 1 }

/-- The node has no precondition, or it holds. -/
def Passes (data : NodeData) (s : ExecState D) : Prop :=
  data.expression = [] ∨ (evaluateDetailed (entered data s).vm data.expression).satisfied = true

variable {env : Environment D}

theorem enterNode_run (uncancelled : env.Uncancelled) (data : NodeData) (s : ExecState D) :
    enterNode env data s = (if data.expression.isEmpty then pure none else do
      let constraintResult ← readVm fun vm => evaluateDetailed vm data.expression
      if constraintResult.satisfied then return none
      return some (.ofFailure (lit "前置条件不满足: " ++ constraintResult.message) data.name) :
        Exec D (Option (ExecutionResult D))) (entered data s) := by
  have poll : pollCancelled env s = (.ok false, { s with polls := s.polls + 1 }) := by
    show (Except.ok (env.cancelled s.polls), _) = _
    rw [uncancelled]
  have observe : modifyVm (applyObservationValues data) { s with polls := s.polls + 1 } = (.ok (), entered data s) := rfl
  unfold enterNode
  rw [bind_run_ok poll, if_neg (by decide), bind_run_ok observe]

theorem enterNode_passes (uncancelled : env.Uncancelled) {data : NodeData} {s : ExecState D}
    (passes : Passes data s) : enterNode env data s = (.ok none, entered data s) := by
  rw [enterNode_run uncancelled]
  rcases passes with none | holds
  · rw [none]
    rfl
  · split
    · rfl
    · have read : readVm (fun vm => evaluateDetailed vm data.expression) (entered data s) =
          (.ok (evaluateDetailed (entered data s).vm data.expression), entered data s) := rfl
      rw [bind_run_ok read, if_pos holds]
      rfl

theorem enterNode_blocked (uncancelled : env.Uncancelled) {data : NodeData} {s : ExecState D}
    (blocked : ¬Passes data s) :
    ∃ failure, enterNode env data s = (.ok (some failure), entered data s) ∧ failure.success = false := by
  have given : ¬data.expression.isEmpty = true := fun empty => blocked (Or.inl (List.isEmpty_iff.1 empty))
  have fails : ¬(evaluateDetailed (entered data s).vm data.expression).satisfied = true :=
    fun holds => blocked (Or.inr holds)
  have read : readVm (fun vm => evaluateDetailed vm data.expression) (entered data s) =
      (.ok (evaluateDetailed (entered data s).vm data.expression), entered data s) := rfl
  rw [enterNode_run uncancelled, if_neg given, bind_run_ok read, if_neg fails]
  exact ⟨_, rfl, rfl⟩

theorem executeNode_blocked (uncancelled : env.Uncancelled) {data : NodeData} {s : ExecState D}
    (blocked : ¬Passes data s) (children : List BehaviorNode) :
    ∃ failure, executeNode env (.mk data children) s = (.ok failure, entered data s) ∧ failure.success = false := by
  obtain ⟨failure, entry, failed⟩ := enterNode_blocked uncancelled blocked
  unfold executeNode
  rw [bind_run_ok entry]
  exact ⟨failure, rfl, failed⟩

omit [CxxDouble D] in
/-- Leaving a node changes neither the state nor the verdict. -/
theorem finishNode_run (data : NodeData) (result : ExecutionResult D) (s : ExecState D) :
    ∃ result', finishNode data result s = (.ok result', s) ∧ result'.success = result.success := by
  unfold finishNode
  split
  · exact ⟨_, rfl, rfl⟩
  · exact ⟨_, rfl, rfl⟩

theorem executeNode_selector (uncancelled : env.Uncancelled) {data : NodeData} (selector : data.type = .selector)
    {s : ExecState D} (passes : Passes data s) (children : List BehaviorNode) :
    executeNode env (.mk data children) s =
      (executeSelector env data.name children >>= finishNode data) (entered data s) := by
  unfold executeNode
  rw [bind_run_ok (enterNode_passes uncancelled passes), selector]

theorem executeNode_parallel (uncancelled : env.Uncancelled) {data : NodeData} (parallel : data.type = .parallel)
    {s : ExecState D} (passes : Passes data s) (children : List BehaviorNode) :
    executeNode env (.mk data children) s =
      (executeParallel env children none OrdMap.empty >>= finishNode data) (entered data s) := by
  unfold executeNode
  rw [bind_run_ok (enterNode_passes uncancelled passes), parallel]

/-- A `NO_OP` action and nothing else. -/
structure BareNoOp (node : BehaviorNode) : Prop where
  action : node.data.type = .action
  command : commandName node.data.command = lit "NO_OP"
  expression : node.data.expression = []
  observation : node.data.observation = OrdMap.empty
  params : node.data.params = OrdMap.empty

theorem BareNoOp.run (uncancelled : env.Uncancelled) {node : BehaviorNode} (bare : BareNoOp node) (s : ExecState D) :
    executeNode env node s = (.ok (.ofSuccess (lit "NO_OP")), { s with polls := s.polls + 1 }) := by
  obtain ⟨data, children⟩ := node
  obtain ⟨action, command, expression, observation, params⟩ := bare
  simp only [BehaviorNode.data] at action command expression observation params
  have enters : enterNode env data s = (.ok none, { s with polls := s.polls + 1 }) := by
    rw [enterNode_passes uncancelled (Or.inl expression)]
    unfold entered applyObservationValues
    rw [observation]
    rfl
  have runs : executeAction env data = (pure (.ofSuccess (lit "NO_OP")) : Exec D _) := by
    unfold executeAction executeCommand
    rw [if_neg]
    · exact if_pos command
    · intro empty
      rw [List.isEmpty_iff.1 empty] at command
      cases command
  unfold executeNode
  rw [bind_run_ok enters, action]
  show (executeAction env data >>= finishNode data) _ = _
  rw [runs]
  unfold finishNode
  rw [params]
  rfl

/-! ## The children in turn -/

/-- The children run one after the other, and each returns a result with the property. -/
inductive Passed (goesOn : ExecutionResult D → Prop) (env : Environment D) :
    List BehaviorNode → ExecState D → ExecState D → Prop
  | nil (s : ExecState D) : Passed goesOn env [] s s
  | cons {child : BehaviorNode} {children : List BehaviorNode} {result : ExecutionResult D} {s s₁ s' : ExecState D}
    (ran : executeNode env child s = (.ok result, s₁)) (goes : goesOn result)
    (later : Passed goesOn env children s₁ s') : Passed goesOn env (child :: children) s s'

/-- The result does not keep a Selector from running the next child. -/
def Failed (result : ExecutionResult D) : Prop := result.success = false

/-- Any result: a Parallel runs the next child whatever this one returns. -/
def Returned (_ : ExecutionResult D) : Prop := True

/-- A child is reached in this way and raises. -/
def Raises (goesOn : ExecutionResult D → Prop) (env : Environment D) (children : List BehaviorNode) (s : ExecState D)
    (e : Exn) (s' : ExecState D) : Prop :=
  ∃ before child after s₁, children = before ++ child :: after ∧ Passed goesOn env before s s₁ ∧
    executeNode env child s₁ = (.error e, s')

/-- A child is reached in this way and returns a result at which the loop stops. -/
def Stops (goesOn : ExecutionResult D → Prop) (env : Environment D) (children : List BehaviorNode) (s : ExecState D)
    (result : ExecutionResult D) (s' : ExecState D) : Prop :=
  ∃ before child after s₁, children = before ++ child :: after ∧ Passed goesOn env before s s₁ ∧
    executeNode env child s₁ = (.ok result, s') ∧ ¬goesOn result

/-- All children are passed, or the loop stops at one, or one raises. -/
theorem passed_or_stops_or_raises (goesOn : ExecutionResult D → Prop) (children : List BehaviorNode)
    (s : ExecState D) : (∃ s', Passed goesOn env children s s') ∨ (∃ result s', Stops goesOn env children s result s') ∨
      ∃ e s', Raises goesOn env children s e s' := by
  induction children generalizing s with
  | nil => exact Or.inl ⟨s, .nil s⟩
  | cons child children ih =>
    rcases ran : executeNode env child s with ⟨out, s₁⟩
    cases out with
    | error e => exact Or.inr (Or.inr ⟨e, s₁, [], child, children, s, rfl, .nil s, ran⟩)
    | ok result =>
      by_cases goes : goesOn result
      · rcases ih s₁ with ⟨s', passed⟩ | ⟨result', s', before, child', after, s₂, rfl, passed, stops⟩ |
          ⟨e, s', before, child', after, s₂, rfl, passed, raises⟩
        · exact Or.inl ⟨s', .cons ran goes passed⟩
        · exact Or.inr (Or.inl ⟨result', s', child :: before, child', after, s₂, rfl, .cons ran goes passed, stops⟩)
        · exact Or.inr (Or.inr ⟨e, s', child :: before, child', after, s₂, rfl, .cons ran goes passed, raises⟩)
      · exact Or.inr (Or.inl ⟨result, s₁, [], child, children, s, rfl, .nil s, ran, goes⟩)

/-! ## Loops over children -/

section Loops

variable {child : BehaviorNode} {children : List BehaviorNode} {result : ExecutionResult D} {s s₁ : ExecState D}

theorem executeSelector_failed {name : Str} (ran : executeNode env child s = (.ok result, s₁)) (failed : Failed result) :
    executeSelector env name (child :: children) s = executeSelector env name children s₁ := by
  have goes : ¬result.success = true := by
    rw [show result.success = false from failed]
    decide
  conv => lhs; unfold executeSelector
  rw [bind_run_ok ran, if_neg goes]

theorem executeSelector_succeeded {name : Str} (ran : executeNode env child s = (.ok result, s₁))
    (success : result.success = true) : executeSelector env name (child :: children) s = (.ok result, s₁) := by
  unfold executeSelector
  rw [bind_run_ok ran, if_pos success]
  rfl

theorem executeSelector_raised {name : Str} {e : Exn} (raised : executeNode env child s = (.error e, s₁)) :
    executeSelector env name (child :: children) s = (.error e, s₁) := by
  unfold executeSelector
  rw [bind_run_error raised]

/-- Whatever a child returns, a Parallel runs the rest. -/
theorem executeParallel_returned (ran : executeNode env child s = (.ok result, s₁)) (firstFailed : Option Str)
    (outputs : VarMap D) : ∃ firstFailed' outputs', executeParallel env (child :: children) firstFailed outputs s =
      executeParallel env children firstFailed' outputs' s₁ := by
  conv => enter [1, firstFailed', 1, outputs', 1]; unfold executeParallel
  rw [bind_run_ok ran]
  split
  · exact ⟨_, _, rfl⟩
  · exact ⟨_, _, rfl⟩

theorem executeParallel_raised {e : Exn} (raised : executeNode env child s = (.error e, s₁))
    (firstFailed : Option Str) (outputs : VarMap D) :
    executeParallel env (child :: children) firstFailed outputs s = (.error e, s₁) := by
  unfold executeParallel
  rw [bind_run_error raised]

theorem executeParallel_nil (firstFailed : Option Str) (outputs : VarMap D) (s : ExecState D) :
    ∃ result, executeParallel env [] firstFailed outputs s = (.ok result, s) := by
  cases firstFailed with
  | none =>
    unfold executeParallel
    exact ⟨_, rfl⟩
  | some name =>
    unfold executeParallel
    exact ⟨_, rfl⟩

end Loops

/-- A Selector goes past children that fail. -/
theorem Passed.executeSelector {name : Str} {before : List BehaviorNode} {s s₁ : ExecState D}
    (passed : Passed Failed env before s s₁) (rest : List BehaviorNode) :
    executeSelector env name (before ++ rest) s = executeSelector env name rest s₁ := by
  induction passed with
  | nil s => rfl
  | cons ran failed later ih => rw [List.cons_append, executeSelector_failed ran failed, ih]

/-- A Parallel goes past every child that returns. -/
theorem Passed.executeParallel {before : List BehaviorNode} {s s₁ : ExecState D}
    (passed : Passed Returned env before s s₁) (rest : List BehaviorNode) (firstFailed : Option Str)
    (outputs : VarMap D) : ∃ firstFailed' outputs', executeParallel env (before ++ rest) firstFailed outputs s =
      executeParallel env rest firstFailed' outputs' s₁ := by
  induction passed generalizing firstFailed outputs with
  | nil s => exact ⟨firstFailed, outputs, rfl⟩
  | cons ran goes later ih =>
    obtain ⟨firstFailed', outputs', next⟩ := executeParallel_returned ran firstFailed outputs
    rw [List.cons_append, next]
    exact ih firstFailed' outputs'

theorem Raises.executeSelector {name : Str} {children : List BehaviorNode} {s s' : ExecState D} {e : Exn}
    (raises : Raises Failed env children s e s') (rest : List BehaviorNode) :
    executeSelector env name (children ++ rest) s = (.error e, s') := by
  obtain ⟨before, child, after, s₁, rfl, passed, raised⟩ := raises
  rw [List.append_assoc, passed.executeSelector, List.cons_append, executeSelector_raised raised]

theorem Stops.executeSelector {name : Str} {children : List BehaviorNode} {s s' : ExecState D}
    {result : ExecutionResult D} (stops : Stops Failed env children s result s') (rest : List BehaviorNode) :
    executeSelector env name (children ++ rest) s = (.ok result, s') ∧ result.success = true := by
  obtain ⟨before, child, after, s₁, rfl, passed, ran, succeeds⟩ := stops
  have success : result.success = true := Bool.eq_true_of_not_eq_false succeeds
  refine ⟨?_, success⟩
  rw [List.append_assoc, passed.executeSelector, List.cons_append, executeSelector_succeeded ran success]

theorem Raises.raisedBy {goesOn : ExecutionResult D → Prop} {children : List BehaviorNode} {s s' : ExecState D}
    {e : Exn} (raises : Raises goesOn env children s e s') : RaisedBy D (TreeTexts children) e := by
  obtain ⟨before, child, after, s₁, rfl, -, raised⟩ := raises
  exact executeNode_raises (List.mem_append_right _ List.mem_cons_self) raised

/-! ## The fallback -/

section Fallback

variable {data : NodeData} {s : ExecState D}

/-- The exception of a child leaves the Selector, whatever stands behind the children. -/
theorem Raises.selector (uncancelled : env.Uncancelled) (selector : data.type = .selector) (passes : Passes data s)
    {children : List BehaviorNode} {e : Exn} {s' : ExecState D}
    (raises : Raises Failed env children (entered data s) e s') (rest : List BehaviorNode) :
    executeNode env (.mk data (children ++ rest)) s = (.error e, s') := by
  rw [executeNode_selector uncancelled selector passes, bind_run_error (raises.executeSelector rest)]

/-- Unless an earlier child raises, a Selector that ends in a bare `NO_OP` succeeds. -/
theorem selector_succeeds (uncancelled : env.Uncancelled) (selector : data.type = .selector) (passes : Passes data s)
    {earlier : List BehaviorNode} {noOp : BehaviorNode} (bare : BareNoOp noOp)
    (none : ¬∃ e s', Raises Failed env earlier (entered data s) e s') :
    ∃ result s', executeNode env (.mk data (earlier ++ [noOp])) s = (.ok result, s') ∧ result.success = true := by
  have loop : ∃ result s', executeSelector env data.name (earlier ++ [noOp]) (entered data s) = (.ok result, s') ∧
      result.success = true := by
    rcases passed_or_stops_or_raises Failed earlier (entered data s) with
      ⟨s', passed⟩ | ⟨result, s', stops⟩ | raises
    · rw [passed.executeSelector, executeSelector_succeeded (bare.run uncancelled s') rfl]
      exact ⟨_, _, rfl, rfl⟩
    · obtain ⟨ran, success⟩ := @Stops.executeSelector D _ env data.name _ _ _ _ stops [noOp]
      exact ⟨result, s', ran, success⟩
    · exact absurd raises none
  obtain ⟨result, s', ran, success⟩ := loop
  obtain ⟨result', finished, same⟩ := finishNode_run data result s'
  rw [executeNode_selector uncancelled selector passes, bind_run_ok ran, finished]
  exact ⟨result', s', rfl, same.trans success⟩

theorem Raises.parallel (uncancelled : env.Uncancelled) (parallel : data.type = .parallel) (passes : Passes data s)
    {children : List BehaviorNode} {e : Exn} {s' : ExecState D}
    (raises : Raises Returned env children (entered data s) e s') :
    executeNode env (.mk data children) s = (.error e, s') := by
  obtain ⟨before, child, after, s₁, rfl, passed, raised⟩ := raises
  obtain ⟨firstFailed', outputs', next⟩ := passed.executeParallel (child :: after) Option.none OrdMap.empty
  rw [executeNode_parallel uncancelled parallel passes, bind_run_error]
  rw [next, executeParallel_raised raised]

/-- If no child of a Parallel raises, it ends where the last of all its children ends. -/
theorem Passed.parallel (uncancelled : env.Uncancelled) (parallel : data.type = .parallel) (passes : Passes data s)
    {children : List BehaviorNode} {s' : ExecState D} (passed : Passed Returned env children (entered data s) s') :
    ∃ result, executeNode env (.mk data children) s = (.ok result, s') := by
  obtain ⟨firstFailed', outputs', next⟩ := passed.executeParallel [] Option.none OrdMap.empty
  obtain ⟨result, ends⟩ := @executeParallel_nil D _ env firstFailed' outputs' s'
  obtain ⟨result', finished, -⟩ := finishNode_run data result s'
  rw [List.append_nil, ends] at next
  rw [executeNode_parallel uncancelled parallel passes, bind_run_ok next, finished]
  exact ⟨result', rfl⟩

end Fallback

/-- A Selector with a bare `NO_OP` behind its other children succeeds exactly when
none of these, run as long as they fail, raises; otherwise that exception leaves it.
A Parallel runs all children exactly when none raises. Only the texts of commands
raise. A node that its own precondition blocks fails and raises nothing. -/
theorem fallback_unless_raised (env : Environment D) (uncancelled : env.Uncancelled) (data : NodeData)
    (s : ExecState D) :
    (¬Passes data s → ∀ children, ∃ failure,
      executeNode env (.mk data children) s = (.ok failure, entered data s) ∧ failure.success = false) ∧
    (Passes data s → data.type = .selector → ∀ earlier noOp, BareNoOp noOp →
      ((∃ result s', executeNode env (.mk data (earlier ++ [noOp])) s = (.ok result, s') ∧ result.success = true) ↔
        ¬∃ e s', Raises Failed env earlier (entered data s) e s') ∧
      ∀ e s', Raises Failed env earlier (entered data s) e s' →
        executeNode env (.mk data (earlier ++ [noOp])) s = (.error e, s') ∧ RaisedBy D (TreeTexts earlier) e) ∧
    (Passes data s → data.type = .parallel → ∀ children,
      (∀ s', Passed Returned env children (entered data s) s' →
        ∃ result, executeNode env (.mk data children) s = (.ok result, s')) ∧
      ∀ e s', Raises Returned env children (entered data s) e s' →
        executeNode env (.mk data children) s = (.error e, s') ∧ RaisedBy D (TreeTexts children) e) := by
  refine ⟨executeNode_blocked uncancelled, ?_, ?_⟩
  · intro passes selector earlier noOp bare
    refine ⟨⟨?_, selector_succeeds uncancelled selector passes bare⟩, fun e s' raises =>
      ⟨raises.selector uncancelled selector passes [noOp], raises.raisedBy⟩⟩
    rintro ⟨result, s', ran, -⟩ ⟨e, s'', raises⟩
    rw [raises.selector uncancelled selector passes [noOp]] at ran
    cases ran
  · intro passes parallel children
    exact ⟨fun s' passed => passed.parallel uncancelled parallel passes,
      fun e s' raises => ⟨raises.parallel uncancelled parallel passes, raises.raisedBy⟩⟩

/-! ## A division by zero in front of the fallback -/

def divideNode : BehaviorNode :=
  .mk { name := lit "Divide", type := .action, command := lit "ASSIGN"
        params := OrdMap.empty.insert (lit "q") (lit "1 / 0") } []

def noOpNode : BehaviorNode := .mk { name := lit "Skip", type := .action, command := lit "NO_OP" } []

def markNode : BehaviorNode := .mk { name := lit "Mark", type := .action, command := lit "SETVAR mode = 1" } []

def choiceData : NodeData := { name := lit "Choice", type := .selector }

def bothData : NodeData := { name := lit "Both", type := .parallel }

theorem fallback_unless_raised_sample :
    ∃ s', executeNode (.quiet : Environment FixedPoint) (.mk choiceData [divideNode, noOpNode]) {} =
        (.error (lit "division by zero"), s') ∧
      RaisedBy FixedPoint (TreeTexts [divideNode]) (lit "division by zero") := by
  obtain ⟨-, selector, -⟩ := fallback_unless_raised (.quiet : Environment FixedPoint) (fun _ => rfl) choiceData {}
  obtain ⟨-, leaves⟩ := selector (Or.inl rfl) rfl [divideNode] noOpNode ⟨rfl, by decide, rfl, rfl, rfl⟩
  exact ⟨_, leaves _ _ ⟨[], divideNode, [], _, rfl, .nil _, rfl⟩⟩

/-- The exception leaves the Selector with its `NO_OP` still to try, and the Parallel with a child still to run. -/
theorem fallback_not_tried :
    (¬∃ result s', executeNode (.quiet : Environment FixedPoint) (.mk choiceData [divideNode, noOpNode]) {} =
      (.ok result, s') ∧ result.success = true) ∧
    (executeNode (.quiet : Environment FixedPoint) (.mk bothData [divideNode, markNode]) {}).2.vm.lookup (lit "mode") =
      none := by
  constructor
  · rintro ⟨result, s', ran, -⟩
    have raised : executeNode (.quiet : Environment FixedPoint) (.mk choiceData [divideNode, noOpNode]) {} =
      (.error (lit "division by zero"), _) := rfl
    rw [raised] at ran
    cases ran
  · decide

end Actuator.Executor
