import Actuator.Constraint.Connectives
import Actuator.Executor.ExecutedNodes

/-!
# Trees that only decide

A tree of Conditions, Sequences, Selectors and Parallels, with actions that do
nothing, changes no variable: it is one big condition. Written as one text, with
`&&` for Sequences and Parallels and `||` for Selectors, that condition succeeds
exactly when the tree does and all texts below a Selector are defined
(`condensed_succeeds_iff`). An undefined variable only fails the branch of a
Selector it stands in; it ends the evaluation of the whole text.
-/

namespace Actuator.Executor

open Actuator.Lib Actuator.Core Actuator.Parser
open Actuator.Lib.Effect
open Actuator.Constraint (evaluate evaluateDetailed Complete DefinedIn Connective)

/-! ## Deciding -/

/-- Nothing happens at this command. -/
def Idle (command : Str) : Prop := command = [] ∨ commandName command = lit "NO_OP"

mutual

/-- The node measures nothing and does nothing, and so do the nodes it can run. -/
def Deciding : BehaviorNode → Prop
  | .mk data children => data.observation = OrdMap.empty ∧
      match data.type with
      | .action | .subtree => Idle data.command
      | .condition => True
      | .sequence | .selector | .parallel => AllDeciding children

def AllDeciding : List BehaviorNode → Prop
  | [] => True
  | node :: nodes => Deciding node ∧ AllDeciding nodes

end

section

variable {D : Type} [CxxDouble D] (vm : VariableManager D)

mutual

/-- What the tree says about the variables: Sequences and Parallels say "all", Selectors "one of". -/
def holds : BehaviorNode → Bool
  | .mk data children => (data.expression.isEmpty || evaluate vm data.expression) &&
      match data.type with
      | .action | .subtree => true
      | .condition => !data.expression.isEmpty
      | .sequence | .parallel => allHold children
      | .selector => anyHolds children

def allHold : List BehaviorNode → Bool
  | [] => true
  | node :: nodes => holds node && allHold nodes

def anyHolds : List BehaviorNode → Bool
  | [] => false
  | node :: nodes => holds node || anyHolds nodes

end

end

/-! ## A tree as one text -/

/-- The precondition of a node in front of what the node says. -/
def guarded (data : NodeData) (body : Str) : Str :=
  if data.expression.isEmpty then body else Connective.and.join data.expression body

mutual

/-- The condition that a deciding tree is. -/
def condense : BehaviorNode → Str
  | .mk data children =>
    match data.type with
    | .action | .subtree => guarded data Connective.and.unit
    | .condition => if data.expression.isEmpty then Connective.or.unit else data.expression
    | .sequence | .parallel => guarded data (condenseAll .and children)
    | .selector => guarded data (condenseAll .or children)

def condenseAll (c : Connective) : List BehaviorNode → Str
  | [] => c.unit
  | node :: nodes => c.join (condense node) (condenseAll c nodes)

end

/-- The condition of a node, if it has one. -/
def ownText (data : NodeData) : List Str := if data.expression.isEmpty then [] else [data.expression]

mutual

/-- The conditions of the nodes that a tree can run. -/
def texts : BehaviorNode → List Str
  | .mk data children => ownText data ++
      match data.type with
      | .sequence | .selector | .parallel => textsOf children
      | .action | .condition | .subtree => []

def textsOf : List BehaviorNode → List Str
  | [] => []
  | node :: nodes => texts node ++ textsOf nodes

end

mutual

/-- The conditions that stand below a Selector. -/
def alternatives : BehaviorNode → List Str
  | .mk data children =>
    match data.type with
    | .selector => textsOf children
    | .sequence | .parallel => alternativesOf children
    | .action | .condition | .subtree => []

def alternativesOf : List BehaviorNode → List Str
  | [] => []
  | node :: nodes => alternatives node ++ alternativesOf nodes

end

/-! ## What the text says -/

section

variable {D : Type} [CxxDouble D] (vm : VariableManager D)

/-- A complete condition is made of these texts, and true when `value` is and the texts of `needed` are defined. -/
structure MadeOf (text : Str) (made needed : List Str) (value : Bool) : Prop where
  complete : Complete text
  defined : DefinedIn vm text ↔ ∀ e ∈ made, DefinedIn vm e
  satisfied : evaluate vm text = true ↔ value = true ∧ ∀ e ∈ needed, DefinedIn vm e
  within : ∀ e ∈ needed, e ∈ made

variable {vm} {l r : Str} {made made' needed needed' : List Str} {value value' : Bool}

theorem MadeOf.own {e : Str} (complete : Complete e) : MadeOf vm e [e] [] (evaluate vm e) where
  complete := complete
  defined := List.forall_mem_singleton.symm
  satisfied := ⟨fun satisfied => ⟨satisfied, List.forall_mem_nil _⟩, And.left⟩
  within := List.forall_mem_nil _

theorem MadeOf.unit (c : Connective) : MadeOf vm c.unit [] [] (decide (c = .and)) where
  complete := c.complete_unit
  defined := iff_of_true (c.definedIn_unit vm) (List.forall_mem_nil _)
  satisfied := by
    rw [c.evaluate_unit vm, decide_eq_true_eq]
    exact ⟨fun same => ⟨same, List.forall_mem_nil _⟩, And.left⟩
  within := List.forall_mem_nil _

theorem MadeOf.and (left : MadeOf vm l made needed value) (right : MadeOf vm r made' needed' value') :
    MadeOf vm (Connective.and.join l r) (made ++ made') (needed ++ needed') (value && value') where
  complete := Connective.complete_join _ left.complete right.complete
  defined := by
    rw [Connective.definedIn_join vm _ left.complete right.complete, left.defined, right.defined, List.forall_mem_append]
  satisfied := by
    rw [Connective.evaluate_and vm left.complete right.complete, left.satisfied, right.satisfied, Bool.and_eq_true,
      List.forall_mem_append]
    exact and_and_and_comm
  within e mem := by
    rcases List.mem_append.1 mem with mem | mem
    · exact List.mem_append_left _ (left.within e mem)
    · exact List.mem_append_right _ (right.within e mem)

/-- The texts on both sides of a disjunction must all be defined. -/
theorem MadeOf.or (left : MadeOf vm l made needed value) (right : MadeOf vm r made' needed' value') :
    MadeOf vm (Connective.or.join l r) (made ++ made') (made ++ made') (value || value') where
  complete := Connective.complete_join _ left.complete right.complete
  defined := by
    rw [Connective.definedIn_join vm _ left.complete right.complete, left.defined, right.defined, List.forall_mem_append]
  satisfied := by
    rw [Connective.evaluate_or vm left.complete right.complete, left.satisfied, right.satisfied, left.defined,
      right.defined, Bool.or_eq_true, List.forall_mem_append]
    constructor
    · rintro ⟨⟨true_, -⟩ | ⟨true_, -⟩, defined⟩
      · exact ⟨Or.inl true_, defined⟩
      · exact ⟨Or.inr true_, defined⟩
    · rintro ⟨true_, definedL, definedR⟩
      refine ⟨true_.imp ?_ ?_, definedL, definedR⟩
      · exact fun true_ => ⟨true_, fun e mem => definedL e (left.within e mem)⟩
      · exact fun true_ => ⟨true_, fun e mem => definedR e (right.within e mem)⟩
  within _ mem := mem

theorem MadeOf.guarded {data : NodeData} (complete : ∀ e ∈ ownText data, Complete e)
    (body : MadeOf vm r made needed value) : MadeOf vm (guarded data r) (ownText data ++ made) needed
      ((data.expression.isEmpty || evaluate vm data.expression) && value) := by
  unfold ownText at complete ⊢
  unfold Executor.guarded
  cases empty : data.expression.isEmpty with
  | true => exact body
  | false =>
    rw [empty] at complete
    exact (MadeOf.own (complete _ (List.mem_singleton_self _))).and body

variable (vm)

mutual

/-- The text of a tree says what the tree says, if the texts below Selectors are defined. -/
theorem condense_madeOf : ∀ node, (∀ e ∈ texts node, Complete e) →
    MadeOf vm (condense node) (texts node) (alternatives node) (holds vm node)
  | .mk data children => by
    intro complete
    unfold texts at complete
    have own : ∀ e ∈ ownText data, Complete e := fun e mem => complete e (List.mem_append_left _ mem)
    unfold condense texts alternatives holds
    cases type : data.type with
    | action => exact (MadeOf.unit Connective.and).guarded own
    | subtree => exact (MadeOf.unit Connective.and).guarded own
    | condition =>
      unfold ownText at own ⊢
      cases empty : data.expression.isEmpty with
      | true => exact MadeOf.unit .or
      | false =>
        rw [empty] at own
        have alone : MadeOf vm data.expression [data.expression] [] (evaluate vm data.expression) :=
          .own (own _ (List.mem_singleton_self _))
        simpa using alone
    | sequence =>
      rw [type] at complete
      exact (condenseAnd_madeOf children fun e mem => complete e (List.mem_append_right _ mem)).guarded own
    | parallel =>
      rw [type] at complete
      exact (condenseAnd_madeOf children fun e mem => complete e (List.mem_append_right _ mem)).guarded own
    | selector =>
      rw [type] at complete
      exact (condenseOr_madeOf children fun e mem => complete e (List.mem_append_right _ mem)).guarded own

theorem condenseAnd_madeOf : ∀ nodes, (∀ e ∈ textsOf nodes, Complete e) →
    MadeOf vm (condenseAll .and nodes) (textsOf nodes) (alternativesOf nodes) (allHold vm nodes)
  | [] => by
    intro _
    unfold condenseAll textsOf alternativesOf allHold
    exact MadeOf.unit .and
  | node :: nodes => by
    intro complete
    unfold textsOf at complete
    unfold condenseAll textsOf alternativesOf allHold
    rw [List.forall_mem_append] at complete
    exact (condense_madeOf node complete.1).and (condenseAnd_madeOf nodes complete.2)

theorem condenseOr_madeOf : ∀ nodes, (∀ e ∈ textsOf nodes, Complete e) →
    MadeOf vm (condenseAll .or nodes) (textsOf nodes) (textsOf nodes) (anyHolds vm nodes)
  | [] => by
    intro _
    unfold condenseAll textsOf anyHolds
    exact MadeOf.unit .or
  | node :: nodes => by
    intro complete
    unfold textsOf at complete
    unfold condenseAll textsOf anyHolds
    rw [List.forall_mem_append] at complete
    exact (condense_madeOf node complete.1).or (condenseOr_madeOf nodes complete.2)

end

end

/-! ## What the executor does -/

section

variable {D : Type} [CxxDouble D] {env : Environment D}

/-- The run returns, decides this, and changes nothing but the count of looks at the flag. -/
def JustDecides (x : Exec D (ExecutionResult D)) (s : ExecState D) (value : Bool) : Prop :=
  ∃ result polls, x s = (.ok result, { s with polls }) ∧ result.success = value

theorem Idle.runs {data : NodeData} (idle : Idle data.command) (s : ExecState D) :
    JustDecides (executeCommand env data.command data.params) s true := by
  rcases idle with none | noOp
  · unfold executeCommand
    rw [none]
    exact ⟨_, s.polls, rfl, rfl⟩
  · unfold executeCommand
    split
    · exact ⟨_, s.polls, rfl, rfl⟩
    · unfold executeBuiltinCommand
      exact ⟨.ofSuccess (lit "NO_OP"), s.polls, by rw [show (trim data.command).map toUpper = lit "NO_OP" from noOp]; rfl, rfl⟩

theorem executeCondition_decides (data : NodeData) (s : ExecState D) :
    JustDecides (executeCondition data) s (!data.expression.isEmpty && evaluate s.vm data.expression) := by
  unfold executeCondition
  cases empty : data.expression.isEmpty with
  | true => exact ⟨_, s.polls, rfl, rfl⟩
  | false =>
    have read : readVm (fun vm => evaluate vm data.expression) s = (.ok (evaluate s.vm data.expression), s) := rfl
    rw [if_neg (by decide)]
    unfold JustDecides
    rw [bind_run_ok read]
    cases evaluate s.vm data.expression with
    | true => exact ⟨_, s.polls, rfl, rfl⟩
    | false => exact ⟨_, s.polls, rfl, rfl⟩

theorem entered_unmeasured {data : NodeData} (unmeasured : data.observation = OrdMap.empty) (s : ExecState D) :
    entered data s = { s with polls := s.polls + 1 } := by
  unfold entered applyObservationValues
  rw [unmeasured]
  rfl

/-- A node whose precondition holds decides what runs in it decides. -/
theorem JustDecides.node (uncancelled : env.Uncancelled) {data : NodeData} {children : List BehaviorNode}
    {s : ExecState D} {value : Bool} (unmeasured : data.observation = OrdMap.empty)
    (runs : JustDecides (match data.type with
      | .action => executeAction env data
      | .condition => executeCondition data
      | .sequence => executeSequence env children OrdMap.empty
      | .selector => executeSelector env data.name children
      | .parallel => executeParallel env children none OrdMap.empty
      | .subtree => executeCommand env data.command data.params) { s with polls := s.polls + 1 } value) :
    JustDecides (executeNode env (.mk data children)) s
      ((data.expression.isEmpty || evaluate s.vm data.expression) && value) := by
  have enters := entered_unmeasured unmeasured s
  by_cases passes : Passes data s
  · obtain ⟨result, polls, ran, decides⟩ := runs
    have guard : (data.expression.isEmpty || evaluate s.vm data.expression) = true := by
      rcases passes with none | satisfied
      · rw [none]
        rfl
      · rw [enters] at satisfied
        exact Bool.or_eq_true_iff.2 (Or.inr satisfied)
    obtain ⟨result', finished, same⟩ := finishNode_run data result { s with polls }
    refine ⟨result', polls, ?_, by rw [guard, Bool.true_and, same, decides]⟩
    unfold executeNode
    rw [bind_run_ok (enterNode_passes uncancelled passes), enters]
    exact (bind_run_ok ran).trans finished
  · obtain ⟨failure, ran, failed⟩ := executeNode_blocked uncancelled passes children
    rw [enters] at ran
    refine ⟨failure, s.polls + 1, ran, ?_⟩
    have guard : (data.expression.isEmpty || evaluate s.vm data.expression) = false := by
      rw [← Bool.not_eq_true, Bool.or_eq_true]
      rintro (none | satisfied)
      · exact passes (Or.inl (List.isEmpty_iff.1 none))
      · refine passes (Or.inr ?_)
        rw [enters]
        exact satisfied
    rw [guard, Bool.false_and, failed]

mutual

/-- A deciding tree decides what it says about the variables it finds. -/
theorem executeNode_decides (uncancelled : env.Uncancelled) : ∀ node, Deciding node → ∀ s : ExecState D,
    JustDecides (executeNode env node) s (holds s.vm node)
  | .mk data children => by
    intro deciding s
    unfold Deciding at deciding
    obtain ⟨unmeasured, inside⟩ := deciding
    have node := fun value => @JustDecides.node D _ env uncancelled data children s value unmeasured
    unfold holds
    cases type : data.type with
    | action =>
      rw [type] at inside node
      exact node true (inside.runs _)
    | subtree =>
      rw [type] at inside node
      exact node true (inside.runs _)
    | condition =>
      rw [type] at node
      have decides := node _ (executeCondition_decides data _)
      cases empty : data.expression.isEmpty with
      | true => simpa [empty] using decides
      | false => simpa [empty] using decides
    | sequence =>
      rw [type] at inside node
      exact node _ (executeSequence_decides uncancelled children inside OrdMap.empty _)
    | selector =>
      rw [type] at inside node
      exact node _ (executeSelector_decides uncancelled data.name children inside _)
    | parallel =>
      rw [type] at inside node
      exact node _ (executeParallel_decides uncancelled children inside none OrdMap.empty _)

theorem executeSequence_decides (uncancelled : env.Uncancelled) : ∀ nodes, AllDeciding nodes → ∀ outputs,
    ∀ s : ExecState D, JustDecides (executeSequence env nodes outputs) s (allHold s.vm nodes)
  | [] => by
    intro _ outputs s
    unfold executeSequence allHold
    exact ⟨_, s.polls, rfl, rfl⟩
  | node :: nodes => by
    intro deciding outputs s
    unfold AllDeciding at deciding
    obtain ⟨result, polls, ran, decides⟩ := executeNode_decides uncancelled node deciding.1 s
    unfold executeSequence allHold JustDecides
    rw [bind_run_ok ran, ← decides]
    cases success : result.success with
    | true => exact executeSequence_decides uncancelled nodes deciding.2 _ { s with polls }
    | false => exact ⟨result, polls, rfl, success⟩

theorem executeSelector_decides (uncancelled : env.Uncancelled) (name : Str) : ∀ nodes, AllDeciding nodes →
    ∀ s : ExecState D, JustDecides (executeSelector env name nodes) s (anyHolds s.vm nodes)
  | [] => by
    intro _ s
    unfold executeSelector anyHolds
    exact ⟨_, s.polls, rfl, rfl⟩
  | node :: nodes => by
    intro deciding s
    unfold AllDeciding at deciding
    obtain ⟨result, polls, ran, decides⟩ := executeNode_decides uncancelled node deciding.1 s
    unfold executeSelector anyHolds JustDecides
    rw [bind_run_ok ran, ← decides]
    cases success : result.success with
    | true => exact ⟨result, polls, rfl, success⟩
    | false => exact executeSelector_decides uncancelled name nodes deciding.2 { s with polls }

theorem executeParallel_decides (uncancelled : env.Uncancelled) : ∀ nodes, AllDeciding nodes →
    ∀ (firstFailed : Option Str) outputs, ∀ s : ExecState D,
    JustDecides (executeParallel env nodes firstFailed outputs) s (firstFailed.isNone && allHold s.vm nodes)
  | [] => by
    intro _ firstFailed outputs s
    cases firstFailed with
    | none =>
      unfold executeParallel allHold
      exact ⟨_, s.polls, rfl, rfl⟩
    | some name =>
      unfold executeParallel allHold
      exact ⟨_, s.polls, rfl, rfl⟩
  | node :: nodes => by
    intro deciding firstFailed outputs s
    unfold AllDeciding at deciding
    obtain ⟨result, polls, ran, decides⟩ := executeNode_decides uncancelled node deciding.1 s
    unfold executeParallel allHold JustDecides
    rw [bind_run_ok ran, ← decides]
    cases success : result.success with
    | true => exact executeParallel_decides uncancelled nodes deciding.2 firstFailed _ { s with polls }
    | false =>
      obtain ⟨result', polls', later, decided⟩ := executeParallel_decides uncancelled nodes deciding.2
        (firstFailed.or (some (if result.failedNode.isEmpty then node.data.name else result.failedNode))) outputs
        { s with polls }
      refine ⟨result', polls', later, decided.trans ?_⟩
      cases firstFailed <;> simp

end

omit [CxxDouble D] in
theorem JustDecides.succeeds {x : Exec D (ExecutionResult D)} {s : ExecState D} {value : Bool}
    (decides : JustDecides x s value) : Succeeds x s = value := by
  obtain ⟨result, polls, ran, success⟩ := decides
  unfold Succeeds
  rw [ran]
  exact success

/-- The whole tree as one Condition. -/
def condensed (node : BehaviorNode) : BehaviorNode :=
  .mk { name := node.data.name, type := .condition, expression := condense node } []

/-- A tree that only decides changes no variable. Put into one Condition it succeeds exactly when it does as a tree
and every text below a Selector is defined. -/
theorem condensed_succeeds_iff (env : Environment D) (uncancelled : env.Uncancelled) (node : BehaviorNode)
    (deciding : Deciding node) (complete : ∀ e ∈ texts node, Complete e) (s : ExecState D) :
    (∃ polls, (executeNode env node s).2 = { s with polls }) ∧
    (Succeeds (executeNode env (condensed node)) s = true ↔
      Succeeds (executeNode env node) s = true ∧ ∀ e ∈ alternatives node, DefinedIn s.vm e) := by
  have tree := executeNode_decides uncancelled node deciding s
  have one := executeNode_decides uncancelled (condensed node) (by unfold condensed Deciding; exact ⟨rfl, trivial⟩) s
  constructor
  · obtain ⟨result, polls, ran, -⟩ := tree
    exact ⟨polls, by rw [ran]⟩
  · rw [tree.succeeds, one.succeeds, ← (condense_madeOf s.vm node complete).satisfied]
    unfold condensed holds
    cases text : condense node with
    | nil => exact iff_of_false (fun same => by cases same) (fun same => by cases same)
    | cons c rest => simp

end

/-! ## A choice of two values -/

def conditionNode (expression : Str) : BehaviorNode := .mk { name := lit "Check", type := .condition, expression } []

/-- A Sequence under the precondition `x < 5`, with a choice of two conditions in front of an idle action. -/
def choiceTree (l r : Str) : BehaviorNode :=
  .mk { name := lit "Both", type := .sequence, expression := lit "x < 5" }
    [.mk choiceData [conditionNode l, conditionNode r], noOpNode]

def holdingThree : ExecState FixedPoint := { vm := Constraint.smallX }

theorem condensed_succeeds_iff_sample :
    Succeeds (executeNode .quiet (condensed (choiceTree (lit "x == 4") (lit "x == 3")))) holdingThree = true ↔
      Succeeds (executeNode .quiet (choiceTree (lit "x == 4") (lit "x == 3"))) holdingThree = true ∧
        ∀ e ∈ alternatives (choiceTree (lit "x == 4") (lit "x == 3")), DefinedIn holdingThree.vm e := by
  refine (condensed_succeeds_iff .quiet (fun _ => rfl) _ ?_ ?_ holdingThree).2
  · exact ⟨rfl, ⟨rfl, ⟨rfl, trivial⟩, ⟨rfl, trivial⟩, trivial⟩, ⟨rfl, Or.inr (by decide)⟩, trivial⟩
  · intro e mem
    have three : e ∈ [lit "x < 5", lit "x == 4", lit "x == 3"] := mem
    simp only [List.mem_cons, List.not_mem_nil, or_false] at three
    rcases three with rfl | rfl | rfl
    all_goals exact Constraint.complete_comparison rfl rfl (Or.inl ⟨_, rfl⟩)

/-- Without a variable `y` the tree finds its way and the one Condition does not. -/
example : Succeeds (executeNode .quiet (choiceTree (lit "y == 2") (lit "x == 3"))) holdingThree = true ∧
    Succeeds (executeNode .quiet (condensed (choiceTree (lit "y == 2") (lit "x == 3")))) holdingThree = false := by
  decide

end Actuator.Executor
