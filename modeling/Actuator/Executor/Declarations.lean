import Actuator.Executor.Rollback
import Actuator.Parser.Templates

/-!
# Declarations below the root

The placeholders of a tree are filled with the declarations of its root and the
parameters of the task. The variables are initialised by a walk over the whole
tree, in which a later declaration overwrites an earlier one, and then by the
parameters. The two agree on a name that the task binds, and else exactly when
the root declares it and the last declaration of the walk gives it the same
value.
-/

namespace Actuator.Executor

open Actuator.Lib Actuator.Core Actuator.Parser
open VariableManager (valueOfParam)

/-! ## The last declaration -/

/-- What a node itself declares a name to be: its constant before its initial value. -/
def declaredAt (data : NodeData) (v : Str) : Option Str := (data.constants.find? v).or (data.variableInits.find? v)

mutual

/-- The last declaration of a name in the walk over a tree: a node before its children, and these from left to
right. -/
def lastDeclared (v : Str) : BehaviorNode → Option Str
  | .mk data children => (lastDeclaredOf v children).or (declaredAt data v)

def lastDeclaredOf (v : Str) : List BehaviorNode → Option Str
  | [] => none
  | node :: nodes => (lastDeclaredOf v nodes).or (lastDeclared v node)

end

mutual

/-- Instantiation keeps the declarations. -/
theorem lastDeclared_expandNode (params : StrMap) (v : Str) :
    ∀ node, lastDeclared v (expandNode params node) = lastDeclared v node
  | .mk data children => by
    unfold expandNode
    rw [lastDeclared, lastDeclared, lastDeclaredOf_expandNodes params v children]
    rfl

theorem lastDeclaredOf_expandNodes (params : StrMap) (v : Str) :
    ∀ nodes, lastDeclaredOf v (expandNodes params nodes) = lastDeclaredOf v nodes
  | [] => by
    unfold expandNodes
    rfl
  | node :: nodes => by
    unfold expandNodes
    rw [lastDeclaredOf, lastDeclaredOf, lastDeclaredOf_expandNodes params v nodes,
      lastDeclared_expandNode params v node]

end

section Initialisation

variable {D : Type} [CxxDouble D]

mutual

theorem find?_initializeBehaviorDefaults (v : Str) :
    ∀ (node : BehaviorNode) (vm : VariableManager D), (initializeBehaviorDefaults node vm).localVars.find? v =
      ((lastDeclared v node).map valueOfParam).or (vm.localVars.find? v)
  | .mk data children, vm => by
    unfold initializeBehaviorDefaults
    rw [find?_initializeAllDefaults v children, VariableManager.find?_setFromParams_or,
      VariableManager.find?_setFromParams_or, lastDeclared, declaredAt, Option.map_or, Option.map_or, Option.or_assoc,
      Option.or_assoc]

theorem find?_initializeAllDefaults (v : Str) :
    ∀ (nodes : List BehaviorNode) (vm : VariableManager D), (initializeAllDefaults nodes vm).localVars.find? v =
      ((lastDeclaredOf v nodes).map valueOfParam).or (vm.localVars.find? v)
  | [], vm => by
    unfold initializeAllDefaults
    rfl
  | node :: nodes, vm => by
    unfold initializeAllDefaults
    rw [find?_initializeAllDefaults v nodes, find?_initializeBehaviorDefaults v node, lastDeclaredOf, Option.map_or,
      Option.or_assoc]

end

/-- The state in which the nodes of a task start to run. -/
def initialised (task : TaskSegment) (behavior : BehaviorNode) (s : ExecState D) : ExecState D :=
  { startState task s with
    vm := (initializeAllDefaults (instantiate behavior task.behaviorParams) (startState task s).vm).setFromParams
      task.behaviorParams .loc }

/-- `executeTaskInternal` takes the snapshot, initialises the variables and runs the nodes. -/
theorem runTask_initialised (cfg : ExecutorConfig) (env : Environment D) (task : TaskSegment) (behavior : BehaviorNode)
    (snapshotId : Str) (s : ExecState D) :
    runTask cfg env task behavior snapshotId (startState task s) =
      runNodes cfg env snapshotId (instantiate behavior task.behaviorParams) OrdMap.empty
        (initialised task behavior s) :=
  rfl

theorem find?_startState (task : TaskSegment) (s : ExecState D) (v : Str) :
    (startState task s).vm.localVars.find? v = (task.behaviorParams.find? v).map valueOfParam := by
  show (initializeTaskContext task s.vm).localVars.find? v = _
  unfold initializeTaskContext
  rw [VariableManager.find?_setFromParams_or]
  exact Option.or_none

/-- The value a name has then: of its parameter, or else of its last declaration. -/
theorem find?_initialised (task : TaskSegment) (behavior : BehaviorNode) (s : ExecState D) (v : Str) :
    (initialised task behavior s).vm.localVars.find? v =
      ((task.behaviorParams.find? v).or (lastDeclared v behavior)).map valueOfParam := by
  have declared : lastDeclaredOf v (instantiate behavior task.behaviorParams) = lastDeclared v behavior := by
    show (lastDeclaredOf v []).or (lastDeclared v (expandNode _ behavior)) = _
    rw [lastDeclared_expandNode, lastDeclaredOf, Option.none_or]
  show ((initializeAllDefaults _ _).setFromParams _ .loc).localVars.find? v = _
  rw [VariableManager.find?_setFromParams_or, find?_initializeAllDefaults, declared, find?_startState, Option.map_or]
  cases task.behaviorParams.find? v with
  | none => exact congrArg _ Option.or_none
  | some t => rfl

/-! ## Placeholders -/

/-- The texts of a node that are templates. -/
inductive IsTemplate (node : BehaviorNode) : Str → Prop
  | param {k text : Str} (written : node.data.params.find? k = some text) : IsTemplate node text
  | command : IsTemplate node node.data.command
  | expression : IsTemplate node node.data.expression

/-- A text of a node with what is made of it in another. An empty expression of a condition with observations has a
default in its place. -/
inductive Becomes (node node' : BehaviorNode) : Str → Str → Prop
  | param {k text text' : Str} (written : node.data.params.find? k = some text)
    (made : node'.data.params.find? k = some text') : Becomes node node' text text'
  | command {text' : Str} (made : node'.data.command = text') : Becomes node node' node.data.command text'
  | expression {text' : Str} (made : node'.data.expression =
      if node.data.type = .condition ∧ text'.isEmpty ∧ ¬node.data.observation.isEmpty then lit "true" else text') :
    Becomes node node' node.data.expression text'

theorem becomes_instantiated (behavior : BehaviorNode) (params : StrMap) {node : BehaviorNode} {text : Str}
    (template : IsTemplate node text) : Becomes node (instantiated behavior params node) text
      (replaceVariables text (buildTemplateParams behavior params)) := by
  cases node
  cases template with
  | @param k text written =>
    refine .param written ?_
    rw [find?_instantiated_params, written]
    rfl
  | command => exact .command rfl
  | expression => exact .expression rfl

/-- A placeholder is filled with a text of the value that its name is initialised with exactly when the task binds the
name, or the root declares it and the last declaration in the tree has the value of the root's. -/
theorem placeholder_initialised_iff (task : TaskSegment) (behavior : BehaviorNode) (s : ExecState D)
    (node : BehaviorNode) (mem : node ∈ behavior.subnodes) (text : Str) (template : IsTemplate node text)
    (before after : List TemplatePiece) (v : Str) (written : templatePieces text = before ++ .hole v :: after) :
    ∃ node' ∈ BehaviorNode.subnodesOf (instantiate behavior task.behaviorParams), ∃ text',
      Becomes node node' text text' ∧
      text' = before.flatMap (TemplatePiece.fill (buildTemplateParams behavior task.behaviorParams)) ++
        (((buildTemplateParams behavior task.behaviorParams).find? v).getD (placeholder v) ++
          after.flatMap (TemplatePiece.fill (buildTemplateParams behavior task.behaviorParams))) ∧
      ((∃ t, (buildTemplateParams behavior task.behaviorParams).find? v = some t ∧
          (initialised task behavior s).vm.localVars.find? v = some (valueOfParam t)) ↔
        (∃ t, task.behaviorParams.find? v = some t) ∨
          ∃ t t', declaredAt behavior.data v = some t ∧ lastDeclared v behavior = some t' ∧
            (valueOfParam t' : VariableValue D) = valueOfParam t) := by
  have member : instantiated behavior task.behaviorParams node ∈
      BehaviorNode.subnodesOf (instantiate behavior task.behaviorParams) := by
    rw [subnodesOf_instantiate]
    exact List.mem_map_of_mem mem
  refine ⟨_, member, _, becomes_instantiated behavior task.behaviorParams template, ?_, ?_⟩
  · rw [replaceVariables_eq, written, List.flatMap_append, List.flatMap_cons]
    rfl
  · rw [find?_buildTemplateParams, find?_initialised]
    show (∃ t, (task.behaviorParams.find? v).or (declaredAt behavior.data v) = some t ∧ _) ↔ _
    cases task.behaviorParams.find? v with
    | some t => exact iff_of_true ⟨t, rfl, rfl⟩ (Or.inl ⟨t, rfl⟩)
    | none =>
      rw [Option.none_or, Option.none_or]
      constructor
      · rintro ⟨t, root, held⟩
        obtain ⟨t', last, same⟩ := Option.map_eq_some_iff.1 held
        exact Or.inr ⟨t, t', root, last, same⟩
      · rintro (⟨t, bound⟩ | ⟨t, t', root, last, same⟩)
        · cases bound
        · exact ⟨t, root, by rw [last, Option.map_some, same]⟩

end Initialisation

/-! ## A limit of a child -/

/-- A condition with its own limit. -/
def childNode (limit : Str) : BehaviorNode :=
  .mk { type := .condition, expression := lit "x < ${limit}", constants := OrdMap.empty.insert (lit "limit") limit } []

/-- A tree with a limit at its root and another one at its only child. -/
def twoLimits (limits : StrMap) (limit : Str) : BehaviorNode :=
  .mk { type := .sequence, constants := limits } [childNode limit]

def limitTask : TaskSegment := ⟨lit "seg", lit "task", lit "S1", lit "Main", OrdMap.empty⟩

def limitOf (text : String) : StrMap := OrdMap.empty.insert (lit "limit") (lit text)

theorem placeholder_initialised_sample :
    ∃ node' ∈ BehaviorNode.subnodesOf (instantiate (twoLimits (limitOf "5") (lit "05")) OrdMap.empty), ∃ text',
      Becomes (childNode (lit "05")) node' (lit "x < ${limit}") text' ∧ text' = lit "x < 5" ∧
        (initialised limitTask (twoLimits (limitOf "5") (lit "05")) ({} : ExecState FixedPoint)).vm.localVars.find?
          (lit "limit") = some (valueOfParam (lit "5")) := by
  obtain ⟨node', mem, text', becomes, filled, agree⟩ :=
    placeholder_initialised_iff limitTask (twoLimits (limitOf "5") (lit "05")) ({} : ExecState FixedPoint)
      (childNode (lit "05")) (.tail _ (.head _)) (lit "x < ${limit}") .expression [.plain (lit "x < ")] [.plain []]
      (lit "limit") (by decide)
  have root : (buildTemplateParams (twoLimits (limitOf "5") (lit "05")) OrdMap.empty).find? (lit "limit") =
      some (lit "5") := by decide
  obtain ⟨t, template, held⟩ := agree.2 (Or.inr ⟨lit "5", lit "05", by decide, by decide, by decide⟩)
  cases root.symm.trans template
  exact ⟨node', mem, text', becomes, filled.trans (by decide), held⟩

/-- The root knows no limit, and the placeholder stays; or it has another one, which is filled in. -/
theorem placeholder_of_child :
    (instantiated (twoLimits OrdMap.empty (lit "5")) OrdMap.empty (childNode (lit "5"))).data.expression =
        lit "x < ${limit}" ∧
      (initialised limitTask (twoLimits OrdMap.empty (lit "5")) ({} : ExecState FixedPoint)).vm.localVars.find?
        (lit "limit") = some (.int 5) ∧
      (instantiated (twoLimits (limitOf "3") (lit "5")) OrdMap.empty (childNode (lit "5"))).data.expression =
        lit "x < 3" ∧
      (initialised limitTask (twoLimits (limitOf "3") (lit "5")) ({} : ExecState FixedPoint)).vm.localVars.find?
        (lit "limit") = some (.int 5) := by
  decide +kernel

end Actuator.Executor
