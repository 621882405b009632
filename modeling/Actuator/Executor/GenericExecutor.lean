import Actuator.Executor.NumericExpression
import Actuator.Lib.Effect
import Actuator.Parser.BehaviorParser

/-!
# The executor

`GenericExecutor`: how a task runs the nodes of its behaviour tree on the
variable store and the shared mailbox. The cancellation flag and the packets
that other executors leave in the mailbox come from outside and are read from an
environment, each at the moment the program looks at it.
-/

namespace Actuator.Executor

open Actuator.Lib Actuator.Core Actuator.Parser
open Actuator.Constraint (Stop evaluateDetailed evaluate)

variable {D : Type}

structure ExecutionResult (D : Type) where
  success : Bool
  message : Str := []
  failedNode : Str := []
  outputs : VarMap D := OrdMap.empty
  executionTimeMs : Int := 0

namespace ExecutionResult

/-- `Success`. -/
def ofSuccess (message : Str) : ExecutionResult D := { success := true, message }

/-- `Failure`. -/
def ofFailure (message failedNode : Str) : ExecutionResult D := { success := false, message, failedNode }

end ExecutionResult

/-- The members of `ExecutorConfig` that a task depends on. -/
structure ExecutorConfig where
  enableRollback : Bool := true

/-- What other threads do while a task runs. -/
structure Environment (D : Type) where
  /-- Whether the flag `cancelled` is set when it is looked at for the n-th time. -/
  cancelled : Nat → Bool
  /-- A packet that another executor put into the mailbox before it is locked for the n-th time. -/
  arrival : Nat → Option (VarMap D)

/-- Nobody cancels the task, and no other executor sends. -/
def Environment.quiet : Environment D := { cancelled := fun _ => false, arrival := fun _ => none }

/-- One evaluation of a command parameter. -/
structure Evaluation (D : Type) where
  key : Str
  text : Str
  store : VariableManager D
  outcome : Except Exn (VariableValue D)

structure ExecState (D : Type) where
  vm : VariableManager D := {}
  /-- `g_shared_mailbox`. -/
  mailbox : VarMap D := OrdMap.empty
  /-- How often the flag was looked at. -/
  polls : Nat := 0
  /-- How often the mailbox was locked. -/
  accesses : Nat := 0
  /-- The parameter evaluations so far: a history, which nothing reads. -/
  evaluations : List (Evaluation D) := []

abbrev Exec (D : Type) := Effect (ExecState D) Exn

/-! ## Values of expressions -/

/-- `mergeOutputs`. -/
def mergeOutputs (dst src : VarMap D) : VarMap D := dst.insertAll src.entries

def containsComparisonOperator (expression : Str) : Bool :=
  [lit "==", lit "!=", lit ">=", lit "<=", lit ">", lit "<", lit "&&", lit "||"].any (occurs · expression)

def containsArithmeticOperator (expression : Str) : Bool :=
  [lit "+", lit "-", lit "*", lit "/", lit "sqrt"].any (occurs · expression)

/-- The alias of a sensor, empty if it has none. -/
def observationAlias (sensorKey : Str) : Str :=
  if sensorKey = lit "POS_X" then lit "x"
  else if sensorKey = lit "POS_Y" then lit "y"
  else if sensorKey = lit "POS_Z" then lit "z"
  else if sensorKey = lit "TARGET_X" then lit "tx"
  else if sensorKey = lit "TARGET_Y" then lit "ty"
  else if sensorKey = lit "TARGET_Z" then lit "tz"
  else if sensorKey = lit "REC" then lit "rec_type"
  else if sensorKey = lit "REC_TRUE" then lit "rec_type_true"
  else []

def defaultObservationValue [CxxDouble D] (sensorKey : Str) : VariableValue D :=
  if occurs (lit "REC") sensorKey ∨ occurs (lit "TYPE") sensorKey then .string []
  else if occurs (lit "IS_") sensorKey ∨ occurs (lit "FLAG") sensorKey ∨ occurs (lit "LIGHT") sensorKey then
    .bool false
  else .double (CxxDouble.ofInt 0)

/-- The text between two equal quotes, if it is so enclosed. -/
def unquote? (text : Str) : Option Str :=
  if 2 ≤ text.length ∧ ((text.head? = some (ch '"') ∧ text.getLast? = some (ch '"')) ∨
      (text.head? = some (ch '\'') ∧ text.getLast? = some (ch '\''))) then
    some ((text.drop 1).take (text.length - 2))
  else none

/-- The value of a text that reads as one number. -/
def numberValue [CxxDouble D] (text : Str) (number : D) : VariableValue D :=
  if ch '.' ∉ text ∧ ch 'e' ∉ text ∧ ch 'E' ∉ text then .int (CxxDouble.toInt number) else .double number

/-- The value of an arithmetic expression: an `int` when the number is whole up to `1e-9`. -/
def roundedValue [CxxDouble D] (number : D) : VariableValue D :=
  if CxxDouble.lt (CxxDouble.abs (CxxDouble.sub number (CxxDouble.round number))) (CxxDouble.tenToMinus 9) then
    .int (Int32.ofInt (CxxDouble.llround number))
  else .double number

/-- The end of `evaluateValueExpression`: a number, an arithmetic expression, or else the text itself. -/
def evaluateNumberOrText [CxxDouble D] (vm : VariableManager D) (trimmed : Str) : Except Exn (VariableValue D) :=
  match (tryParseNumberLiteral trimmed : Option D) with
  | some number => .ok (numberValue trimmed number)
  | none =>
    if containsArithmeticOperator trimmed then
      match NumericExpressionParser.parse vm trimmed with
      | .ok number => .ok (roundedValue number)
      | .error (.exception what) => .error what
      | .error .outOfFuel => .error []
    else .ok (.string trimmed)

/-- `evaluateValueExpression` behind the literals that need no store: a variable or a condition first. -/
def evaluateBare [CxxDouble D] (vm : VariableManager D) (trimmed : Str) : Except Exn (VariableValue D) :=
  if vm.exists? trimmed then vm.get trimmed
  else if containsComparisonOperator trimmed then .ok (.bool (evaluate vm trimmed))
  else evaluateNumberOrText vm trimmed

def evaluateValueExpression [CxxDouble D] (vm : VariableManager D) (expression : Str) :
    Except Exn (VariableValue D) :=
  let trimmed := trim expression
  if trimmed.isEmpty then .ok (.string [])
  else
    match unquote? trimmed with
    | some inside => .ok (.string inside)
    | none =>
      if isTrueWord trimmed then .ok (.bool true)
      else if isFalseWord trimmed then .ok (.bool false)
      else evaluateBare vm trimmed

/-! ## Observations -/

/-- The value `applyObservationValues` finds for one mapping. -/
def observedValue [CxxDouble D] (vm : VariableManager D) (varName sensorKey : Str) : VariableValue D :=
  match vm.lookup sensorKey with
  | some value => value
  | none =>
    let aliasKey := observationAlias sensorKey
    match (if aliasKey.isEmpty then none else vm.lookup aliasKey) with
    | some value => value
    | none =>
      match vm.lookup varName with
      | some value => value
      | none => defaultObservationValue sensorKey

def applyObservationValues [CxxDouble D] (data : NodeData) (vm : VariableManager D) : VariableManager D :=
  data.observation.entries.foldl (fun vm mapping => vm.set mapping.1 (observedValue vm mapping.1 mapping.2) .loc) vm

/-! ## Commands -/

def setVariable (name : Str) (value : VariableValue D) (scope : Scope) : Exec D Unit :=
  Effect.modify fun s => { s with vm := s.vm.set name value scope }

def readVm {α : Type} (f : VariableManager D → α) : Exec D α := Effect.read fun s => f s.vm

def modifyVm (f : VariableManager D → VariableManager D) : Exec D Unit := Effect.modify fun s => { s with vm := f s.vm }

/-- The mailbox under its lock. -/
def readMailbox (env : Environment D) : Exec D (VarMap D) := fun s =>
  let packet := (env.arrival s.accesses).getD s.mailbox
  (.ok packet, { s with mailbox := packet, accesses := s.accesses + 1 })

/-- Replacing the mailbox under its lock; what lay in it before is lost. -/
def writeMailbox (packet : VarMap D) : Exec D Unit :=
  Effect.modify fun s => { s with mailbox := packet, accesses := s.accesses + 1 }

/-- The evaluation of a command parameter. -/
def evaluateParam [CxxDouble D] (key text : Str) : Exec D (VariableValue D) := fun s =>
  let outcome := evaluateValueExpression s.vm text
  (outcome, { s with evaluations := s.evaluations ++ [⟨key, text, s.vm, outcome⟩] })

/-- The loop over a command's parameters: each value is found, written, and put into the outputs. -/
def paramLoop (valueOf : Str → Str → Exec D (VariableValue D)) (write : Str → VariableValue D → Exec D Unit) :
    List (Str × Str) → VarMap D → Exec D (VarMap D)
  | [], outputs => pure outputs
  | (key, text) :: items, outputs => do
    let value ← valueOf key text
    write key value
    paramLoop valueOf write items (outputs.insert key value)

section Commands

variable [CxxDouble D]

/-- `ASSIGN`. -/
def assign (params : StrMap) : Exec D (ExecutionResult D) := do
  let outputs ← paramLoop evaluateParam (fun key value => setVariable key value .loc) params.entries OrdMap.empty
  return { success := true, outputs }

/-- `kPositionKeys`. -/
def positionKeys : List (Str × Str) := [(lit "x", lit "POS_X"), (lit "y", lit "POS_Y"), (lit "z", lit "POS_Z")]

/-- The axes that have a parameter, with its text. -/
def axisParams (params : StrMap) : List (Str × Str) :=
  positionKeys.filterMap fun axis => (params.find? axis.1).map fun text => (axis.1, text)

/-- The sensor of an axis. -/
def sensorOf (axis : Str) : Str := (positionKeys.lookup axis).getD []

/-- `MOVE_TO`. The axes without a parameter are skipped. -/
def moveTo (params : StrMap) : Exec D (ExecutionResult D) := do
  let outputs ← paramLoop evaluateParam
    (fun axis value => do setVariable axis value .loc; setVariable (sensorOf axis) value .global) (axisParams params)
    OrdMap.empty
  return { success := true, outputs }

/-- `SEND`. The packet and the outputs are filled alike. -/
def send (params : StrMap) : Exec D (ExecutionResult D) := do
  let packet ← paramLoop evaluateParam (fun _ _ => pure ()) params.entries OrdMap.empty
  writeMailbox packet
  return { success := true, outputs := packet }

def resultTo : Str := lit "result_to"

/-- The value of a parameter of `RECEIVE`: from the packet if it has the key. -/
def receivedValue (packet : VarMap D) (key text : Str) : Exec D (VariableValue D) :=
  match packet.find? key with
  | some value => pure value
  | none => evaluateParam key text

/-- `RECEIVE`. -/
def receive (env : Environment D) (params : StrMap) : Exec D (ExecutionResult D) := do
  let packet ← readMailbox env
  let resultToVar := trim ((params.find? resultTo).getD [])
  let outputs ← paramLoop (receivedValue packet) (fun key value => setVariable key value .loc)
    (params.entries.filter fun item => item.1 ≠ resultTo) OrdMap.empty
  if resultToVar.isEmpty then return { success := true, outputs }
  let hasPacket := VariableValue.bool (!packet.isEmpty)
  setVariable resultToVar hasPacket .loc
  return { success := true, outputs := outputs.insert resultToVar hasPacket }

/-- `EMIT_COMMAND`. -/
def emitCommand (params : StrMap) : Exec D (ExecutionResult D) := do
  let outputs ← paramLoop evaluateParam (fun key value => setVariable key value .intermediate) params.entries
    OrdMap.empty
  return { success := true, outputs }

/-- `NEXT_TASK`. -/
def nextTask : Exec D (ExecutionResult D) := do
  setVariable (lit "next_task") (.bool true) .loc
  return .ofSuccess (lit "NEXT_TASK")

/-- `REPORT_TARGET`. -/
def reportTarget (params : StrMap) : Exec D (ExecutionResult D) := do
  setVariable (lit "target_reported") (.bool true) .global
  let outputs ← paramLoop evaluateParam (fun key value => setVariable (lit "reported_" ++ key) value .global)
    params.entries OrdMap.empty
  return { success := true, outputs }

/-- `EXIT`. -/
def exit : Exec D (ExecutionResult D) := do
  setVariable (lit "mission_exit") (.bool true) .global
  return .ofSuccess (lit "EXIT")

/-- `SETVAR`. The name starts at the seventh character of the untrimmed command. -/
def setvar (command : Str) : Exec D (ExecutionResult D) :=
  let malformed : ExecutionResult D := .ofFailure (lit "setvar 命令格式错误: " ++ command) []
  match find? (lit "=") command with
  | none => pure malformed
  | some eqPos =>
    if 6 < eqPos then
      let varName := trim ((command.drop 6).take (eqPos - 6))
      let varExpr := trim (command.drop (eqPos + 1))
      if varName.isEmpty then pure (.ofFailure (lit "setvar 缺少变量名") [])
      else do
        let evaluated ← Effect.readThrowing fun s => evaluateValueExpression s.vm varExpr
        setVariable varName evaluated .global
        return { success := true, outputs := OrdMap.empty.insert varName evaluated }
    else pure malformed

def executeBuiltinCommand (env : Environment D) (command : Str) (params : StrMap) : Exec D (ExecutionResult D) :=
  let commandUpper := (trim command).map toUpper
  if commandUpper = lit "NO_OP" then pure (.ofSuccess (lit "NO_OP"))
  else if commandUpper = lit "ASSIGN" then assign params
  else if commandUpper = lit "MOVE_TO" then moveTo params
  else if commandUpper = lit "SEND" then send params
  else if commandUpper = lit "RECEIVE" then receive env params
  else if commandUpper = lit "EMIT_COMMAND" then emitCommand params
  else if commandUpper = lit "NEXT_TASK" then nextTask
  else if commandUpper = lit "REPORT_TARGET" then reportTarget params
  else if commandUpper = lit "EXIT" then exit
  else if occurs (lit "SETVAR") commandUpper then setvar command
  else pure (.ofFailure (lit "不支持的命令: " ++ command) [])

def executeCommand (env : Environment D) (command : Str) (params : StrMap) : Exec D (ExecutionResult D) :=
  if command.isEmpty then pure (.ofSuccess []) else executeBuiltinCommand env command params

end Commands

/-! ## Nodes -/

/-- Whether the flag `cancelled` is set now. -/
def pollCancelled (env : Environment D) : Exec D Bool := fun s =>
  (.ok (env.cancelled s.polls), { s with polls := s.polls + 1 })

def executeAction [CxxDouble D] (env : Environment D) (data : NodeData) : Exec D (ExecutionResult D) :=
  executeCommand env data.command data.params

def executeCondition [CxxDouble D] (data : NodeData) : Exec D (ExecutionResult D) := do
  if data.expression.isEmpty then return .ofFailure (lit "条件节点缺少表达式") data.name
  if ← readVm fun vm => evaluate vm data.expression then return .ofSuccess (lit "条件为真")
  return .ofFailure (lit "条件为假") data.name

/-- One round of `appendNodeParamsToOutputs`. -/
def appendParam (name : Str) (vm : VariableManager D) (outputs : VarMap D) (param : Str × Str) : VarMap D :=
  let key := name ++ lit "." ++ param.1
  match outputs.find? param.1 with
  | some value => outputs.insert key value
  | none =>
    match vm.lookup param.1 with
    | some value => outputs.insert key value
    | none => outputs.insert key (.string param.2)

def appendNodeParamsToOutputs (data : NodeData) (vm : VariableManager D) (outputs : VarMap D) : VarMap D :=
  data.params.entries.foldl (appendParam data.name vm) outputs

/-- The end of `executeNode`: a successful node's parameters move into its outputs under the node's name. -/
def finishNode (data : NodeData) (result : ExecutionResult D) : Exec D (ExecutionResult D) := do
  if result.success ∧ ¬data.params.isEmpty then
    let outputs ← readVm fun vm => appendNodeParamsToOutputs data vm result.outputs
    return { result with outputs := data.params.entries.foldl (fun outputs param => outputs.erase param.1) outputs }
  return result

/-- The beginning of `executeNode`: the failure it ends with already, if the node is cancelled or blocked. -/
def enterNode [CxxDouble D] (env : Environment D) (data : NodeData) : Exec D (Option (ExecutionResult D)) := do
  if ← pollCancelled env then return some (.ofFailure (lit "任务已取消") data.name)
  modifyVm (applyObservationValues data)
  if data.expression.isEmpty then return none
  let constraintResult ← readVm fun vm => evaluateDetailed vm data.expression
  if constraintResult.satisfied then return none
  return some (.ofFailure (lit "前置条件不满足: " ++ constraintResult.message) data.name)

section Nodes

variable [CxxDouble D]

mutual

def executeNode (env : Environment D) : BehaviorNode → Exec D (ExecutionResult D)
  | .mk data children => do
    match ← enterNode env data with
    | some failure => return failure
    | none =>
      (match data.type with
        | .action => executeAction env data
        | .condition => executeCondition data
        | .sequence => executeSequence env children OrdMap.empty
        | .selector => executeSelector env data.name children
        | .parallel => executeParallel env children none OrdMap.empty
        | .subtree => executeCommand env data.command data.params) >>= finishNode data

/-- `executeSequence`, with the outputs merged so far. -/
def executeSequence (env : Environment D) : List BehaviorNode → VarMap D → Exec D (ExecutionResult D)
  | [], outputs => return { success := true, outputs }
  | child :: children, outputs => do
    let result ← executeNode env child
    if result.success then executeSequence env children (mergeOutputs outputs result.outputs) else return result

def executeSelector (env : Environment D) (name : Str) : List BehaviorNode → Exec D (ExecutionResult D)
  | [] => return .ofFailure (lit "所有分支均失败") name
  | child :: children => do
    let result ← executeNode env child
    if result.success then return result else executeSelector env name children

/-- `executeParallel`, with the first failed node and the outputs merged so far. -/
def executeParallel (env : Environment D) : List BehaviorNode → Option Str → VarMap D → Exec D (ExecutionResult D)
  | [], none, outputs => return { success := true, outputs }
  | [], some firstFailedNode, _ => return .ofFailure (lit "部分子节点失败") firstFailedNode
  | child :: children, firstFailed, outputs => do
    let result ← executeNode env child
    if result.success then executeParallel env children firstFailed (mergeOutputs outputs result.outputs)
    else
      let failedNode := if result.failedNode.isEmpty then child.data.name else result.failedNode
      executeParallel env children (firstFailed.or (some failedNode)) outputs

end

end Nodes

/-! ## Tasks -/

section Tasks

variable [CxxDouble D]

def initializeTaskContext (task : TaskSegment) (vm : VariableManager D) : VariableManager D :=
  let vm := vm.clearLocal.clearScope .intermediate
  let vm := vm.set (lit "satellite_id") (.string task.satelliteId) .global
  let vm := vm.set (lit "task_id") (.string task.taskId) .global
  let vm := vm.set (lit "segment_id") (.string task.segmentId) .global
  vm.setFromParams task.behaviorParams .loc

mutual

def initializeBehaviorDefaults : BehaviorNode → VariableManager D → VariableManager D
  | .mk data children, vm =>
    initializeAllDefaults children ((vm.setFromParams data.variableInits .loc).setFromParams data.constants .loc)

/-- `initializeBehaviorDefaults` on each node of a list. -/
def initializeAllDefaults : List BehaviorNode → VariableManager D → VariableManager D
  | [], vm => vm
  | node :: nodes, vm => initializeAllDefaults nodes (initializeBehaviorDefaults node vm)

end

def createSnapshot : Exec D Str := fun s => (.ok s.vm.createSnapshot.1, { s with vm := s.vm.createSnapshot.2 })

def restoreSnapshot (snapshotId : Str) : Exec D Unit := modifyVm fun vm => (vm.restoreSnapshot snapshotId).2

/-- The loop of `executeTaskInternal` over the nodes, with the outputs merged so far. -/
def runNodes (cfg : ExecutorConfig) (env : Environment D) (snapshotId : Str) :
    List BehaviorNode → VarMap D → Exec D (ExecutionResult D)
  | [], outputs => return { success := true, outputs }
  | node :: nodes, outputs => do
    if ← pollCancelled env then return .ofFailure (lit "任务已取消") node.data.name
    let nodeResult ← executeNode env node
    if nodeResult.success then runNodes cfg env snapshotId nodes (mergeOutputs outputs nodeResult.outputs)
    else do
      if cfg.enableRollback then restoreSnapshot snapshotId
      return nodeResult

/-- The `try` block of `executeTaskInternal`. -/
def runTask (cfg : ExecutorConfig) (env : Environment D) (task : TaskSegment) (behavior : BehaviorNode)
    (snapshotId : Str) : Exec D (ExecutionResult D) := do
  let nodes := instantiate behavior task.behaviorParams
  modifyVm (initializeAllDefaults nodes)
  modifyVm fun vm => vm.setFromParams task.behaviorParams .loc
  runNodes cfg env snapshotId nodes OrdMap.empty

/-- `executeTaskInternal`. The clock says how many milliseconds the task took. -/
def executeTaskInternal (cfg : ExecutorConfig) (env : Environment D) (task : TaskSegment) (behavior : BehaviorNode)
    (elapsedMs : Int) : Exec D (ExecutionResult D) := do
  modifyVm (initializeTaskContext task)
  let snapshotId ← createSnapshot
  let outcome ← (runTask cfg env task behavior snapshotId).attempt
  let result ← match outcome with
    | .ok result => pure result
    | .error what => do
      restoreSnapshot snapshotId
      pure (.ofFailure (lit "执行异常: " ++ what) [])
  modifyVm fun vm => vm.clearLocal.clearScope .intermediate
  return { result with executionTimeMs := elapsedMs }

end Tasks

end Actuator.Executor
