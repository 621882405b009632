import Actuator.Executor.GenericExecutor

/-!
# Rules for whole trees

Every change a node makes to the variables goes through `set`, and which names
it may set and which texts it may evaluate can be read off the node. A property
of computations that the permitted steps have, and that sequencing keeps, is one
of running the whole tree, however it ends. Such properties are that a relation
between the states is kept, which exceptions can be thrown, and that the counters
and the history in the state are not looked at.
-/

namespace Actuator.Executor

open Actuator.Lib Actuator.Core Actuator.Parser

variable {D : Type}

/-! ## What a node may do -/

/-- The name a command is looked up under. -/
def commandName (command : Str) : Str := (trim command).map toUpper

/-- The variable a `SETVAR` command assigns. -/
def setvarName (command : Str) (eqPos : Nat) : Str := trim ((command.drop 6).take (eqPos - 6))

/-- The variables a command may set. -/
inductive CommandWrites (command : Str) (params : StrMap) : Str → Scope → Prop
  | assign {key text : Str} (is : commandName command = lit "ASSIGN") (param : params.find? key = some text) :
    CommandWrites command params key .loc
  | axis {key sensor text : Str} (is : commandName command = lit "MOVE_TO") (axis : (key, sensor) ∈ positionKeys)
    (param : params.find? key = some text) : CommandWrites command params key .loc
  | sensor {key sensor text : Str} (is : commandName command = lit "MOVE_TO") (axis : (key, sensor) ∈ positionKeys)
    (param : params.find? key = some text) : CommandWrites command params sensor .global
  | receive {key text : Str} (is : commandName command = lit "RECEIVE") (param : params.find? key = some text)
    (data : key ≠ resultTo) : CommandWrites command params key .loc
  | received {name : Str} (is : commandName command = lit "RECEIVE") (param : params.find? resultTo = some name) :
    CommandWrites command params (trim name) .loc
  | emit {key text : Str} (is : commandName command = lit "EMIT_COMMAND") (param : params.find? key = some text) :
    CommandWrites command params key .intermediate
  | nextTask (is : commandName command = lit "NEXT_TASK") : CommandWrites command params (lit "next_task") .loc
  | targetReported (is : commandName command = lit "REPORT_TARGET") :
    CommandWrites command params (lit "target_reported") .global
  | report {key text : Str} (is : commandName command = lit "REPORT_TARGET") (param : params.find? key = some text) :
    CommandWrites command params (lit "reported_" ++ key) .global
  | exit (is : commandName command = lit "EXIT") : CommandWrites command params (lit "mission_exit") .global
  | setvar {eqPos : Nat} (is : occurs (lit "SETVAR") (commandName command) = true)
    (assigns : find? (lit "=") command = some eqPos) (named : setvarName command eqPos ≠ []) :
    CommandWrites command params (setvarName command eqPos) .global

/-- The nodes whose command is executed. -/
def RunsCommand (data : NodeData) : Prop := data.type = .action ∨ data.type = .subtree

/-- The variables a node itself may set. -/
inductive NodeWrites (data : NodeData) : Str → Scope → Prop
  | observation {name sensor : Str} (maps : data.observation.find? name = some sensor) : NodeWrites data name .loc
  | command {name : Str} {scope : Scope} (runs : RunsCommand data)
    (writes : CommandWrites data.command data.params name scope) : NodeWrites data name scope

/-- Which variables may be set, and which parameters evaluated. -/
structure Permit where
  sets : Str → Scope → Prop
  evaluates : Str → Str → Prop

/-- The expression of a `SETVAR` command. -/
def setvarExpression (command : Str) (eqPos : Nat) : Str := trim (command.drop (eqPos + 1))

/-- The texts a command may evaluate. -/
inductive CommandText (command : Str) (params : StrMap) : Str → Prop
  | param {key text : Str} (param : params.find? key = some text) : CommandText command params text
  | setvar {eqPos : Nat} (is : occurs (lit "SETVAR") (commandName command) = true)
    (assigns : find? (lit "=") command = some eqPos) : CommandText command params (setvarExpression command eqPos)

/-- The texts a node may evaluate. -/
def NodeText (data : NodeData) (text : Str) : Prop := RunsCommand data ∧ CommandText data.command data.params text

def Permit.all : Permit where
  sets _ _ := True
  evaluates _ _ := True

/-- A command with these parameters stays within the permit. -/
structure Permit.Allows (permit : Permit) (command : Str) (params : StrMap) : Prop where
  sets : ∀ name scope, CommandWrites command params name scope → permit.sets name scope
  evaluates : ∀ key text, params.find? key = some text → permit.evaluates key text

/-- A command that sets variables and evaluates texts only as permitted. -/
structure Covered (permit : Permit) (texts : Str → Prop) (command : Str) (params : StrMap) : Prop extends
    permit.Allows command params where
  texts : ∀ text, CommandText command params text → texts text

theorem Covered.all {texts : Str → Prop} {command : Str} {params : StrMap}
    (permitted : ∀ text, CommandText command params text → texts text) : Covered .all texts command params where
  sets _ _ _ := trivial
  evaluates _ _ _ := trivial
  texts := permitted

section

variable {permit : Permit}

/-- What the nodes of these trees may do is permitted. -/
structure Within (permit : Permit) (nodes : List BehaviorNode) : Prop where
  sets : ∀ node ∈ nodes, ∀ name scope, NodeWrites node.data name scope → permit.sets name scope
  evaluates : ∀ node ∈ nodes, RunsCommand node.data →
    ∀ key text, node.data.params.find? key = some text → permit.evaluates key text

theorem Within.append {nodes more : List BehaviorNode} (within : Within permit (nodes ++ more)) :
    Within permit nodes ∧ Within permit more :=
  ⟨⟨fun node mem => within.sets node (List.mem_append_left _ mem),
      fun node mem => within.evaluates node (List.mem_append_left _ mem)⟩,
    ⟨fun node mem => within.sets node (List.mem_append_right _ mem),
      fun node mem => within.evaluates node (List.mem_append_right _ mem)⟩⟩

theorem Within.allows {data : NodeData} {children nodes : List BehaviorNode}
    (within : Within permit (.mk data children :: nodes)) (runs : RunsCommand data) :
    permit.Allows data.command data.params where
  sets name scope writes := within.sets _ List.mem_cons_self name scope (.command runs writes)
  evaluates := within.evaluates _ List.mem_cons_self runs

theorem Within.children {data : NodeData} {children nodes : List BehaviorNode}
    (within : Within permit (.mk data children :: nodes)) : Within permit nodes where
  sets node mem := within.sets node (List.mem_cons_of_mem _ mem)
  evaluates node mem := within.evaluates node (List.mem_cons_of_mem _ mem)

theorem within_all (nodes : List BehaviorNode) : Within .all nodes where
  sets _ _ _ _ _ := trivial
  evaluates _ _ _ _ _ _ := trivial

end

/-- The texts that the nodes of these trees may evaluate are permitted. -/
def Permits (texts : Str → Prop) (nodes : List BehaviorNode) : Prop :=
  ∀ node ∈ nodes, ∀ text, NodeText node.data text → texts text

theorem Permits.append {texts : Str → Prop} {nodes more : List BehaviorNode} (permits : Permits texts (nodes ++ more)) :
    Permits texts nodes ∧ Permits texts more :=
  ⟨fun node mem => permits node (List.mem_append_left _ mem), fun node mem => permits node (List.mem_append_right _ mem)⟩

/-! ## Rules -/

/-- A property of computations that sequencing keeps, and that the permitted steps on the variables have. -/
structure StoreRules [CxxDouble D] (C : {α : Type} → Exec D α → Prop) (permit : Permit) (texts : Str → Prop) :
    Prop where
  pure : ∀ {α : Type} (a : α), C (pure a)
  bind : ∀ {α β : Type} {x : Exec D α} {k : α → Exec D β}, C x → (∀ a, C (k a)) → C (x >>= k)
  reads : ∀ {α : Type} (f : VariableManager D → α), C (readVm f)
  sets : ∀ name value scope, permit.sets name scope → C (setVariable name value scope)
  evaluates : ∀ key text, permit.evaluates key text → texts text → C (evaluateParam key text)
  assigns : ∀ text, texts text → C (Effect.readThrowing fun s => evaluateValueExpression s.vm text)

/-- The same without looking at all variables at once. -/
structure CommandRules [CxxDouble D] (C : {α : Type} → Exec D α → Prop) (permit : Permit) (texts : Str → Prop) :
    Prop where
  pure : ∀ {α : Type} (a : α), C (pure a)
  bind : ∀ {α β : Type} {x : Exec D α} {k : α → Exec D β}, C x → (∀ a, C (k a)) → C (x >>= k)
  sets : ∀ name value scope, permit.sets name scope → C (setVariable name value scope)
  evaluates : ∀ key text, permit.evaluates key text → texts text → C (evaluateParam key text)
  assigns : ∀ text, texts text → C (Effect.readThrowing fun s => evaluateValueExpression s.vm text)

/-- The steps on the rest of the state have it too. -/
structure TreeRules [CxxDouble D] (C : {α : Type} → Exec D α → Prop) (env : Environment D) (permit : Permit)
    (texts : Str → Prop) : Prop extends StoreRules C permit texts where
  polls : C (pollCancelled env)
  receives : C (readMailbox env)
  sends : ∀ packet, C (writeMailbox packet)

namespace CommandRules

variable [CxxDouble D] {C : {α : Type} → Exec D α → Prop} {permit : Permit} {texts : Str → Prop}

theorem ite (_rules : CommandRules C permit texts) {α : Type} {c : Prop} [Decidable c] {x y : Exec D α} (yes : c → C x)
    (no : ¬c → C y) : C (if c then x else y) := by
  split
  · exact yes ‹c›
  · exact no ‹¬c›

/-- The step lemma of the parameter loop, run over its items. -/
theorem paramLoop (rules : CommandRules C permit texts) {valueOf : Str → Str → Exec D (VariableValue D)}
    {write : Str → VariableValue D → Exec D Unit} (items : List (Str × Str))
    (finds : ∀ item ∈ items, C (valueOf item.1 item.2)) (writes : ∀ item ∈ items, ∀ value, C (write item.1 value))
    (outputs : VarMap D) : C (Executor.paramLoop valueOf write items outputs) := by
  induction items generalizing outputs with
  | nil => exact rules.pure _
  | cons item items ih =>
    unfold Executor.paramLoop
    refine rules.bind (finds item List.mem_cons_self) fun value => ?_
    refine rules.bind (writes item List.mem_cons_self value) fun _ => ?_
    exact ih (fun later mem => finds later (List.mem_cons_of_mem _ mem))
      (fun later mem => writes later (List.mem_cons_of_mem _ mem)) _

/-! ### Commands -/

section Commands

variable {env : Environment D} {command : Str} {params : StrMap}

theorem param (rules : CommandRules C permit texts) (covered : Covered permit texts command params) {key text : Str}
    (param : params.find? key = some text) : C (evaluateParam key text) :=
  rules.evaluates key text (covered.evaluates key text param) (covered.texts text (.param param))

/-- The loop over a command's own parameters. -/
theorem ownParams (rules : CommandRules C permit texts) (covered : Covered permit texts command params)
    {write : Str → VariableValue D → Exec D Unit}
    (writes : ∀ key text, params.find? key = some text → ∀ value, C (write key value)) :
    C (Executor.paramLoop evaluateParam write params.entries OrdMap.empty) := by
  apply rules.paramLoop
  · intro item mem
    exact rules.param covered (OrdMap.mem_entries.1 mem)
  · intro item mem value
    exact writes item.1 item.2 (OrdMap.mem_entries.1 mem) value

theorem assign (rules : CommandRules C permit texts) (covered : Covered permit texts command params)
    (is : commandName command = lit "ASSIGN") : C (Executor.assign (D := D) params) := by
  unfold Executor.assign
  refine rules.bind (rules.ownParams covered fun key text param value => ?_) fun _ => rules.pure _
  exact rules.sets _ _ _ (covered.sets _ _ (.assign is param))

theorem sensorOf_axis : ∀ axis ∈ positionKeys, sensorOf axis.1 = axis.2 := by decide

theorem moveTo (rules : CommandRules C permit texts) (covered : Covered permit texts command params)
    (is : commandName command = lit "MOVE_TO") : C (Executor.moveTo (D := D) params) := by
  unfold Executor.moveTo
  have axisOf : ∀ item ∈ axisParams params,
      params.find? item.1 = some item.2 ∧ ∃ sensor, (item.1, sensor) ∈ positionKeys := by
    intro item mem
    obtain ⟨⟨key, sensor⟩, axis, found⟩ := List.mem_filterMap.1 mem
    obtain ⟨text, param, same⟩ := Option.map_eq_some_iff.1 found
    rw [← same]
    exact ⟨param, sensor, axis⟩
  refine rules.bind (rules.paramLoop _ ?_ ?_ _) fun _ => rules.pure _
  · intro item mem
    exact rules.param covered (axisOf item mem).1
  · intro item mem value
    obtain ⟨param, sensor, axis⟩ := axisOf item mem
    rw [show sensorOf item.1 = sensor from sensorOf_axis _ axis]
    refine rules.bind (rules.sets _ _ _ (covered.sets _ _ (.axis is axis param))) fun _ => ?_
    exact rules.sets _ _ _ (covered.sets _ _ (.sensor is axis param))

theorem send (rules : CommandRules C permit texts) (covered : Covered permit texts command params)
    (sends : ∀ packet, C (writeMailbox packet)) : C (Executor.send (D := D) params) := by
  unfold Executor.send
  refine rules.bind (rules.ownParams covered fun _ _ _ _ => rules.pure _) fun packet => ?_
  exact rules.bind (sends packet) fun _ => rules.pure _

/-- Behind the packet, `RECEIVE` is a loop over its parameters and one more variable. -/
theorem received (rules : CommandRules C permit texts) (covered : Covered permit texts command params)
    (is : commandName command = lit "RECEIVE") :
    ∃ k, Executor.receive env params = readMailbox env >>= k ∧ ∀ packet, C (k packet) := by
  refine ⟨_, rfl, fun packet => ?_⟩
  refine rules.bind (rules.paramLoop _ ?_ ?_ _) fun outputs => ?_
  · intro item mem
    unfold receivedValue
    split
    · exact rules.pure _
    · exact rules.param covered (OrdMap.mem_entries.1 (List.mem_filter.1 mem).1)
  · intro item mem value
    obtain ⟨entry, other⟩ := List.mem_filter.1 mem
    exact rules.sets _ _ _ (covered.sets _ _ (.receive is (OrdMap.mem_entries.1 entry) (of_decide_eq_true other)))
  apply rules.ite
  · intro _
    exact rules.pure _
  · intro named
    refine rules.bind ?_ fun _ => rules.pure _
    cases param : params.find? resultTo with
    | none => exact absurd (by rw [param]; rfl) named
    | some name => exact rules.sets _ _ _ (covered.sets _ _ (.received is param))

theorem emitCommand (rules : CommandRules C permit texts) (covered : Covered permit texts command params)
    (is : commandName command = lit "EMIT_COMMAND") : C (Executor.emitCommand (D := D) params) := by
  unfold Executor.emitCommand
  refine rules.bind (rules.ownParams covered fun key text param value => ?_) fun _ => rules.pure _
  exact rules.sets _ _ _ (covered.sets _ _ (.emit is param))

theorem reportTarget (rules : CommandRules C permit texts) (covered : Covered permit texts command params)
    (is : commandName command = lit "REPORT_TARGET") : C (Executor.reportTarget (D := D) params) := by
  unfold Executor.reportTarget
  refine rules.bind (rules.sets _ _ _ (covered.sets _ _ (.targetReported is))) fun _ => ?_
  refine rules.bind (rules.ownParams covered fun key text param value => ?_) fun _ => rules.pure _
  exact rules.sets _ _ _ (covered.sets _ _ (.report is param))

theorem setvar (rules : CommandRules C permit texts) (covered : Covered permit texts command params)
    (is : occurs (lit "SETVAR") (commandName command) = true) : C (Executor.setvar (D := D) command) := by
  unfold Executor.setvar
  dsimp only
  split
  · exact rules.pure _
  · rename_i eqPos found
    apply rules.ite
    · intro _
      apply rules.ite
      · intro _
        exact rules.pure _
      · intro named
        have name : setvarName command eqPos ≠ [] := fun empty => named (List.isEmpty_iff.2 empty)
        refine rules.bind (rules.assigns _ (covered.texts _ (.setvar is found))) fun value => ?_
        exact rules.bind (rules.sets _ _ _ (covered.sets _ _ (.setvar is found name))) fun _ => rules.pure _
    · intro _
      exact rules.pure _

/-- The commands, in the order of the branches. -/
theorem executeBuiltinCommand (rules : CommandRules C permit texts) (covered : Covered permit texts command params)
    (receives : commandName command = lit "RECEIVE" → C (readMailbox env))
    (sends : commandName command = lit "SEND" → ∀ packet, C (writeMailbox packet)) :
    C (Executor.executeBuiltinCommand env command params) := by
  unfold Executor.executeBuiltinCommand
  change C (if commandName command = lit "NO_OP" then _ else _)
  apply rules.ite
  · intro _
    exact rules.pure _
  intro _
  apply rules.ite
  · exact rules.assign covered
  intro _
  apply rules.ite
  · exact rules.moveTo covered
  intro _
  apply rules.ite
  · intro is
    exact rules.send covered (sends is)
  intro _
  apply rules.ite
  · intro is
    obtain ⟨k, eq, rest⟩ := @received _ _ _ _ _ env _ _ rules covered is
    rw [eq]
    exact rules.bind (receives is) rest
  intro _
  apply rules.ite
  · exact rules.emitCommand covered
  intro _
  apply rules.ite
  · intro is
    exact rules.bind (rules.sets _ _ _ (covered.sets _ _ (.nextTask is))) fun _ => rules.pure _
  intro _
  apply rules.ite
  · exact rules.reportTarget covered
  intro _
  apply rules.ite
  · intro is
    exact rules.bind (rules.sets _ _ _ (covered.sets _ _ (.exit is))) fun _ => rules.pure _
  intro _
  apply rules.ite
  · exact rules.setvar covered
  · intro _
    exact rules.pure _

end Commands

end CommandRules

namespace StoreRules

variable [CxxDouble D] {C : {α : Type} → Exec D α → Prop} {permit : Permit} {texts : Str → Prop}

theorem toCommandRules (rules : StoreRules C permit texts) : CommandRules C permit texts := { rules with }

theorem ite (rules : StoreRules C permit texts) {α : Type} {c : Prop} [Decidable c] {x y : Exec D α} (yes : c → C x)
    (no : ¬c → C y) : C (if c then x else y) := rules.toCommandRules.ite yes no

section Commands

variable {env : Environment D} {command : Str} {params : StrMap}

theorem ownParams (rules : StoreRules C permit texts) (covered : Covered permit texts command params)
    {write : Str → VariableValue D → Exec D Unit}
    (writes : ∀ key text, params.find? key = some text → ∀ value, C (write key value)) :
    C (Executor.paramLoop evaluateParam write params.entries OrdMap.empty) :=
  rules.toCommandRules.ownParams covered writes

theorem received (rules : StoreRules C permit texts) (covered : Covered permit texts command params)
    (is : commandName command = lit "RECEIVE") :
    ∃ k, Executor.receive env params = readMailbox env >>= k ∧ ∀ packet, C (k packet) :=
  rules.toCommandRules.received covered is

theorem executeBuiltinCommand (rules : StoreRules C permit texts) (covered : Covered permit texts command params)
    (receives : commandName command = lit "RECEIVE" → C (readMailbox env))
    (sends : commandName command = lit "SEND" → ∀ packet, C (writeMailbox packet)) :
    C (Executor.executeBuiltinCommand env command params) :=
  rules.toCommandRules.executeBuiltinCommand covered receives sends

end Commands

/-! ### Entering and leaving a node -/

/-- The observations are writes too: each of them is one `set`. -/
theorem applyObservationValues (rules : StoreRules C permit texts) {data : NodeData}
    (within : ∀ name sensor, data.observation.find? name = some sensor → permit.sets name .loc) :
    C (modifyVm (Executor.applyObservationValues (D := D) data)) := by
  have loop : ∀ mappings : List (Str × Str), (∀ mapping ∈ mappings, permit.sets mapping.1 .loc) →
      C (modifyVm (D := D) fun vm => mappings.foldl
        (fun vm mapping => vm.set mapping.1 (observedValue vm mapping.1 mapping.2) .loc) vm) := by
    intro mappings
    induction mappings with
    | nil => exact fun _ => rules.pure ()
    | cons mapping mappings ih =>
      intro all
      have later := ih fun m mem => all m (List.mem_cons_of_mem _ mem)
      have first := fun value => rules.sets mapping.1 value .loc (all mapping List.mem_cons_self)
      exact rules.bind (rules.bind (rules.reads fun vm => observedValue vm mapping.1 mapping.2) first) fun _ => later
  refine loop data.observation.entries ?_
  intro mapping mem
  exact within mapping.1 mapping.2 (OrdMap.mem_entries.1 mem)

theorem enterNode (rules : StoreRules C permit texts) {env : Environment D} (polls : C (pollCancelled env))
    {data : NodeData} (within : ∀ name sensor, data.observation.find? name = some sensor → permit.sets name .loc) :
    C (Executor.enterNode env data) := by
  unfold Executor.enterNode
  refine rules.bind polls fun cancelled => ?_
  apply rules.ite
  · intro _
    exact rules.pure _
  intro _
  refine rules.bind (rules.applyObservationValues within) fun _ => ?_
  apply rules.ite
  · intro _
    exact rules.pure _
  intro _
  refine rules.bind (rules.reads _) fun constraintResult => ?_
  apply rules.ite
  · intro _
    exact rules.pure _
  · intro _
    exact rules.pure _

theorem executeCondition (rules : StoreRules C permit texts) (data : NodeData) :
    C (Executor.executeCondition (D := D) data) := by
  unfold Executor.executeCondition
  apply rules.ite
  · intro _
    exact rules.pure _
  · intro _
    refine rules.bind (rules.reads _) fun holds => ?_
    cases holds
    · exact rules.pure _
    · exact rules.pure _

theorem finishNode (rules : StoreRules C permit texts) (data : NodeData) (result : ExecutionResult D) :
    C (Executor.finishNode data result) := by
  unfold Executor.finishNode
  apply rules.ite
  · intro _
    exact rules.bind (rules.reads _) fun _ => rules.pure _
  · intro _
    exact rules.pure _

end StoreRules

/-! ### Nodes -/

namespace TreeRules

variable [CxxDouble D] {C : {α : Type} → Exec D α → Prop} {env : Environment D} {permit : Permit} {texts : Str → Prop}

theorem executeCommand (rules : TreeRules C env permit texts) {data : NodeData} {children nodes : List BehaviorNode}
    (runs : RunsCommand data) (within : Within permit (.mk data children :: nodes))
    (permits : Permits texts (.mk data children :: nodes)) :
    C (Executor.executeCommand env data.command data.params) := by
  unfold Executor.executeCommand
  apply rules.ite
  · intro _
    exact rules.pure _
  · intro _
    refine rules.executeBuiltinCommand ⟨within.allows runs, fun text evaluates => ?_⟩ (fun _ => rules.receives)
      fun _ => rules.sends
    exact permits _ List.mem_cons_self text ⟨runs, evaluates⟩

theorem enterNode (rules : TreeRules C env permit texts) {data : NodeData} {children nodes : List BehaviorNode}
    (within : Within permit (.mk data children :: nodes)) : C (Executor.enterNode env data) :=
  rules.toStoreRules.enterNode rules.polls fun name _ maps =>
    within.sets _ List.mem_cons_self name .loc (.observation maps)

/-- A node that runs its command does nothing with its children. -/
theorem commandNode (rules : TreeRules C env permit texts) {data : NodeData} {children nodes : List BehaviorNode}
    (runs : RunsCommand data) (within : Within permit (.mk data children :: nodes))
    (permits : Permits texts (.mk data children :: nodes)) : C (Executor.executeNode env (.mk data children)) := by
  unfold Executor.executeNode
  refine rules.bind (rules.enterNode within) fun failure? => ?_
  cases failure? with
  | some failure => exact rules.pure failure
  | none =>
    refine rules.bind ?_ fun result => rules.finishNode data result
    rcases runs with kind | kind
    · rw [kind]
      exact rules.executeCommand (Or.inl kind) within permits
    · rw [kind]
      exact rules.executeCommand (Or.inr kind) within permits

mutual

/-- By induction on the tree. -/
theorem executeNode (rules : TreeRules C env permit texts) :
    ∀ node, Within permit node.subnodes → Permits texts node.subnodes → C (Executor.executeNode env node)
  | .mk data children, within, permits => by
    have below : Permits texts (BehaviorNode.subnodesOf children) :=
      fun node mem => permits node (List.mem_cons_of_mem _ mem)
    unfold Executor.executeNode
    refine rules.bind (rules.enterNode within) fun failure? => ?_
    cases failure? with
    | some failure => exact rules.pure failure
    | none =>
      refine rules.bind ?_ fun result => rules.finishNode data result
      cases kind : data.type with
      | action => exact rules.executeCommand (Or.inl kind) within permits
      | condition => exact rules.executeCondition data
      | sequence => exact rules.executeSequence children _ within.children below
      | selector => exact rules.executeSelector data.name children within.children below
      | parallel => exact rules.executeParallel children _ _ within.children below
      | subtree => exact rules.executeCommand (Or.inr kind) within permits

theorem executeSequence (rules : TreeRules C env permit texts) :
    ∀ children outputs, Within permit (BehaviorNode.subnodesOf children) →
      Permits texts (BehaviorNode.subnodesOf children) → C (Executor.executeSequence env children outputs)
  | [], outputs, _, _ => by
    unfold Executor.executeSequence
    exact rules.pure _
  | child :: children, outputs, within, permits => by
    unfold Executor.executeSequence
    refine rules.bind (rules.executeNode child within.append.1 permits.append.1) fun result => ?_
    apply rules.ite
    · intro _
      exact rules.executeSequence children _ within.append.2 permits.append.2
    · intro _
      exact rules.pure _

theorem executeSelector (rules : TreeRules C env permit texts) (name : Str) :
    ∀ children, Within permit (BehaviorNode.subnodesOf children) → Permits texts (BehaviorNode.subnodesOf children) →
      C (Executor.executeSelector env name children)
  | [], _, _ => by
    unfold Executor.executeSelector
    exact rules.pure _
  | child :: children, within, permits => by
    unfold Executor.executeSelector
    refine rules.bind (rules.executeNode child within.append.1 permits.append.1) fun result => ?_
    apply rules.ite
    · intro _
      exact rules.pure _
    · intro _
      exact rules.executeSelector name children within.append.2 permits.append.2

theorem executeParallel (rules : TreeRules C env permit texts) :
    ∀ children firstFailed outputs, Within permit (BehaviorNode.subnodesOf children) →
      Permits texts (BehaviorNode.subnodesOf children) → C (Executor.executeParallel env children firstFailed outputs)
  | [], none, _, _, _ => by
    unfold Executor.executeParallel
    exact rules.pure _
  | [], some _, _, _, _ => by
    unfold Executor.executeParallel
    exact rules.pure _
  | child :: children, firstFailed, outputs, within, permits => by
    unfold Executor.executeParallel
    refine rules.bind (rules.executeNode child within.append.1 permits.append.1) fun result => ?_
    apply rules.ite
    · intro _
      exact rules.executeParallel children _ _ within.append.2 permits.append.2
    · intro _
      exact rules.executeParallel children _ _ within.append.2 permits.append.2

end

end TreeRules

end Actuator.Executor
