import Actuator.Executor.Fallback
import Actuator.Executor.GlobalFrame
import Actuator.Executor.Mentions
import Actuator.Executor.SharedMailbox

/-!
# What a task depends on

Two runs of the same task, on different variables and beside different other
executors. As far as the GLOBAL variables agree under the names that occur in
the tree, and the mailbox if the tree receives, both runs return the same and
write the same (`executeTaskInternal_depends`): what earlier tasks left under
other names, and what other satellites do meanwhile, makes no difference.
-/

namespace Actuator.Executor

open Actuator.Lib Actuator.Core Actuator.Parser
open Actuator.Lib.Effect

variable {D : Type} [CxxDouble D]

/-! ## Two runs of a tree -/

/-- What a node does without its children is matched in the two environments. -/
structure NodeMatches (R : ExecState D → ExecState D → Prop) (env env' : Environment D) (data : NodeData) : Prop where
  enters : Matches R (enterNode env data) (enterNode env' data)
  command : RunsCommand data →
    Matches R (executeCommand env data.command data.params) (executeCommand env' data.command data.params)
  condition : Respects R (executeCondition data)
  finishes : ∀ result, Respects R (finishNode data result)

section Trees

variable {R : ExecState D → ExecState D → Prop} {env env' : Environment D}

mutual

/-- By induction on the tree. -/
theorem matches_executeNode : ∀ node : BehaviorNode, (∀ sub ∈ node.subnodes, NodeMatches R env env' sub.data) →
    Matches R (executeNode env node) (executeNode env' node)
  | .mk data children, nodes => by
    have own : NodeMatches R env env' data := nodes _ List.mem_cons_self
    have below : ∀ sub ∈ BehaviorNode.subnodesOf children, NodeMatches R env env' sub.data :=
      fun sub mem => nodes sub (List.mem_cons_of_mem _ mem)
    unfold executeNode
    refine own.enters.bind fun failure? => ?_
    cases failure? with
    | some failure => exact (respects_pure failure).matches
    | none =>
      refine Matches.bind ?_ fun result => (own.finishes result).matches
      cases kind : data.type with
      | action => exact own.command (.inl kind)
      | condition => exact own.condition.matches
      | sequence => exact matches_executeSequence children _ below
      | selector => exact matches_executeSelector data.name children below
      | parallel => exact matches_executeParallel children _ _ below
      | subtree => exact own.command (.inr kind)

theorem matches_executeSequence : ∀ (children : List BehaviorNode) (outputs : VarMap D),
    (∀ sub ∈ BehaviorNode.subnodesOf children, NodeMatches R env env' sub.data) →
    Matches R (executeSequence env children outputs) (executeSequence env' children outputs)
  | [], outputs, _ => by
    unfold executeSequence
    exact (respects_pure _).matches
  | child :: children, outputs, nodes => by
    unfold executeSequence
    have later := fun outputs => matches_executeSequence children outputs fun sub mem =>
      nodes sub (List.mem_append_right _ mem)
    refine (matches_executeNode child fun sub mem => nodes sub (List.mem_append_left _ mem)).bind fun result => ?_
    split
    · exact later _
    · exact (respects_pure _).matches

theorem matches_executeSelector (name : Str) : ∀ children : List BehaviorNode,
    (∀ sub ∈ BehaviorNode.subnodesOf children, NodeMatches R env env' sub.data) →
    Matches R (executeSelector env name children) (executeSelector env' name children)
  | [], _ => by
    unfold executeSelector
    exact (respects_pure _).matches
  | child :: children, nodes => by
    unfold executeSelector
    have later := matches_executeSelector name children fun sub mem => nodes sub (List.mem_append_right _ mem)
    refine (matches_executeNode child fun sub mem => nodes sub (List.mem_append_left _ mem)).bind fun result => ?_
    split
    · exact (respects_pure _).matches
    · exact later

theorem matches_executeParallel : ∀ (children : List BehaviorNode) (firstFailed : Option Str) (outputs : VarMap D),
    (∀ sub ∈ BehaviorNode.subnodesOf children, NodeMatches R env env' sub.data) →
    Matches R (executeParallel env children firstFailed outputs) (executeParallel env' children firstFailed outputs)
  | [], none, outputs, _ => by
    unfold executeParallel
    exact (respects_pure _).matches
  | [], some _, outputs, _ => by
    unfold executeParallel
    exact (respects_pure _).matches
  | child :: children, firstFailed, outputs, nodes => by
    unfold executeParallel
    have later := fun firstFailed outputs => matches_executeParallel children firstFailed outputs fun sub mem =>
      nodes sub (List.mem_append_right _ mem)
    refine (matches_executeNode child fun sub mem => nodes sub (List.mem_append_left _ mem)).bind fun result => ?_
    split
    · exact later _ _
    · exact later _ _

end

end Trees

/-! ## The names in a tree -/

/-- The names that a node may look up. -/
inductive NodeMentions (data : NodeData) : Str → Prop
  | expression {name : Str} (inside : name <:+: data.expression) : NodeMentions data name
  | text {text name : Str} (evaluates : NodeText data text) (inside : name <:+: text) : NodeMentions data name
  | output {key text : Str} (param : data.params.find? key = some text) : NodeMentions data key
  | observed {name sensor : Str} (maps : data.observation.find? name = some sensor) : NodeMentions data name
  | sensor {name sensor : Str} (maps : data.observation.find? name = some sensor) : NodeMentions data sensor
  | aliased {name sensor other : Str} (maps : data.observation.find? name = some sensor)
    (named : observationAlias sensor = other) : NodeMentions data other

/-- The nodes that a task runs. -/
def taskNodes (task : TaskSegment) (behavior : BehaviorNode) : List BehaviorNode :=
  BehaviorNode.subnodesOf (instantiate behavior task.behaviorParams)

/-- The name occurs in the tree of the task. -/
def Mentions (task : TaskSegment) (behavior : BehaviorNode) (name : Str) : Prop :=
  ∃ node ∈ taskNodes task behavior, NodeMentions node.data name

/-- The tree of the task has a node that looks into the mailbox. -/
def Listens (task : TaskSegment) (behavior : BehaviorNode) : Prop :=
  ∃ node ∈ taskNodes task behavior, RunsCommand node.data ∧ commandName node.data.command = lit "RECEIVE"

instance decidableListens (task : TaskSegment) (behavior : BehaviorNode) : Decidable (Listens task behavior) := by
  unfold Listens
  infer_instance

/-! ## States of the two runs -/

/-- The GLOBAL variables are the same in both runs, or as they were when the runs started and not among the names. -/
structure Related (names : Str → Prop) (listens : Prop) (start start' s t : ExecState D) : Prop where
  localVars : s.vm.localVars = t.vm.localVars
  intermediateVars : s.vm.intermediateVars = t.vm.intermediateVars
  globalVars : ∀ name, s.vm.globalVars.find? name = t.vm.globalVars.find? name ∨ ¬names name ∧
    s.vm.globalVars.find? name = start.vm.globalVars.find? name ∧
      t.vm.globalVars.find? name = start'.vm.globalVars.find? name
  snapshots : s.vm.snapshots = start.vm.snapshots ∧ t.vm.snapshots = start'.vm.snapshots
  mailbox : listens → s.mailbox = t.mailbox ∧ s.accesses = t.accesses

namespace Related

variable {names : Str → Prop} {listens : Prop} {start start' s t : ExecState D}

omit [CxxDouble D] in
theorem lookup (related : Related names listens start start' s t) {name : Str} (named : names name) :
    s.vm.lookup name = t.vm.lookup name := by
  have global : s.vm.globalVars.find? name = t.vm.globalVars.find? name := by
    rcases related.globalVars name with same | ⟨other, _⟩
    · exact same
    · exact absurd named other
  unfold VariableManager.lookup
  rw [related.localVars, related.intermediateVars, global]

omit [CxxDouble D] in
theorem agreesOn (related : Related names listens start start' s t) {text : Str}
    (named : ∀ name, name <:+: text → names name) : AgreesOn text s.vm t.vm :=
  fun name inside => related.lookup (named name inside)

omit [CxxDouble D] in
/-- Setting a variable in both runs. -/
theorem set (related : Related names listens start start' s t) (name : Str) (value : VariableValue D) (scope : Scope) :
    Related names listens start start' { s with vm := s.vm.set name value scope }
      { t with vm := t.vm.set name value scope } := by
  cases scope with
  | loc => exact { related with localVars := congrArg (fun m : VarMap D => m.insert name value) related.localVars }
  | intermediate =>
    exact { related with intermediateVars := congrArg (fun m : VarMap D => m.insert name value) related.intermediateVars }
  | global =>
    refine { related with globalVars := fun other => ?_ }
    show (s.vm.globalVars.insert name value).find? other = (t.vm.globalVars.insert name value).find? other ∨ _ ∧
      (s.vm.globalVars.insert name value).find? other = _ ∧ (t.vm.globalVars.insert name value).find? other = _
    by_cases same : other = name
    · subst same
      exact .inl (by rw [OrdMap.find?_insert_self, OrdMap.find?_insert_self])
    · rw [OrdMap.find?_insert_of_ne _ _ same, OrdMap.find?_insert_of_ne _ _ same]
      exact related.globalVars other

end Related

section Rules

variable {names : Str → Prop} {listens : Prop} {start start' : ExecState D}

omit [CxxDouble D] in
theorem respects_set (name : Str) (value : VariableValue D) (scope : Scope) :
    Respects (Related names listens start start') (setVariable name value scope) :=
  fun _ _ related => ⟨rfl, related.set name value scope⟩

/-- The texts in which only the names occur. -/
def Covers (names : Str → Prop) (text : Str) : Prop := ∀ name, name <:+: text → names name

theorem related_rules : CommandRules (D := D) (Respects (Related names listens start start')) .all (Covers names) where
  pure := respects_pure
  bind := Respects.bind
  sets name value scope _ := respects_set name value scope
  evaluates key text _ covers s t related := by
    refine ⟨evaluateValueExpression_congr (related.agreesOn covers), ?_⟩
    exact { related with }
  assigns text covers := respects_readThrowing fun s t related => evaluateValueExpression_congr (related.agreesOn covers)

variable {env env' : Environment D}

omit [CxxDouble D] in
/-- Without a cancellation, and with the same packets from others, two environments are the same. -/
theorem environment_eq (uncancelled : env.Uncancelled) (uncancelled' : env'.Uncancelled)
    (same : env.arrival = env'.arrival) : env = env' := by
  obtain ⟨cancelled, arrival⟩ := env
  obtain ⟨cancelled', arrival'⟩ := env'
  obtain rfl : cancelled = cancelled' := funext fun n => (uncancelled n).trans (uncancelled' n).symm
  obtain rfl : arrival = arrival' := same
  rfl

/-- Only `RECEIVE` depends on the environment. -/
theorem executeBuiltinCommand_env {command : Str} (other : commandName command ≠ lit "RECEIVE") (params : StrMap) :
    executeBuiltinCommand env command params = executeBuiltinCommand env' command params := by
  unfold executeBuiltinCommand
  have differs : (trim command).map toUpper ≠ lit "RECEIVE" := other
  simp only [if_neg differs]

theorem matches_executeCommand (uncancelled : env.Uncancelled) (uncancelled' : env'.Uncancelled)
    (heard : listens → env.arrival = env'.arrival) {command : Str} {params : StrMap}
    (receives : commandName command = lit "RECEIVE" → listens)
    (covers : ∀ text, CommandText command params text → Covers names text) :
    Matches (Related names listens start start') (executeCommand env command params)
      (executeCommand env' command params) := by
  have covered : Covered .all (Covers names) command params := .all covers
  have sends : ∀ packet : VarMap D, Respects (Related names listens start start') (writeMailbox packet) := by
    intro packet s t related
    refine ⟨rfl, { related with mailbox := fun hears => ?_ }⟩
    exact ⟨rfl, congrArg (· + 1) (related.mailbox hears).2⟩
  unfold executeCommand
  split
  · exact (respects_pure _).matches
  by_cases is : commandName command = lit "RECEIVE"
  · obtain rfl := environment_eq uncancelled uncancelled' (heard (receives is))
    refine (related_rules.executeBuiltinCommand covered (fun _ s t related => ?_) fun _ => sends).matches
    obtain ⟨packet, accesses⟩ := related.mailbox (receives is)
    have held : (env.arrival s.accesses).getD s.mailbox = (env.arrival t.accesses).getD t.mailbox := by
      rw [packet, accesses]
    exact ⟨congrArg Except.ok held, { related with mailbox := fun _ => ⟨held, congrArg (· + 1) accesses⟩ }⟩
  · have same : executeBuiltinCommand env command params = executeBuiltinCommand env' command params :=
      executeBuiltinCommand_env is params
    rw [same]
    exact (related_rules.executeBuiltinCommand covered (fun receive => absurd receive is) fun _ => sends).matches

/-! ### Entering and leaving a node -/

theorem respects_applyObservationValues {data : NodeData} (named : ∀ name, NodeMentions data name → names name) :
    Respects (Related names listens start start') (modifyVm (applyObservationValues (D := D) data)) := by
  have loop : ∀ mappings : List (Str × Str), (∀ mapping ∈ mappings, data.observation.find? mapping.1 = some mapping.2) →
      Respects (Related names listens start start') (modifyVm (D := D) fun vm => mappings.foldl
        (fun vm mapping => vm.set mapping.1 (observedValue vm mapping.1 mapping.2) .loc) vm) := by
    intro mappings
    induction mappings with
    | nil => exact fun _ => respects_pure ()
    | cons mapping mappings ih =>
      intro all
      have maps := all mapping List.mem_cons_self
      have found : ∀ s t, Related names listens start start' s t →
          observedValue s.vm mapping.1 mapping.2 = observedValue t.vm mapping.1 mapping.2 := by
        intro s t related
        have own := related.lookup (named _ (.observed maps))
        have sensor := related.lookup (named _ (.sensor maps))
        have other := related.lookup (named _ (.aliased maps rfl))
        simp only [observedValue, own, sensor, other]
      have first : Respects (Related names listens start start')
          (readVm fun vm => observedValue (D := D) vm mapping.1 mapping.2) := respects_read found
      exact (first.bind fun value => respects_set mapping.1 value .loc).bind fun _ =>
        ih fun m mem => all m (List.mem_cons_of_mem _ mem)
  exact loop data.observation.entries fun mapping mem => OrdMap.mem_entries.1 mem

theorem matches_enterNode (uncancelled : env.Uncancelled) (uncancelled' : env'.Uncancelled) {data : NodeData}
    (named : ∀ name, NodeMentions data name → names name) :
    Matches (Related names listens start start') (enterNode env data) (enterNode env' data) := by
  have polls : Matches (Related names listens start start') (pollCancelled env) (pollCancelled env') := by
    intro s t related
    refine ⟨?_, { related with }⟩
    exact congrArg Except.ok ((uncancelled s.polls).trans (uncancelled' t.polls).symm)
  unfold enterNode
  refine polls.bind fun cancelled => ?_
  split
  · exact (respects_pure _).matches
  refine ((respects_applyObservationValues named).matches).bind fun _ => ?_
  split
  · exact (respects_pure _).matches
  refine (respects_read fun s t related => ?_).matches.bind fun constraintResult => ?_
  · exact (related.agreesOn fun name inside => named name (.expression inside)).evaluateDetailed
  split
  · exact (respects_pure _).matches
  · exact (respects_pure _).matches

theorem respects_executeCondition {data : NodeData} (named : ∀ name, NodeMentions data name → names name) :
    Respects (Related names listens start start') (executeCondition (D := D) data) := by
  unfold executeCondition
  split
  · exact respects_pure _
  refine (respects_read fun s t related => ?_).bind fun holds => ?_
  · exact (related.agreesOn fun name inside => named name (.expression inside)).evaluate
  cases holds
  · exact respects_pure _
  · exact respects_pure _

omit [CxxDouble D] in
theorem respects_finishNode {data : NodeData} (named : ∀ name, NodeMentions data name → names name)
    (result : ExecutionResult D) : Respects (Related names listens start start') (finishNode data result) := by
  have appended : ∀ s t, Related names listens start start' s t → ∀ (params : List (Str × Str)) (outputs : VarMap D),
      (∀ param ∈ params, data.params.find? param.1 = some param.2) →
      params.foldl (appendParam data.name s.vm) outputs = params.foldl (appendParam data.name t.vm) outputs := by
    intro s t related params
    induction params with
    | nil => exact fun _ _ => rfl
    | cons param params ih =>
      intro outputs all
      have own := related.lookup (named _ (.output (all param List.mem_cons_self)))
      have first : appendParam data.name s.vm outputs param = appendParam data.name t.vm outputs param := by
        simp only [appendParam, own]
      rw [List.foldl_cons, List.foldl_cons, first]
      exact ih _ fun later mem => all later (List.mem_cons_of_mem _ mem)
  unfold finishNode
  split
  · refine (respects_read fun s t related => ?_).bind fun _ => respects_pure _
    exact appended s t related _ _ fun param mem => OrdMap.mem_entries.1 mem
  · exact respects_pure _

theorem nodeMatches_related (uncancelled : env.Uncancelled) (uncancelled' : env'.Uncancelled)
    (heard : listens → env.arrival = env'.arrival) {data : NodeData}
    (named : ∀ name, NodeMentions data name → names name)
    (receives : RunsCommand data → commandName data.command = lit "RECEIVE" → listens) :
    NodeMatches (Related names listens start start') env env' data where
  enters := matches_enterNode uncancelled uncancelled' named
  command runs := matches_executeCommand uncancelled uncancelled' heard (receives runs) fun _ evaluates name inside =>
    named name (.text ⟨runs, evaluates⟩ inside)
  condition := respects_executeCondition named
  finishes := respects_finishNode named

end Rules

/-! ## Tasks -/

/-- What two runs of a task have in common when they start. The task sets its identifiers itself. -/
structure Agree (task : TaskSegment) (behavior : BehaviorNode) (env env' : Environment D) (s t : ExecState D) :
    Prop where
  uncancelled : env.Uncancelled
  uncancelled' : env'.Uncancelled
  globalVars : ∀ name, Mentions task behavior name → name ∉ identifierKeys →
    s.vm.globalVars.find? name = t.vm.globalVars.find? name
  mailbox : Listens task behavior → env.arrival = env'.arrival ∧ s.mailbox = t.mailbox ∧ s.accesses = t.accesses

omit [CxxDouble D] in
theorem find?_announced_or (task : TaskSegment) (globalVars : VarMap D) (name : Str) :
    (announced task globalVars).find? name =
      ((announced task OrdMap.empty).find? name).or (globalVars.find? name) := by
  unfold announced
  simp only [OrdMap.find?_insert]
  split_ifs <;> simp

omit [CxxDouble D] in
theorem not_mem_identifierKeys {task : TaskSegment} {name : Str}
    (other : (announced task (OrdMap.empty : VarMap D)).find? name = none) : name ∉ identifierKeys := by
  intro identifier
  simp only [identifierKeys, List.mem_cons, List.not_mem_nil, or_false] at identifier
  unfold announced at other
  simp only [OrdMap.find?_insert] at other
  split_ifs at other
  tauto

theorem startState_localVars (task : TaskSegment) (s t : ExecState D) :
    (startState task s).vm.localVars = (startState task t).vm.localVars := by
  apply OrdMap.ext_find?
  intro name
  show (VariableManager.setFromParams _ _ _).localVars.find? name = (VariableManager.setFromParams _ _ _).localVars.find? name
  rw [VariableManager.find?_setFromParams_or, VariableManager.find?_setFromParams_or]
  rfl

theorem startState_intermediateVars (task : TaskSegment) (s : ExecState D) :
    (startState task s).vm.intermediateVars = OrdMap.empty :=
  VariableManager.setFromParams_keeps (·.intermediateVars) (fun _ _ _ => rfl) _ _

/-- The snapshot of a task brings back the maps it started with. -/
theorem restored_vm {task : TaskSegment} {start s : ExecState D}
    (kept : s.vm.snapshots = (startState task start).vm.snapshots) :
    (s.vm.restoreSnapshot (startSnapshot task start)).2 = { s.vm with
      globalVars := (startState task start).vm.globalVars, localVars := (startState task start).vm.localVars
      intermediateVars := (startState task start).vm.intermediateVars } := by
  have held := VariableManager.find?_createSnapshot (initializeTaskContext task start.vm)
  change (startState task start).vm.snapshots.find? (startSnapshot task start) = _ at held
  rw [← kept] at held
  exact VariableManager.restoreSnapshot_of_find? held

section Tasks

variable {task : TaskSegment} {behavior : BehaviorNode} {env env' : Environment D} {s t : ExecState D}

/-- The states of two runs of the task. -/
abbrev Companions (task : TaskSegment) (behavior : BehaviorNode) (s t : ExecState D) : ExecState D → ExecState D → Prop :=
  Related (Mentions task behavior) (Listens task behavior) (startState task s) (startState task t)

theorem Agree.started (agree : Agree task behavior env env' s t) :
    Companions task behavior s t (startState task s) (startState task t) where
  localVars := startState_localVars task s t
  intermediateVars := (startState_intermediateVars task s).trans (startState_intermediateVars task t).symm
  globalVars name := by
    by_cases named : Mentions task behavior name
    · refine .inl ?_
      show (initializeTaskContext task s.vm).globalVars.find? name = (initializeTaskContext task t.vm).globalVars.find? name
      rw [initializeTaskContext_globalVars, initializeTaskContext_globalVars, find?_announced_or task s.vm.globalVars,
        find?_announced_or task t.vm.globalVars]
      cases identifier : (announced task (OrdMap.empty : VarMap D)).find? name with
      | some value => rfl
      | none => exact agree.globalVars name named (not_mem_identifierKeys identifier)
    · exact .inr ⟨named, rfl, rfl⟩
  snapshots := ⟨rfl, rfl⟩
  mailbox hears := (agree.mailbox hears).2

/-- Both runs are rolled back to where they started. -/
theorem Agree.restored (agree : Agree task behavior env env' s t) {s' t' : ExecState D}
    (related : Companions task behavior s t s' t') :
    Companions task behavior s t { s' with vm := (s'.vm.restoreSnapshot (startSnapshot task s)).2 }
      { t' with vm := (t'.vm.restoreSnapshot (startSnapshot task t)).2 } := by
  rw [restored_vm related.snapshots.1, restored_vm related.snapshots.2]
  exact { agree.started with snapshots := related.snapshots, mailbox := related.mailbox }

/-- The nodes of the task do the same in both runs. -/
theorem Agree.nodeMatches (agree : Agree task behavior env env' s t) {node : BehaviorNode}
    (inside : node ∈ taskNodes task behavior) : NodeMatches (Companions task behavior s t) env env' node.data :=
  nodeMatches_related agree.uncancelled agree.uncancelled' (fun hears => (agree.mailbox hears).1)
    (fun _ mentions => ⟨node, inside, mentions⟩) fun runs is => ⟨node, inside, runs, is⟩

theorem Agree.matches_runNodes (agree : Agree task behavior env env' s t) (cfg : ExecutorConfig)
    (nodes : List BehaviorNode) (within : ∀ node ∈ BehaviorNode.subnodesOf nodes, node ∈ taskNodes task behavior)
    (outputs : VarMap D) :
    Matches (Companions task behavior s t) (runNodes cfg env (startSnapshot task s) nodes outputs)
      (runNodes cfg env' (startSnapshot task t) nodes outputs) := by
  induction nodes generalizing outputs with
  | nil => exact (respects_pure _).matches
  | cons node nodes ih =>
    have polls : Matches (Companions task behavior s t) (pollCancelled env) (pollCancelled env') := by
      intro s₁ t₁ related
      refine ⟨?_, { related with }⟩
      exact congrArg Except.ok ((agree.uncancelled s₁.polls).trans (agree.uncancelled' t₁.polls).symm)
    have executes := matches_executeNode node fun sub mem =>
      agree.nodeMatches (within sub (List.mem_append_left _ mem))
    unfold runNodes
    refine polls.bind fun cancelled => ?_
    split
    · exact (respects_pure _).matches
    refine executes.bind fun nodeResult => ?_
    split
    · exact ih (fun sub mem => within sub (List.mem_append_right _ mem)) _
    split
    · refine Matches.bind ?_ fun _ => (respects_pure _).matches
      exact fun _ _ related => ⟨rfl, agree.restored related⟩
    · exact (respects_pure _).matches

/-! ### The variables before the first node -/

section Defaults

variable {names : Str → Prop} {listens : Prop} {start start' : ExecState D}

theorem Related.setFromParams (related : Related names listens start start' s t) (params : StrMap) (scope : Scope) :
    Related names listens start start' { s with vm := s.vm.setFromParams params scope }
      { t with vm := t.vm.setFromParams params scope } := by
  have loop : ∀ (pairs : List (Str × Str)) {s t : ExecState D}, Related names listens start start' s t →
      Related names listens start start'
        { s with vm := pairs.foldl (fun vm pair => vm.set pair.1 (VariableManager.valueOfParam pair.2) scope) s.vm }
        { t with vm := pairs.foldl (fun vm pair => vm.set pair.1 (VariableManager.valueOfParam pair.2) scope) t.vm } := by
    intro pairs
    induction pairs with
    | nil => exact id
    | cons pair pairs ih => exact fun related => ih (related.set pair.1 _ scope)
  exact loop params.entries related

mutual

/-- By induction on the tree. -/
theorem Related.initializeBehaviorDefaults : ∀ (node : BehaviorNode) {s t : ExecState D},
    Related names listens start start' s t → Related names listens start start'
      { s with vm := Executor.initializeBehaviorDefaults node s.vm }
      { t with vm := Executor.initializeBehaviorDefaults node t.vm }
  | .mk data children, s, t, related => by
    unfold Executor.initializeBehaviorDefaults
    exact Related.initializeAllDefaults children
      ((related.setFromParams data.variableInits .loc).setFromParams data.constants .loc)

theorem Related.initializeAllDefaults : ∀ (nodes : List BehaviorNode) {s t : ExecState D},
    Related names listens start start' s t → Related names listens start start'
      { s with vm := Executor.initializeAllDefaults nodes s.vm }
      { t with vm := Executor.initializeAllDefaults nodes t.vm }
  | [], s, t, related => by
    unfold Executor.initializeAllDefaults
    exact related
  | node :: nodes, s, t, related => by
    unfold Executor.initializeAllDefaults
    exact Related.initializeAllDefaults nodes (Related.initializeBehaviorDefaults node related)

end

end Defaults

theorem Agree.matches_runTask (agree : Agree task behavior env env' s t) (cfg : ExecutorConfig) :
    Matches (Companions task behavior s t) (runTask cfg env task behavior (startSnapshot task s))
      (runTask cfg env' task behavior (startSnapshot task t)) := by
  have defaults : Respects (Companions task behavior s t)
      (modifyVm (D := D) (initializeAllDefaults (instantiate behavior task.behaviorParams))) :=
    fun _ _ related => ⟨rfl, related.initializeAllDefaults _⟩
  have params : Respects (Companions task behavior s t)
      (modifyVm (D := D) fun vm => vm.setFromParams task.behaviorParams .loc) :=
    fun _ _ related => ⟨rfl, related.setFromParams task.behaviorParams .loc⟩
  unfold runTask
  exact defaults.matches.bind fun _ => params.matches.bind fun _ =>
    agree.matches_runNodes cfg _ (fun _ inside => inside) _

/-- What the runs leave in GLOBAL. -/
theorem Related.leaves {names : Str → Prop} {listens : Prop} {s' t' : ExecState D}
    (related : Related names listens (startState task s) (startState task t) s' t') (name : Str) :
    s'.vm.globalVars.find? name = t'.vm.globalVars.find? name ∨
      s'.vm.globalVars.find? name = s.vm.globalVars.find? name ∧
        t'.vm.globalVars.find? name = t.vm.globalVars.find? name := by
  rcases related.globalVars name with same | ⟨_, kept, kept'⟩
  · exact .inl same
  · change _ = (initializeTaskContext task s.vm).globalVars.find? name at kept
    change _ = (initializeTaskContext task t.vm).globalVars.find? name at kept'
    rw [initializeTaskContext_globalVars, find?_announced_or] at kept kept'
    cases identifier : (announced task (OrdMap.empty : VarMap D)).find? name with
    | some value => exact .inl (by rw [kept, kept', identifier]; rfl)
    | none =>
      rw [identifier] at kept kept'
      exact .inr ⟨kept, kept'⟩

/-- Both runs return the same. -/
theorem Agree.outcome (agree : Agree task behavior env env' s t) (cfg : ExecutorConfig) (elapsedMs elapsedMs' : Int) :
    ∃ (result : ExecutionResult D) (s' t' : ExecState D),
      executeTaskInternal cfg env task behavior elapsedMs s = (.ok { result with executionTimeMs := elapsedMs }, s') ∧
      executeTaskInternal cfg env' task behavior elapsedMs' t = (.ok { result with executionTimeMs := elapsedMs' }, t') ∧
      (∀ name, s'.vm.globalVars.find? name = t'.vm.globalVars.find? name ∨
        s'.vm.globalVars.find? name = s.vm.globalVars.find? name ∧
          t'.vm.globalVars.find? name = t.vm.globalVars.find? name) ∧
      (Listens task behavior → s'.mailbox = t'.mailbox ∧ s'.accesses = t'.accesses) := by
  have both := agree.matches_runTask cfg _ _ agree.started
  rw [executeTaskInternal_run, executeTaskInternal_run]
  rcases run : runTask cfg env task behavior (startSnapshot task s) (startState task s) with ⟨outcome, s'⟩
  rcases run' : runTask cfg env' task behavior (startSnapshot task t) (startState task t) with ⟨outcome', t'⟩
  rw [run, run'] at both
  obtain ⟨same, related⟩ := both
  obtain rfl : outcome = outcome' := same
  cases outcome with
  | ok result => exact ⟨result, _, _, rfl, rfl, related.leaves, related.mailbox⟩
  | error what =>
    have restored := agree.restored related
    exact ⟨_, _, _, rfl, rfl, restored.leaves, restored.mailbox⟩

/-- A task depends on the GLOBAL variables that occur in its tree, on the mailbox if it receives, and on nothing else.
Runs that start alike in these return the same, and under each name they leave the same in GLOBAL or what was there. -/
theorem executeTaskInternal_depends (cfg : ExecutorConfig) (task : TaskSegment) (behavior : BehaviorNode)
    {env env' : Environment D} {s t : ExecState D} (agree : Agree task behavior env env' s t)
    (elapsedMs elapsedMs' : Int) :
    ∃ (result : ExecutionResult D) (s' t' : ExecState D),
      executeTaskInternal cfg env task behavior elapsedMs s = (.ok { result with executionTimeMs := elapsedMs }, s') ∧
      executeTaskInternal cfg env' task behavior elapsedMs' t = (.ok { result with executionTimeMs := elapsedMs' }, t') ∧
      (∀ name, s'.vm.globalVars.find? name = t'.vm.globalVars.find? name ∨
        s'.vm.globalVars.find? name = s.vm.globalVars.find? name ∧
          t'.vm.globalVars.find? name = t.vm.globalVars.find? name) ∧
      (Listens task behavior → s'.mailbox = t'.mailbox ∧ s'.accesses = t'.accesses) :=
  agree.outcome cfg elapsedMs elapsedMs'

end Tasks

/-- A tree of one node, which assigns a GLOBAL variable. -/
def markTree : BehaviorNode := .mk { name := lit "Mark", type := .action, command := lit "SETVAR mode = 1" } []

/-- Another executor that sends before every look into the mailbox. -/
def busyEnvironment : Environment FixedPoint := { cancelled := fun _ => false, arrival := fun _ => some sentPacket }

/-- A variable of an earlier task, whose name the tree does not mention. -/
theorem markTree_mentions : ¬Mentions plainTask markTree (lit "leftover") := by
  rintro ⟨node, inside, mentions⟩
  obtain rfl : node = markTree := List.mem_singleton.1 inside
  cases mentions with
  | expression inside => exact absurd inside (by decide)
  | text evaluates inside =>
    cases evaluates.2 with
    | param found => cases found
    | setvar is assigns =>
      obtain rfl := Option.some.inj assigns
      exact absurd inside (by decide)
  | output found => cases found
  | observed maps => cases maps
  | sensor maps => cases maps
  | aliased maps named => cases maps

theorem executeTaskInternal_depends_sample :
    ∃ (result : ExecutionResult FixedPoint) (s' t' : ExecState FixedPoint),
      executeTaskInternal {} (.quiet : Environment FixedPoint) plainTask markTree 3 {} =
        (.ok { result with executionTimeMs := 3 }, s') ∧
      executeTaskInternal {} busyEnvironment plainTask markTree 5
        { vm := ({} : VariableManager FixedPoint).set (lit "leftover") (.int 7) .global, mailbox := sentPacket } =
          (.ok { result with executionTimeMs := 5 }, t') ∧
      s'.vm.globalVars.find? (lit "mode") = t'.vm.globalVars.find? (lit "mode") := by
  have agree : Agree plainTask markTree (.quiet : Environment FixedPoint) busyEnvironment {}
      { vm := ({} : VariableManager FixedPoint).set (lit "leftover") (.int 7) .global, mailbox := sentPacket } := by
    refine ⟨fun _ => rfl, fun _ => rfl, fun name mentioned _ => ?_, fun hears => ?_⟩
    · have differs : name ≠ lit "leftover" := by
        rintro rfl
        exact markTree_mentions mentioned
      exact (OrdMap.find?_insert_of_ne _ _ differs).symm
    · obtain ⟨node, inside, _, is⟩ := hears
      obtain rfl : node = markTree := List.mem_singleton.1 inside
      exact absurd is (by decide)
  obtain ⟨result, s', t', run, run', left, -⟩ := executeTaskInternal_depends {} plainTask markTree agree 3 5
  refine ⟨result, s', t', run, run', ?_⟩
  rcases left (lit "mode") with same | ⟨kept, kept'⟩
  · exact same
  · exact kept.trans kept'.symm

end Actuator.Executor
