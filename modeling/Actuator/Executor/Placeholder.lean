import Actuator.Executor.Frame

/-!
# Placeholders and variables

A parameter written as the placeholder of a variable is replaced, before the
task runs, by the text of the variable's constant or initial value. What the
command then evaluates is that text. It is the variable's current value exactly
when the text denotes that value in the store at hand; the run of a Sequence
that assigns the variable first and uses the placeholder afterwards shows it.
-/

namespace Actuator.Executor

open Actuator.Lib Actuator.Core Actuator.Parser
open Actuator.Lib.Effect
open Actuator.Constraint (evaluate)

variable {D : Type}

/-! ## What a text denotes -/

/-- A text that is neither blank nor quoted nor a truth word. -/
structure Bare (text : Str) : Prop where
  filled : text.isEmpty = false
  unquoted : unquote? text = none
  notTrue : isTrueWord text = false
  notFalse : isFalseWord text = false

/-- A bare text that names no variable and contains no comparison. -/
structure Free (vm : VariableManager D) (text : Str) : Prop extends Bare text where
  unbound : vm.lookup text = none
  plain : containsComparisonOperator text = false

/-- The value a text stands for in a store: a literal, a variable, a condition or an arithmetic expression. -/
inductive Denotes [CxxDouble D] (vm : VariableManager D) (text : Str) : VariableValue D → Prop
  | blank (empty : (trim text).isEmpty = true) : Denotes vm text (.string [])
  | quoted {inside : Str} (quotes : unquote? (trim text) = some inside) : Denotes vm text (.string inside)
  | trueWord (word : isTrueWord (trim text) = true) : Denotes vm text (.bool true)
  | falseWord (word : isFalseWord (trim text) = true) : Denotes vm text (.bool false)
  | name {value : VariableValue D} (bare : Bare (trim text)) (holds : vm.lookup (trim text) = some value) :
    Denotes vm text value
  | condition (bare : Bare (trim text)) (unbound : vm.lookup (trim text) = none)
    (compares : containsComparisonOperator (trim text) = true) : Denotes vm text (.bool (evaluate vm (trim text)))
  | number {number : D} (free : Free vm (trim text)) (reads : tryParseNumberLiteral (trim text) = some number) :
    Denotes vm text (numberValue (trim text) number)
  | arithmetic {number : D} (free : Free vm (trim text)) (other : (tryParseNumberLiteral (trim text) : Option D) = none)
    (computes : containsArithmeticOperator (trim text) = true)
    (value : NumericExpressionParser.parse vm (trim text) = .ok number) : Denotes vm text (roundedValue number)
  | word (free : Free vm (trim text)) (other : (tryParseNumberLiteral (trim text) : Option D) = none)
    (still : containsArithmeticOperator (trim text) = false) : Denotes vm text (.string (trim text))

section Text

variable [CxxDouble D]

theorem unquote?_long {text inside : Str} (quotes : unquote? text = some inside) : text.isEmpty = false := by
  unfold unquote? at quotes
  split at quotes
  · rename_i long
    cases text with
    | nil => exact absurd long.1 (by simp)
    | cons c text => rfl
  · cases quotes

theorem truthWord_cases {text : Str} (word : isTrueWord text = true ∨ isFalseWord text = true) :
    text.isEmpty = false ∧ unquote? text = none ∧ ¬(isTrueWord text = true ∧ isFalseWord text = true) := by
  simp only [isTrueWord, isFalseWord, Bool.or_eq_true, decide_eq_true_eq] at word
  rcases word with ((rfl | rfl) | rfl) | ((rfl | rfl) | rfl) <;> decide

theorem Bare.evaluateValueExpression {vm : VariableManager D} {text : Str} (bare : Bare (trim text)) :
    evaluateValueExpression vm text = evaluateBare vm (trim text) := by
  unfold Executor.evaluateValueExpression
  simp only [bare.filled, bare.unquoted, bare.notTrue, bare.notFalse, Bool.false_eq_true, if_false]

theorem evaluateBare_of_lookup {vm : VariableManager D} {text : Str} {value : VariableValue D}
    (holds : vm.lookup text = some value) : evaluateBare vm text = .ok value := by
  unfold evaluateBare
  rw [VariableManager.exists?_eq, holds, Option.isSome_some, if_pos rfl, VariableManager.get_of_lookup holds]

theorem evaluateBare_unbound {vm : VariableManager D} {text : Str} (unbound : vm.lookup text = none) :
    evaluateBare vm text =
      if containsComparisonOperator text then .ok (.bool (evaluate vm text)) else evaluateNumberOrText vm text := by
  unfold evaluateBare
  rw [VariableManager.exists?_eq, unbound, if_neg (by simp)]

theorem Free.evaluateValueExpression {vm : VariableManager D} {text : Str} (free : Free vm (trim text)) :
    evaluateValueExpression vm text = evaluateNumberOrText vm (trim text) := by
  rw [free.toBare.evaluateValueExpression, evaluateBare_unbound free.unbound, if_neg (by simp [free.plain])]

theorem Denotes.of_evaluateNumberOrText {vm : VariableManager D} {text : Str} {value : VariableValue D}
    (free : Free vm (trim text)) (run : evaluateNumberOrText vm (trim text) = .ok value) : Denotes vm text value := by
  unfold evaluateNumberOrText at run
  split at run
  · cases run
    exact .number free ‹_›
  rename_i other
  split at run
  · split at run
    · cases run
      exact .arithmetic free other ‹_› ‹_›
    · cases run
    · cases run
  · cases run
    exact .word free other (Bool.eq_false_iff.2 ‹_›)

theorem Denotes.of_evaluateBare {vm : VariableManager D} {text : Str} {value : VariableValue D}
    (bare : Bare (trim text)) (run : evaluateBare vm (trim text) = .ok value) : Denotes vm text value := by
  cases found : vm.lookup (trim text) with
  | some held =>
    rw [evaluateBare_of_lookup found] at run
    cases run
    exact .name bare found
  | none =>
    rw [evaluateBare_unbound found] at run
    split at run
    · cases run
      exact .condition bare found ‹_›
    · rename_i plain
      exact .of_evaluateNumberOrText { bare with unbound := found, plain := Bool.eq_false_iff.2 plain } run

theorem Denotes.of_evaluateValueExpression {vm : VariableManager D} {text : Str} {value : VariableValue D}
    (run : evaluateValueExpression vm text = .ok value) : Denotes vm text value := by
  unfold Executor.evaluateValueExpression at run
  dsimp only at run
  split at run
  · cases run
    exact .blank ‹_›
  rename_i filled
  split at run
  · cases run
    exact .quoted ‹_›
  rename_i unquoted
  split at run
  · cases run
    exact .trueWord ‹_›
  rename_i notTrue
  split at run
  · cases run
    exact .falseWord ‹_›
  rename_i notFalse
  refine .of_evaluateBare ?_ run
  exact ⟨Bool.eq_false_iff.2 filled, unquoted, Bool.eq_false_iff.2 notTrue, Bool.eq_false_iff.2 notFalse⟩

theorem Denotes.evaluateValueExpression {vm : VariableManager D} {text : Str} {value : VariableValue D}
    (denotes : Denotes vm text value) : evaluateValueExpression vm text = .ok value := by
  cases denotes with
  | blank empty =>
    unfold Executor.evaluateValueExpression
    simp only [empty, if_true]
  | quoted quotes =>
    unfold Executor.evaluateValueExpression
    simp only [unquote?_long quotes, quotes, Bool.false_eq_true, if_false]
  | trueWord word =>
    obtain ⟨filled, unquoted, -⟩ := truthWord_cases (Or.inl word)
    unfold Executor.evaluateValueExpression
    simp only [filled, unquoted, word, Bool.false_eq_true, if_false, if_true]
  | falseWord word =>
    obtain ⟨filled, unquoted, notBoth⟩ := truthWord_cases (Or.inr word)
    have notTrue : isTrueWord (trim text) = false := Bool.eq_false_iff.2 fun yes => notBoth ⟨yes, word⟩
    unfold Executor.evaluateValueExpression
    simp only [filled, unquoted, notTrue, word, Bool.false_eq_true, if_false, if_true]
  | name bare holds => rw [bare.evaluateValueExpression, evaluateBare_of_lookup holds]
  | condition bare unbound compares =>
    rw [bare.evaluateValueExpression, evaluateBare_unbound unbound, if_pos compares]
  | number free reads =>
    rw [free.evaluateValueExpression]
    unfold evaluateNumberOrText
    rw [reads]
  | arithmetic free other computes value =>
    rw [free.evaluateValueExpression]
    unfold evaluateNumberOrText
    rw [other]
    simp only [computes, value, if_true]
  | word free other still =>
    rw [free.evaluateValueExpression]
    unfold evaluateNumberOrText
    rw [other]
    simp only [still, Bool.false_eq_true, if_false]

/-- `evaluateValueExpression` returns what the text denotes, and nothing else. -/
theorem evaluateValueExpression_iff (vm : VariableManager D) (text : Str) (value : VariableValue D) :
    evaluateValueExpression vm text = .ok value ↔ Denotes vm text value :=
  ⟨Denotes.of_evaluateValueExpression, Denotes.evaluateValueExpression⟩

end Text

/-! ## The text put for a placeholder -/

/-- A text is the placeholder of a name: the name ends at the first closing brace. -/
structure IsPlaceholder (v text : Str) : Prop where
  spelled : text = placeholder v
  closed : ch '}' ∉ v

/-- The text a template has for a variable that the task does not bind: a constant of that name before the
initial value, and the placeholder itself if there is neither. -/
def templateText (definition : BehaviorNode) (v : Str) : Str :=
  ((definition.data.constants.find? v).or (definition.data.variableInits.find? v)).getD (placeholder v)

theorem instantiated_param {definition node : BehaviorNode} {params : StrMap} {v k text : Str}
    (unbound : params.find? v = none) (written : node.data.params.find? k = some text) (is : IsPlaceholder v text) :
    (instantiated definition params node).data.params.find? k = some (templateText definition v) := by
  obtain ⟨rfl, closed⟩ := is
  rw [find?_instantiated_params, written, Option.map_some, replaceVariables_placeholder closed,
    find?_buildTemplateParams, unbound]
  rfl

/-! ## Evaluations while a part of the store is left alone -/

/-- Whatever a node sets that does not set LOCAL `v`, that variable stays. -/
theorem quiet_sets {node : BehaviorNode} {v : Str} (quiet : ¬NodeWrites node.data v .loc) (name : Str) (scope : Scope)
    (writes : NodeWrites node.data name scope) (vm : VariableManager D) (value : VariableValue D) :
    (vm.set name value scope).localVars.find? v = vm.localVars.find? v := by
  apply VariableManager.set_find?_local
  intro both
  obtain ⟨rfl, rfl⟩ := both
  exact quiet writes

variable [CxxDouble D]

/-- Running something left a part of the store as it was and evaluated parameters from `asked` only, each in a
store with that part as it was. -/
structure Tracks {α : Type} (part : VariableManager D → α) (asked : Str → Str → Prop) (s s' : ExecState D) : Prop where
  kept : part s'.vm = part s.vm
  evaluated : ∃ new, s'.evaluations = s.evaluations ++ new ∧ ∀ ev ∈ new, asked ev.key ev.text ∧
    ev.outcome = evaluateValueExpression ev.store ev.text ∧ part ev.store = part s.vm

variable {α : Type} {part : VariableManager D → α} {asked : Str → Str → Prop}

theorem Tracks.of_same {s s' : ExecState D} (kept : part s'.vm = part s.vm) (same : s'.evaluations = s.evaluations) :
    Tracks part asked s s' :=
  ⟨kept, [], by rw [same, List.append_nil], fun _ mem => by cases mem⟩

instance tracksPreorder (part : VariableManager D → α) (asked : Str → Str → Prop) :
    IsPreorder (ExecState D) (Tracks part asked) where
  refl _ := .of_same rfl rfl
  trans s t u first second := by
    obtain ⟨new, eq, all⟩ := first.evaluated
    obtain ⟨new', eq', all'⟩ := second.evaluated
    refine ⟨second.kept.trans first.kept, new ++ new', by rw [eq', eq, List.append_assoc], ?_⟩
    intro ev mem
    rcases List.mem_append.1 mem with old | young
    · exact all ev old
    · obtain ⟨isAsked, outcome, held⟩ := all' ev young
      exact ⟨isAsked, outcome, held.trans first.kept⟩

/-- Variables outside the part may be set. -/
def Permit.keeping (part : VariableManager D → α) (asked : Str → Str → Prop) : Permit where
  sets name scope := ∀ vm value, part (vm.set name value scope) = part vm
  evaluates := asked

theorem tracks_frame (env : Environment D) (part : VariableManager D → α) (asked : Str → Str → Prop) :
    Frame (Tracks part asked) env (.keeping part asked) where
  set name value scope same s := .of_same (same s.vm value) rfl
  evaluates key text isAsked s := by
    refine ⟨rfl, [⟨key, text, s.vm, evaluateValueExpression s.vm text⟩], rfl, ?_⟩
    intro ev mem
    cases List.mem_singleton.1 mem
    exact ⟨isAsked, rfl, rfl⟩
  polls _ := .of_same rfl rfl
  receives _ := .of_same rfl rfl
  sends _ _ := .of_same rfl rfl

/-- The parameter evaluations between two states. -/
def newEvaluations (s s' : ExecState D) : List (Evaluation D) := s'.evaluations.drop s.evaluations.length

theorem Tracks.new {s s' : ExecState D} (tracks : Tracks part asked s s') :
    ∀ ev ∈ newEvaluations s s', asked ev.key ev.text ∧
      ev.outcome = evaluateValueExpression ev.store ev.text ∧ part ev.store = part s.vm := by
  obtain ⟨new, eq, all⟩ := tracks.evaluated
  unfold newEvaluations
  rw [eq, List.drop_left]
  exact all

/-! ## Running part of a Sequence -/

/-- The nodes ran one after the other, all with success. -/
inductive Ran (env : Environment D) : List BehaviorNode → ExecState D → ExecState D → Prop
  | nil (s : ExecState D) : Ran env [] s s
  | cons {node : BehaviorNode} {nodes : List BehaviorNode} {s s₁ s' : ExecState D} {result : ExecutionResult D}
    (first : executeNode env node s = (.ok result, s₁)) (succeeded : result.success = true)
    (rest : Ran env nodes s₁ s') : Ran env (node :: nodes) s s'

theorem Ran.append {env : Environment D} {nodes more : List BehaviorNode} {s s₁ s' : ExecState D}
    (ran : Ran env nodes s s₁) (ran' : Ran env more s₁ s') : Ran env (nodes ++ more) s s' := by
  induction ran with
  | nil => exact ran'
  | cons first succeeded _ ih => exact .cons first succeeded (ih ran')

/-- A Sequence whose first nodes ran goes on with the others. -/
theorem Ran.executeSequence {env : Environment D} {nodes : List BehaviorNode} {s s' : ExecState D}
    (ran : Ran env nodes s s') (more : List BehaviorNode) (outputs : VarMap D) :
    ∃ outputs', executeSequence env (nodes ++ more) outputs s = executeSequence env more outputs' s' := by
  induction ran generalizing outputs with
  | nil => exact ⟨outputs, rfl⟩
  | cons first succeeded _ ih =>
    obtain ⟨outputs', eq⟩ := ih (mergeOutputs outputs _)
    refine ⟨outputs', ?_⟩
    rw [List.cons_append, Executor.executeSequence, bind_run_ok first, if_pos succeeded]
    exact eq

theorem Ran.keeps_local {env : Environment D} {v : Str} {nodes : List BehaviorNode} {s s' : ExecState D}
    (ran : Ran env nodes s s') (quiet : ∀ node ∈ BehaviorNode.subnodesOf nodes, ¬NodeWrites node.data v .loc) :
    s'.vm.localVars.find? v = s.vm.localVars.find? v := by
  induction ran with
  | nil => rfl
  | @cons node nodes s s₁ s' result first _ _ ih =>
    have within : Within (.keeping (fun vm : VariableManager D => vm.localVars.find? v) fun _ _ => True) node.subnodes := {
      sets := fun sub mem => quiet_sets (quiet sub (List.mem_append_left _ mem))
      evaluates := fun _ _ _ _ _ _ => trivial }
    have before := (tracks_frame env (fun vm => vm.localVars.find? v) fun _ _ => True).keeps_executeNode node within s
    rw [first] at before
    exact (ih fun sub mem => quiet sub (List.mem_append_right _ mem)).trans before.kept

theorem Ran.single {env : Environment D} {node : BehaviorNode} {s : ExecState D}
    (succeeded : (executeNode env node s).1.toOption.map (·.success) = some true) :
    Ran env [node] s (executeNode env node s).2 := by
  rcases run : executeNode env node s with ⟨out, s'⟩
  rw [run] at succeeded
  cases out with
  | ok result => exact .cons run (Option.some.inj succeeded) (.nil s')
  | error what => cases succeeded

/-! ## A use behind an assignment -/

/-- A node that runs its command evaluates its own parameters, in stores that differ from the one before it
only as far as the node sets variables. -/
theorem command_evaluations (env : Environment D) {node : BehaviorNode} (runs : RunsCommand node.data)
    (part : VariableManager D → α)
    (quiet : ∀ name scope, NodeWrites node.data name scope → ∀ vm value, part (vm.set name value scope) = part vm)
    (s : ExecState D) :
    ∀ ev ∈ newEvaluations s (executeNode env node s).2, node.data.params.find? ev.key = some ev.text ∧
      ev.outcome = evaluateValueExpression ev.store ev.text ∧ part ev.store = part s.vm := by
  obtain ⟨data, children⟩ := node
  have frame := tracks_frame env part fun key text => data.params.find? key = some text
  have within : Within (.keeping part fun key text => data.params.find? key = some text) [.mk data children] := {
    sets := fun node mem name scope writes => by
      cases List.mem_singleton.1 mem
      exact quiet name scope writes
    evaluates := fun node mem _ key text param => by
      cases List.mem_singleton.1 mem
      exact param }
  exact (frame.keeps_commandNode runs within s).new

/-- In a Sequence an earlier node has set `v` to `a`, and a later node has a command parameter written as the
placeholder of `v`. The value the later node evaluates for it is `a` exactly when the template's text for `v`
denotes `a` in the store at that moment; and if nothing in between sets `v`, that store still has `a` under `v`. -/
theorem placeholder_value_iff (env : Environment D) (definition : BehaviorNode) (params : StrMap) {v k text : Str}
    (unbound : params.find? v = none) {data : NodeData} {before between after : List BehaviorNode}
    {earlier later : BehaviorNode}
    (occurs : .mk data (before ++ earlier :: (between ++ later :: after)) ∈ definition.subnodes)
    (written : later.data.params.find? k = some text) (is : IsPlaceholder v text) (runs : RunsCommand later.data)
    {s s₁ s₂ : ExecState D} {a : VariableValue D}
    (ran : Ran env ((before ++ [earlier]).map (instantiated definition params)) s s₁)
    (sets : s₁.vm.localVars.find? v = some a)
    (ran' : Ran env (between.map (instantiated definition params)) s₁ s₂) :
    (∃ data' children, .mk data' children ∈ BehaviorNode.subnodesOf (instantiate definition params) ∧
      data'.type = data.type ∧ ∃ outputs, executeSequence env children OrdMap.empty s =
        executeSequence env ((later :: after).map (instantiated definition params)) outputs s₂) ∧
    ∀ ev ∈ newEvaluations s₂ (executeNode env (instantiated definition params later) s₂).2, ev.key = k →
      (ev.outcome = .ok a ↔ Denotes ev.store (templateText definition v) a) ∧
      ((∀ node ∈ BehaviorNode.subnodesOf (between.map (instantiated definition params)),
          ¬NodeWrites node.data v .loc) →
        ¬NodeWrites (instantiated definition params later).data v .loc → ev.store.lookup v = some a) := by
  constructor
  · have member : instantiated definition params (.mk data (before ++ earlier :: (between ++ later :: after))) ∈
        BehaviorNode.subnodesOf (instantiate definition params) := by
      rw [subnodesOf_instantiate]
      exact List.mem_map_of_mem occurs
    obtain ⟨outputs, eq⟩ := (ran.append ran').executeSequence ((later :: after).map (instantiated definition params))
      OrdMap.empty
    refine ⟨_, _, member, rfl, outputs, ?_⟩
    rw [← eq, expandNodes_eq_map]
    simp only [List.map_append, List.map_cons, List.map_nil, List.append_assoc, List.singleton_append]
    rfl
  · intro ev mem key
    have runs' : RunsCommand (instantiated definition params later).data := by
      obtain ⟨data', children⟩ := later
      exact runs
    constructor
    · obtain ⟨param, outcome, -⟩ := command_evaluations env runs' (fun _ => ()) (fun _ _ _ _ _ => rfl) s₂ ev mem
      rw [key, instantiated_param unbound written is] at param
      rw [outcome, ← Option.some.inj param]
      exact evaluateValueExpression_iff _ _ _
    · intro quiet quiet'
      obtain ⟨-, -, held⟩ := command_evaluations env runs' (fun vm => vm.localVars.find? v) (quiet_sets quiet') s₂ ev mem
      exact VariableManager.lookup_of_local (held.trans ((ran'.keeps_local quiet).trans sets))

/-- A distance is measured, and then sent by its placeholder. -/
def measureNode : BehaviorNode :=
  .mk { name := lit "Measure", type := .action, command := lit "ASSIGN"
        params := OrdMap.empty.insert (lit "dist") (lit "5") } []

def sendNode : BehaviorNode :=
  .mk { name := lit "Send", type := .action, command := lit "SEND"
        params := OrdMap.empty.insert (lit "min_dist") (lit "${dist}") } []

/-- The distance starts at `0`. -/
def measureTree : BehaviorNode :=
  .mk { name := lit "Main", type := .sequence, variableInits := OrdMap.empty.insert (lit "dist") (lit "0") }
    [measureNode, sendNode]

theorem sendNode_placeholder : IsPlaceholder (lit "dist") (lit "${dist}") := ⟨rfl, by decide⟩

/-- The state after the measurement, from the empty state. -/
def measured : ExecState FixedPoint := (executeNode .quiet (instantiated measureTree OrdMap.empty measureNode) {}).2

theorem ran_measureNode :
    Ran .quiet (([] ++ [measureNode]).map (instantiated measureTree OrdMap.empty)) ({} : ExecState FixedPoint) measured :=
  Ran.single (by decide)

theorem measured_dist : measured.vm.localVars.find? (lit "dist") = some (.int 5) := by decide

theorem measureTree_occurs :
    .mk measureTree.data ([] ++ measureNode :: ([] ++ sendNode :: [])) ∈ measureTree.subnodes := List.mem_cons_self

/-- What the later node evaluates for `min_dist`. -/
def sentDistance : Evaluation FixedPoint := ⟨lit "min_dist", lit "0", measured.vm, .ok (.int 0)⟩

theorem sentDistance_evaluated :
    sentDistance ∈ newEvaluations measured
      (executeNode .quiet (instantiated measureTree OrdMap.empty sendNode) measured).2 :=
  List.mem_singleton.2 rfl

theorem placeholder_value_iff_sample :
    sentDistance.outcome = .ok (.int 5) ↔ Denotes sentDistance.store (lit "0") (.int 5) := by
  have both := (placeholder_value_iff .quiet measureTree OrdMap.empty rfl measureTree_occurs rfl sendNode_placeholder
    (Or.inl rfl) ran_measureNode measured_dist (.nil measured)).2 sentDistance sentDistance_evaluated rfl
  exact both.1

/-- The distance is `5` when the placeholder is evaluated, and `0` is what comes out. -/
theorem placeholder_stale :
    Ran .quiet (([] ++ [measureNode]).map (instantiated measureTree OrdMap.empty)) ({} : ExecState FixedPoint) measured ∧
      measured.vm.localVars.find? (lit "dist") = some (.int 5) ∧
      ∃ ev ∈ newEvaluations measured (executeNode .quiet (instantiated measureTree OrdMap.empty sendNode) measured).2,
        ev.key = lit "min_dist" ∧ ev.store.lookup (lit "dist") = some (.int 5) ∧ ev.outcome = .ok (.int 0) := by
  refine ⟨ran_measureNode, measured_dist, sentDistance, sentDistance_evaluated, rfl, ?_, rfl⟩
  exact VariableManager.lookup_of_local measured_dist

end Actuator.Executor
