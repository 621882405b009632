import Actuator.Executor.Fallback

/-!
# Nested Sequences and Selectors

A Sequence that stands as a child in a Sequence can give its place to its own
children, and a Selector in a Selector too: as long as nobody cancels the task,
the tree returns or raises the same, and ends with the same variables and
mailbox. Only the cancellation flag is looked at once less.
-/

namespace Actuator.Executor

open Actuator.Lib Actuator.Core Actuator.Parser
open Actuator.Lib.Effect

variable {D : Type}

/-- The node has no precondition, no observations and no parameters. -/
structure Unconditional (data : NodeData) : Prop where
  expression : data.expression = []
  observation : data.observation = OrdMap.empty
  params : data.params = OrdMap.empty

/-- Somewhere in the tree a nested Sequence or Selector gives its place to its children. -/
inductive Flattens : BehaviorNode → BehaviorNode → Prop
  | sequence {data inner : NodeData} {before children after : List BehaviorNode} (outside : data.type = .sequence)
    (inside : inner.type = .sequence) (plain : Unconditional inner) :
    Flattens (.mk data (before ++ .mk inner children :: after)) (.mk data (before ++ children ++ after))
  | selector {data inner : NodeData} {before children after : List BehaviorNode} (outside : data.type = .selector)
    (inside : inner.type = .selector) (plain : Unconditional inner) :
    Flattens (.mk data (before ++ .mk inner children :: after)) (.mk data (before ++ children ++ after))
  | deeper {data : NodeData} {before after : List BehaviorNode} {node node' : BehaviorNode}
    (flattens : Flattens node node') : Flattens (.mk data (before ++ node :: after)) (.mk data (before ++ node' :: after))

/-! ## The flag is not looked at -/

/-- The state without the count of looks at the flag. -/
def unpolled (s : ExecState D) : ExecState D := { s with polls := 0 }

/-- A step that does not look at the count keeps states alike that differ in it. -/
theorem respects_of_unpolled {α : Type} {x : Exec D α} (blind : ∀ s, x (unpolled s) = ((x s).1, unpolled (x s).2)) :
    Respects (SameOn unpolled) x := by
  intro s t same
  have both : x (unpolled t) = x (unpolled s) := congrArg x same
  rw [blind s, blind t] at both
  obtain ⟨outcome, after⟩ := Prod.mk.inj both
  exact ⟨outcome.symm, after⟩

section Respects

variable [CxxDouble D] {env : Environment D} (uncancelled : env.Uncancelled)

include uncancelled

theorem respects_unpolled (texts : Str → Prop) : TreeRules (Respects (SameOn unpolled)) env .all texts where
  pure := respects_pure
  bind := Respects.bind
  reads _ := respects_of_unpolled fun _ => rfl
  sets _ _ _ _ := respects_of_unpolled fun _ => rfl
  polls s t same := ⟨congrArg Except.ok ((uncancelled s.polls).trans (uncancelled t.polls).symm), same⟩
  receives := respects_of_unpolled fun _ => rfl
  sends _ := respects_of_unpolled fun _ => rfl
  evaluates _ _ _ _ := respects_of_unpolled fun _ => rfl
  assigns _ _ := respects_of_unpolled fun _ => rfl

theorem executeNode_unpolled (node : BehaviorNode) : Respects (SameOn unpolled) (executeNode env node) :=
  (respects_unpolled uncancelled fun _ => True).executeNode node (within_all _) fun _ _ _ _ => trivial

theorem executeSequence_unpolled (children : List BehaviorNode) (outputs : VarMap D) :
    Respects (SameOn unpolled) (executeSequence env children outputs) :=
  (respects_unpolled uncancelled fun _ => True).executeSequence children outputs (within_all _) fun _ _ _ _ => trivial

theorem executeSelector_unpolled (name : Str) (children : List BehaviorNode) :
    Respects (SameOn unpolled) (executeSelector env name children) :=
  (respects_unpolled uncancelled fun _ => True).executeSelector name children (within_all _) fun _ _ _ _ => trivial

theorem executeParallel_unpolled (children : List BehaviorNode) (firstFailed : Option Str) (outputs : VarMap D) :
    Respects (SameOn unpolled) (executeParallel env children firstFailed outputs) :=
  (respects_unpolled uncancelled fun _ => True).executeParallel children firstFailed outputs (within_all _)
    fun _ _ _ _ => trivial

end Respects

/-- Two computations that differ at most in how often they look at the flag. -/
abbrev Interchangeable {α : Type} (x y : Exec D α) : Prop := Matches (SameOn unpolled) x y

/-! ## Outputs -/

theorem mergeOutputs_assoc (a b c : VarMap D) : mergeOutputs (mergeOutputs a b) c = mergeOutputs a (mergeOutputs b c) := by
  apply OrdMap.ext_find?
  intro name
  unfold mergeOutputs
  rw [OrdMap.find?_insertAll, OrdMap.find?_insertAll, OrdMap.find?_insertAll, OrdMap.find?_insertAll, Option.or_assoc]

theorem mergeOutputs_empty (a : VarMap D) : mergeOutputs a OrdMap.empty = a := rfl

/-! ## Children behind each other -/

section Children

variable [CxxDouble D] (env : Environment D)

/-- A Sequence of two parts runs the second with the outputs of the first. -/
theorem executeSequence_append (xs ys : List BehaviorNode) (outputs : VarMap D) :
    executeSequence env (xs ++ ys) outputs = executeSequence env xs outputs >>= fun result =>
      if result.success then executeSequence env ys result.outputs else pure result := by
  induction xs generalizing outputs with
  | nil =>
    rw [executeSequence, pure_bind]
    rfl
  | cons child xs ih =>
    rw [List.cons_append, executeSequence, executeSequence, bind_assoc]
    congr 1
    funext result
    by_cases success : result.success = true
    · rw [if_pos success, if_pos success, ih]
    · rw [if_neg success, if_neg success, pure_bind, if_neg success]

/-- Outputs merged before the Sequence are there after it too. -/
theorem executeSequence_merged (xs : List BehaviorNode) (outputs more : VarMap D) :
    executeSequence env xs (mergeOutputs outputs more) = executeSequence env xs more >>= fun result =>
      pure (if result.success then { result with outputs := mergeOutputs outputs result.outputs } else result) := by
  induction xs generalizing more with
  | nil =>
    rw [executeSequence, executeSequence, pure_bind]
    rfl
  | cons child xs ih =>
    rw [executeSequence, executeSequence, bind_assoc]
    congr 1
    funext result
    by_cases success : result.success = true
    · rw [if_pos success, if_pos success, mergeOutputs_assoc, ih]
    · rw [if_neg success, if_neg success, pure_bind, if_neg success]

/-- A Selector goes on with its second part when the first is exhausted, whatever name that one fails under. -/
theorem executeSelector_append (name inner : Str) (xs ys : List BehaviorNode) :
    executeSelector env name (xs ++ ys) = executeSelector env inner xs >>= fun result =>
      if result.success then pure result else executeSelector env name ys := by
  induction xs with
  | nil =>
    rw [executeSelector, pure_bind]
    rfl
  | cons child xs ih =>
    rw [List.cons_append, executeSelector, executeSelector, bind_assoc]
    congr 1
    funext result
    by_cases success : result.success = true
    · rw [if_pos success, if_pos success, pure_bind, if_pos success]
    · rw [if_neg success, if_neg success, ih]

end Children

/-! ## One node for its children -/

section Nested

variable [CxxDouble D] {env : Environment D} (uncancelled : env.Uncancelled) {inner : NodeData} (plain : Unconditional inner)

omit [CxxDouble D] in
/-- An unconditional node leaves its result as it is. -/
theorem finishNode_plain (plain : Unconditional inner) : finishNode (D := D) inner = pure := by
  funext result
  unfold finishNode
  rw [plain.params]
  exact if_neg fun both => both.2 rfl

include uncancelled plain

/-- Entering an unconditional node only looks at the flag. -/
theorem enter_plain {x : Exec D (ExecutionResult D)} (respects : Respects (SameOn unpolled) x) :
    Interchangeable (enterNode env inner >>= fun failure? =>
      match failure? with
      | some failure => pure failure
      | none => x >>= finishNode inner) x := by
  intro s t same
  rw [bind_run_ok (enterNode_passes uncancelled (.inl plain.expression)), finishNode_plain plain, bind_pure]
  have observed : unpolled (entered inner s) = unpolled s := by
    unfold entered applyObservationValues
    rw [plain.observation]
    rfl
  exact respects _ t (same.trans observed.symm)

theorem sequence_plain (inside : inner.type = .sequence) (children : List BehaviorNode) :
    Interchangeable (executeNode env (.mk inner children)) (executeSequence env children OrdMap.empty) := by
  unfold executeNode
  rw [inside]
  exact enter_plain uncancelled plain (executeSequence_unpolled uncancelled children _)

theorem selector_plain (inside : inner.type = .selector) (children : List BehaviorNode) :
    Interchangeable (executeNode env (.mk inner children)) (executeSelector env inner.name children) := by
  unfold executeNode
  rw [inside]
  exact enter_plain uncancelled plain (executeSelector_unpolled uncancelled _ children)

/-- In a Sequence, a nested one gives its place to its children. -/
theorem sequence_nested (inside : inner.type = .sequence) (children after : List BehaviorNode) (outputs : VarMap D) :
    Interchangeable (executeSequence env (.mk inner children :: after) outputs)
      (executeSequence env (children ++ after) outputs) := by
  have merged := executeSequence_merged env children outputs OrdMap.empty
  rw [mergeOutputs_empty] at merged
  rw [executeSequence_append, merged, bind_assoc, executeSequence]
  refine (sequence_plain uncancelled plain inside children).bind fun result => ?_
  rw [pure_bind]
  by_cases success : result.success = true
  · rw [if_pos success, if_pos success, if_pos success]
    exact (executeSequence_unpolled uncancelled after _).matches
  · rw [if_neg success, if_neg success, if_neg success]
    exact (respects_pure result).matches

/-- In a Selector, a nested one gives its place to its children. -/
theorem selector_nested (inside : inner.type = .selector) (name : Str) (children after : List BehaviorNode) :
    Interchangeable (executeSelector env name (.mk inner children :: after))
      (executeSelector env name (children ++ after)) := by
  rw [executeSelector_append env name inner.name, executeSelector]
  refine (selector_plain uncancelled plain inside children).bind fun result => ?_
  by_cases success : result.success = true
  · rw [if_pos success]
    exact (respects_pure result).matches
  · rw [if_neg success]
    exact (executeSelector_unpolled uncancelled name after).matches

end Nested

/-! ## Behind other children -/

section Behind

variable [CxxDouble D] {env : Environment D} (uncancelled : env.Uncancelled) {xs ys : List BehaviorNode}

include uncancelled

theorem sequence_behind (before : List BehaviorNode)
    (alike : ∀ outputs, Interchangeable (executeSequence env xs outputs) (executeSequence env ys outputs))
    (outputs : VarMap D) :
    Interchangeable (executeSequence env (before ++ xs) outputs) (executeSequence env (before ++ ys) outputs) := by
  rw [executeSequence_append, executeSequence_append]
  refine (executeSequence_unpolled uncancelled before outputs).matches.bind fun result => ?_
  by_cases success : result.success = true
  · rw [if_pos success, if_pos success]
    exact alike _
  · rw [if_neg success, if_neg success]
    exact (respects_pure result).matches

theorem selector_behind (name : Str) (before : List BehaviorNode)
    (alike : Interchangeable (executeSelector env name xs) (executeSelector env name ys)) :
    Interchangeable (executeSelector env name (before ++ xs)) (executeSelector env name (before ++ ys)) := by
  rw [executeSelector_append env name name, executeSelector_append env name name]
  refine (executeSelector_unpolled uncancelled name before).matches.bind fun result => ?_
  by_cases success : result.success = true
  · rw [if_pos success, if_pos success]
    exact (respects_pure result).matches
  · rw [if_neg success, if_neg success]
    exact alike

theorem parallel_behind (before : List BehaviorNode)
    (alike : ∀ firstFailed outputs,
      Interchangeable (executeParallel env xs firstFailed outputs) (executeParallel env ys firstFailed outputs))
    (firstFailed : Option Str) (outputs : VarMap D) :
    Interchangeable (executeParallel env (before ++ xs) firstFailed outputs)
      (executeParallel env (before ++ ys) firstFailed outputs) := by
  induction before generalizing firstFailed outputs with
  | nil => exact alike firstFailed outputs
  | cons child before ih =>
    rw [List.cons_append, List.cons_append, executeParallel, executeParallel]
    refine (executeNode_unpolled uncancelled child).matches.bind fun result => ?_
    by_cases success : result.success = true
    · rw [if_pos success, if_pos success]
      exact ih _ _
    · rw [if_neg success, if_neg success]
      exact ih _ _

/-- The children of a node matter only to the loop of its type. -/
theorem node_congr {data : NodeData}
    (sequence : data.type = .sequence → ∀ outputs,
      Interchangeable (executeSequence env xs outputs) (executeSequence env ys outputs))
    (selector : data.type = .selector → Interchangeable (executeSelector env data.name xs) (executeSelector env data.name ys))
    (parallel : data.type = .parallel → ∀ firstFailed outputs,
      Interchangeable (executeParallel env xs firstFailed outputs) (executeParallel env ys firstFailed outputs)) :
    Interchangeable (executeNode env (.mk data xs)) (executeNode env (.mk data ys)) := by
  have rules := respects_unpolled uncancelled fun _ => True
  have childless (same : executeNode env (.mk data xs) = executeNode env (.mk data ys)) :
      Interchangeable (executeNode env (.mk data xs)) (executeNode env (.mk data ys)) := by
    rw [same]
    exact (executeNode_unpolled uncancelled _).matches
  have composite (x y : Exec D (ExecutionResult D)) (alike : Interchangeable x y) :
      Interchangeable (enterNode env data >>= fun failure? =>
          match failure? with
          | some failure => pure failure
          | none => x >>= finishNode data)
        (enterNode env data >>= fun failure? =>
          match failure? with
          | some failure => pure failure
          | none => y >>= finishNode data) := by
    have enters := rules.enterNode (within_all (.mk data [] :: []))
    refine enters.matches.bind fun failure? => ?_
    cases failure? with
    | some failure => exact (respects_pure failure).matches
    | none => exact alike.bind fun result => (rules.finishNode data result).matches
  cases kind : data.type with
  | sequence =>
    unfold executeNode
    rw [kind]
    exact composite _ _ (sequence kind _)
  | selector =>
    unfold executeNode
    rw [kind]
    exact composite _ _ (selector kind)
  | parallel =>
    unfold executeNode
    rw [kind]
    exact composite _ _ (parallel kind _ _)
  | _ => exact childless (by simp only [executeNode, kind])

end Behind

/-! ## In the whole tree -/

section Trees

variable [CxxDouble D] {env : Environment D} {node node' : BehaviorNode}

omit [CxxDouble D] in
theorem Flattens.data (flattens : Flattens node node') : node'.data = node.data := by
  cases flattens <;> rfl

/-- A child for another that differs at most in its looks at the flag. -/
theorem child_congr (uncancelled : env.Uncancelled) (data : NodeData) (before after : List BehaviorNode)
    (same : node'.data = node.data) (alike : Interchangeable (executeNode env node) (executeNode env node')) :
    Interchangeable (executeNode env (.mk data (before ++ node :: after)))
      (executeNode env (.mk data (before ++ node' :: after))) := by
  apply node_congr uncancelled
  · intro _ outputs
    refine sequence_behind uncancelled before (fun outputs => ?_) outputs
    rw [executeSequence, executeSequence]
    refine alike.bind fun result => ?_
    split
    · exact (executeSequence_unpolled uncancelled after _).matches
    · exact (respects_pure result).matches
  · intro _
    apply selector_behind uncancelled
    rw [executeSelector, executeSelector]
    refine alike.bind fun result => ?_
    split
    · exact (respects_pure result).matches
    · exact (executeSelector_unpolled uncancelled _ after).matches
  · intro _ firstFailed outputs
    refine parallel_behind uncancelled before (fun firstFailed outputs => ?_) firstFailed outputs
    rw [executeParallel, executeParallel, same]
    refine alike.bind fun result => ?_
    split
    · exact (executeParallel_unpolled uncancelled after _ _).matches
    · exact (executeParallel_unpolled uncancelled after _ _).matches

theorem flattens_interchangeable (uncancelled : env.Uncancelled) (flattens : Flattens node node') :
    Interchangeable (executeNode env node) (executeNode env node') := by
  induction flattens with
  | @sequence data inner before children after outside inside plain =>
    apply node_congr uncancelled
    · intro _ outputs
      rw [List.append_assoc]
      exact sequence_behind uncancelled before (sequence_nested uncancelled plain inside children after) outputs
    · intro other
      cases outside.symm.trans other
    · intro other
      cases outside.symm.trans other
  | @selector data inner before children after outside inside plain =>
    apply node_congr uncancelled
    · intro other
      cases outside.symm.trans other
    · intro _
      rw [List.append_assoc]
      exact selector_behind uncancelled _ before (selector_nested uncancelled plain inside _ children after)
    · intro other
      cases outside.symm.trans other
  | @deeper data before after node node' flattens ih => exact child_congr uncancelled data before after flattens.data ih

/-- Flattening a tree changes neither what it returns or raises nor the variables and the mailbox it leaves. -/
theorem flattened_alike (uncancelled : env.Uncancelled) (flattens : Flattens node node') (s : ExecState D) :
    (executeNode env node' s).1 = (executeNode env node s).1 ∧
      (executeNode env node' s).2.vm = (executeNode env node s).2.vm ∧
      (executeNode env node' s).2.mailbox = (executeNode env node s).2.mailbox := by
  obtain ⟨outcome, after⟩ := flattens_interchangeable uncancelled flattens s s rfl
  have same : unpolled (executeNode env node' s).2 = unpolled (executeNode env node s).2 := after
  exact ⟨outcome.symm, congrArg (fun s => s.vm) same, congrArg (fun s => s.mailbox) same⟩

end Trees

/-- A Sequence of an assignment and a nested Sequence of a `SEND` and an `EXIT`. -/
theorem flattened_alike_sample :
    let assign : BehaviorNode := .mk { type := .action, command := lit "ASSIGN", params := OrdMap.ofList [(lit "x", lit "5")] } []
    let send : BehaviorNode := .mk { type := .action, command := lit "SEND", params := OrdMap.ofList [(lit "y", lit "x")] } []
    let exit : BehaviorNode := .mk { type := .action, command := lit "EXIT" } []
    let nested : BehaviorNode := .mk { type := .sequence } ([assign] ++ [.mk { type := .sequence } [send, exit]])
    let flat : BehaviorNode := .mk { type := .sequence } [assign, send, exit]
    (executeNode (.quiet : Environment FixedPoint) flat {}).2.mailbox =
      (executeNode (.quiet : Environment FixedPoint) nested {}).2.mailbox := by
  intro assign send exit nested flat
  have plain : Unconditional { type := .sequence } := ⟨rfl, rfl, rfl⟩
  have flattens : Flattens nested flat := .sequence rfl rfl plain
  exact (flattened_alike (fun _ => rfl) flattens {}).2.2

end Actuator.Executor
