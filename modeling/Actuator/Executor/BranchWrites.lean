import Actuator.Executor.Fallback

/-!
# What failed branches leave behind

The only undo is the snapshot of the whole task. A Selector that goes on behind
a failed child starts the next one from the variables and the mailbox as the
failed child left them. So it ends like the succeeding child run on its own, for
every succeeding child, exactly when the failed ones changed neither.
-/

namespace Actuator.Executor

open Actuator.Lib Actuator.Core Actuator.Parser
open Actuator.Lib.Effect

variable {D : Type} [CxxDouble D]

/-! ## Variables and mailbox decide a run -/

/-- The same variables and the same mailbox; the counters and the history may differ. -/
structure Alike (s t : ExecState D) : Prop where
  vm : s.vm = t.vm
  mailbox : s.mailbox = t.mailbox

omit [CxxDouble D] in
theorem Alike.modifyVm (f : VariableManager D → VariableManager D) :
    Respects Alike (Executor.modifyVm f : Exec D Unit) := by
  intro s t alike
  exact ⟨rfl, congrArg f alike.vm, alike.mailbox⟩

theorem respects_rules (texts : Str → Prop) :
    TreeRules (D := D) (Respects Alike) (.quiet : Environment D) .all texts where
  pure := respects_pure
  bind := Respects.bind
  reads f := respects_read fun _ _ alike => congrArg f alike.vm
  sets name value scope _ := Alike.modifyVm fun vm => vm.set name value scope
  polls _ _ alike := ⟨rfl, alike.vm, alike.mailbox⟩
  receives _ _ alike := ⟨congrArg Except.ok alike.mailbox, alike.vm, alike.mailbox⟩
  sends _ _ _ alike := ⟨rfl, alike.vm, rfl⟩
  evaluates _ text _ _ _ _ alike :=
    ⟨congrArg (evaluateValueExpression · text) alike.vm, alike.vm, alike.mailbox⟩
  assigns text _ := respects_readThrowing fun _ _ alike => congrArg (evaluateValueExpression · text) alike.vm

/-- With nobody else at work, two runs of a tree from states alike return or throw the same and end alike. -/
theorem executeNode_respects (node : BehaviorNode) : Respects Alike (executeNode (.quiet : Environment D) node) :=
  (respects_rules fun _ => True).executeNode node (within_all _) fun _ _ _ _ => trivial

/-! ## The Selector -/

section Selector

variable {data : NodeData} {s s₁ : ExecState D} {before : List BehaviorNode}

/-- The Selector ends in the state in which the succeeding child ends, run behind the failed ones. -/
theorem selector_ends_behind (selector : data.type = .selector) (passes : Passes data s)
    (failed : Passed Failed .quiet before (entered data s) s₁) {child : BehaviorNode} {result : ExecutionResult D}
    {s' : ExecState D} (ran : executeNode .quiet child s₁ = (.ok result, s')) (success : result.success = true)
    (after : List BehaviorNode) :
    ∃ result', executeNode .quiet (.mk data (before ++ child :: after)) s = (.ok result', s') ∧
      result'.success = true := by
  obtain ⟨result', finished, same⟩ := finishNode_run data result s'
  have loop : executeSelector .quiet data.name (before ++ child :: after) (entered data s) = (.ok result, s') := by
    rw [failed.executeSelector, executeSelector_succeeded ran success]
  rw [executeNode_selector (fun _ => rfl) selector passes, bind_run_ok loop, finished]
  exact ⟨result', rfl, same.trans success⟩

end Selector

/-- A child that succeeds behind the failed ones, and on its own in the state the Selector entered with. -/
structure SucceedsBoth (child : BehaviorNode) (behind entry behind' entry' : ExecState D) : Prop where
  behind : ∃ result, executeNode .quiet child behind = (.ok result, behind') ∧ result.success = true
  direct : ∃ result, executeNode .quiet child entry = (.ok result, entry') ∧ result.success = true

/-- Failed children are not undone: a Selector ends where the succeeding child ends
when it runs behind them. That is how the child ends on its own, whichever child
it is, exactly when the failed children left the variables and the mailbox alone. -/
theorem selector_keeps_failed_writes (data : NodeData) (selector : data.type = .selector) (s : ExecState D)
    (passes : Passes data s) (before : List BehaviorNode) (s₁ : ExecState D)
    (failed : Passed Failed .quiet before (entered data s) s₁) :
    (∀ child result s', executeNode .quiet child s₁ = (.ok result, s') → result.success = true →
      ∀ after, ∃ result', executeNode .quiet (.mk data (before ++ child :: after)) s = (.ok result', s') ∧
        result'.success = true) ∧
    ((∀ child s' direct, SucceedsBoth child s₁ (entered data s) s' direct →
        ∀ after, Alike (executeNode .quiet (.mk data (before ++ child :: after)) s).2 direct) ↔
      Alike s₁ (entered data s)) := by
  refine ⟨fun child result s' ran success after => selector_ends_behind selector passes failed ran success after, ?_⟩
  constructor
  · -- A succeeding child that changes nothing shows what the failed ones left.
    intro always
    have noOp : BareNoOp (.mk { type := .action, command := lit "NO_OP" } []) := ⟨rfl, by decide, rfl, rfl, rfl⟩
    have ran := fun t => @BareNoOp.run D _ .quiet (fun _ => rfl) _ noOp t
    have ends := always _ _ _ ⟨⟨_, ran s₁, rfl⟩, ⟨_, ran (entered data s), rfl⟩⟩ []
    obtain ⟨result', whole, -⟩ := selector_ends_behind selector passes failed (ran s₁) rfl []
    rw [whole] at ends
    exact ⟨ends.vm, ends.mailbox⟩
  · intro alike child s' direct succeeds after
    obtain ⟨⟨result, ran, success⟩, ⟨result', ran', -⟩⟩ := succeeds
    obtain ⟨-, ends⟩ := executeNode_respects child s₁ (entered data s) alike
    obtain ⟨result'', whole, -⟩ := selector_ends_behind selector passes failed ran success after
    rw [ran, ran'] at ends
    rw [whole]
    exact ends

/-! ## A branch that writes and then fails -/

def sendOneNode : BehaviorNode :=
  .mk { name := lit "Send", type := .action, command := lit "SEND"
        params := OrdMap.empty.insert (lit "x") (lit "1") } []

def neverNode : BehaviorNode := .mk { name := lit "Never", type := .condition, expression := lit "false" } []

/-- It assigns a GLOBAL variable and sends a packet before its condition fails. -/
def writingBranch : BehaviorNode := .mk { name := lit "Branch", type := .sequence } [markNode, sendOneNode, neverNode]

/-- The state behind the failed branch. -/
def behindBranch : ExecState FixedPoint := (executeNode .quiet writingBranch (entered choiceData {})).2

theorem writingBranch_fails : Passed Failed .quiet [writingBranch] (entered choiceData {}) behindBranch := by
  have outcome : (executeNode .quiet writingBranch (entered choiceData ({} : ExecState FixedPoint))).1.toOption.map
      (·.success) = some false := by decide
  rcases ran : executeNode .quiet writingBranch (entered choiceData ({} : ExecState FixedPoint)) with ⟨out, s₁⟩
  rw [ran] at outcome
  cases out with
  | error e => cases outcome
  | ok result =>
    have here : s₁ = behindBranch := (congrArg Prod.snd ran).symm
    rw [here] at ran
    exact .cons ran (Option.some.inj outcome) (.nil _)

theorem selector_keeps_failed_writes_sample :
    ∃ result, executeNode .quiet (.mk choiceData [writingBranch, noOpNode]) {} =
      (.ok result, { behindBranch with polls := behindBranch.polls + 1 }) ∧ result.success = true := by
  have noOp : BareNoOp noOpNode := ⟨rfl, by decide, rfl, rfl, rfl⟩
  obtain ⟨ends, -⟩ := selector_keeps_failed_writes choiceData rfl {} (Or.inl rfl) [writingBranch] behindBranch
    writingBranch_fails
  exact ends noOpNode _ _ (noOp.run (fun _ => rfl) behindBranch) rfl []

/-- The succeeding child is a `NO_OP`; variable and packet of the failed branch are there behind the Selector. -/
theorem failed_branch_survives :
    let whole := (executeNode (.quiet : Environment FixedPoint) (.mk choiceData [writingBranch, noOpNode]) {}).2
    let direct := (executeNode (.quiet : Environment FixedPoint) noOpNode {}).2
    whole.vm.globalVars.find? (lit "mode") = some (.int 1) ∧ direct.vm.globalVars.find? (lit "mode") = none ∧
      whole.mailbox.find? (lit "x") = some (.int 1) ∧ direct.mailbox.find? (lit "x") = none := by
  decide +kernel

end Actuator.Executor
