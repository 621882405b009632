import Actuator.Executor.TreeRules

/-!
# What running a tree can change

A relation between states that the permitted writes, the evaluations of the
node's own parameters and the other basic steps keep is kept by running the
whole tree, however it ends.
-/

namespace Actuator.Executor

open Actuator.Lib Actuator.Core
open Actuator.Lib.Effect

variable {D : Type} [CxxDouble D]

/-- A relation that the basic steps keep, as far as they are permitted. -/
structure Frame (R : ExecState D → ExecState D → Prop) (env : Environment D) (permit : Permit) : Prop where
  set : ∀ name value scope, permit.sets name scope → Keeps R (setVariable name value scope)
  evaluates : ∀ key text, permit.evaluates key text → Keeps R (evaluateParam key text)
  polls : Keeps R (pollCancelled env)
  receives : Keeps R (readMailbox env)
  sends : ∀ packet, Keeps R (writeMailbox packet)

variable {R : ExecState D → ExecState D → Prop} [IsPreorder (ExecState D) R] {env : Environment D} {permit : Permit}

theorem Frame.rules (frame : Frame R env permit) : TreeRules (Keeps R) env permit fun _ => True where
  pure := keeps_pure
  bind := Keeps.bind
  reads _ := keeps_read _
  sets := frame.set
  evaluates key text permitted _ := frame.evaluates key text permitted
  assigns _ _ := keeps_readThrowing _
  polls := frame.polls
  receives := frame.receives
  sends := frame.sends

/-- A node that runs its command does nothing with its children. -/
theorem Frame.keeps_commandNode (frame : Frame R env permit) {data : NodeData} {children nodes : List BehaviorNode}
    (runs : RunsCommand data) (within : Within permit (.mk data children :: nodes)) :
    Keeps R (executeNode env (.mk data children)) :=
  frame.rules.commandNode runs within fun _ _ _ _ => trivial

/-- Running a tree keeps what its writes and the basic steps keep. -/
theorem Frame.keeps_executeNode (frame : Frame R env permit) (node : BehaviorNode)
    (within : Within permit node.subnodes) : Keeps R (executeNode env node) :=
  frame.rules.executeNode node within fun _ _ _ _ => trivial

/-! ### The flag -/

/-- No command looks at the flag. -/
theorem polls_rules : CommandRules (D := D) (Keeps (SameOn ExecState.polls)) .all fun _ => True where
  pure := keeps_pure
  bind := Keeps.bind
  sets _ _ _ _ _ := rfl
  evaluates _ _ _ _ _ := rfl
  assigns _ _ := keeps_readThrowing _

theorem executeCommand_polls (env : Environment D) (command : Str) (params : StrMap) :
    Keeps (SameOn ExecState.polls) (executeCommand env command params) := by
  unfold executeCommand
  split
  · exact keeps_pure _
  · exact polls_rules.executeBuiltinCommand (.all fun _ _ => trivial) (fun _ _ => rfl) fun _ _ _ => rfl

end Actuator.Executor
