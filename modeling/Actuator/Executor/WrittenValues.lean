import Actuator.Executor.TreeRules
import Actuator.Lib.ValueLoop

/-!
# What a command writes

Every command is one loop that finds the values of parameters in the variables
and writes each before the next one is looked for, with some writes in front of
it or behind it. Its writes, one after the other, make up what it does to the
variables (`executeBuiltinCommand_writes`). Each name is written in one scope only, so
a value is found under its name afterwards unless a scope that is looked at
earlier holds the name (`written_visible_unless_shadowed`).
-/

namespace Actuator.Executor

open Actuator.Lib Actuator.Core

variable {D : Type}

/-! ## Writes -/

/-- One `set`. -/
structure Write (D : Type) where
  name : Str
  value : VariableValue D
  scope : Scope
deriving DecidableEq

namespace VariableManager

def applyWrites (vm : VariableManager D) (writes : List (Write D)) : VariableManager D :=
  writes.foldl (fun vm w => vm.set w.name w.value w.scope) vm

theorem applyWrites_append (vm : VariableManager D) (writes more : List (Write D)) :
    vm.applyWrites (writes ++ more) = (vm.applyWrites writes).applyWrites more := List.foldl_append

/-- What the scopes hold under a name that are looked at before the given one. -/
def shadowing (vm : VariableManager D) (scope : Scope) (name : Str) : Option (VariableValue D) :=
  match scope with
  | .loc => none
  | .intermediate => vm.localVars.find? name
  | .global => (vm.localVars.find? name).or (vm.intermediateVars.find? name)

theorem getScopeMap_set_of_ne {scope scope' : Scope} (other : scope' ≠ scope) (vm : VariableManager D) (name : Str)
    (value : VariableValue D) : (vm.set name value scope).getScopeMap scope' = vm.getScopeMap scope' := by
  cases scope <;> cases scope' <;> first | rfl | exact absurd rfl other

theorem getScopeMap_set (vm : VariableManager D) (name : Str) (value : VariableValue D) (scope : Scope) :
    (vm.set name value scope).getScopeMap scope = (vm.getScopeMap scope).insert name value := by
  cases scope <;> rfl

/-- A name is found in the first scope that holds it. -/
theorem lookup_eq_shadowing (vm : VariableManager D) (scope : Scope) {name : Str} {value : VariableValue D}
    (held : (vm.getScopeMap scope).find? name = some value) :
    vm.lookup name = some ((vm.shadowing scope name).getD value) := by
  unfold lookup
  cases scope with
  | loc =>
    change vm.localVars.find? name = some value at held
    rw [held]
    rfl
  | intermediate =>
    change vm.intermediateVars.find? name = some value at held
    unfold shadowing
    cases vm.localVars.find? name with
    | some v => rfl
    | none =>
      rw [held]
      rfl
  | global =>
    change vm.globalVars.find? name = some value at held
    unfold shadowing
    cases vm.localVars.find? name with
    | some v => rfl
    | none =>
      cases vm.intermediateVars.find? name with
      | some v => rfl
      | none => exact held

end VariableManager

/-- The last write to a name. -/
def lastWrite (writes : List (Write D)) (name : Str) : Option (Write D) := writes.reverse.find? fun w => w.name = name

/-- The scope in which a name is written is settled. -/
def OneScope (scopeOf : Str → Scope) (writes : List (Write D)) : Prop := ∀ w ∈ writes, w.scope = scopeOf w.name

section Writes

variable {scopeOf : Str → Scope}

theorem lastWrite_concat (writes : List (Write D)) (w : Write D) (name : Str) :
    lastWrite (writes ++ [w]) name = if w.name = name then some w else lastWrite writes name := by
  unfold lastWrite
  rw [List.reverse_append, List.reverse_singleton, List.singleton_append, List.find?_cons]
  by_cases same : w.name = name
  · rw [if_pos same, decide_eq_true same]
  · rw [if_neg same, decide_eq_false same]

theorem mem_of_lastWrite {writes : List (Write D)} {name : Str} {w : Write D} (last : lastWrite writes name = some w) :
    w ∈ writes ∧ w.name = name := by
  unfold lastWrite at last
  refine ⟨List.mem_reverse.1 (List.mem_of_find?_eq_some last), ?_⟩
  simpa using List.find?_some last

/-- A scope holds the last value that was written to the name in it, or else what it held before. -/
theorem find?_applyWrites {writes : List (Write D)} (one : OneScope scopeOf writes) (vm : VariableManager D)
    (scope : Scope) (name : Str) :
    ((vm.applyWrites writes).getScopeMap scope).find? name =
      if scope = scopeOf name then ((lastWrite writes name).map Write.value).or ((vm.getScopeMap scope).find? name)
      else (vm.getScopeMap scope).find? name := by
  induction writes using List.reverseRecOn with
  | nil =>
    split
    · rfl
    · rfl
  | append_singleton writes w ih =>
    have own : w.scope = scopeOf w.name := one w (List.mem_append_right _ List.mem_cons_self)
    have earlier := ih fun w mem => one w (List.mem_append_left _ mem)
    have last : vm.applyWrites (writes ++ [w]) = (vm.applyWrites writes).set w.name w.value w.scope :=
      vm.applyWrites_append writes [w]
    rw [last, lastWrite_concat]
    by_cases inside : scope = w.scope
    · subst inside
      rw [VariableManager.getScopeMap_set, OrdMap.find?_insert]
      by_cases named : name = w.name
      · rw [if_pos named, if_pos (own.trans (congrArg scopeOf named.symm)), if_pos named.symm]
        rfl
      · rw [if_neg named, if_neg (Ne.symm named)]
        exact earlier
    · rw [VariableManager.getScopeMap_set_of_ne inside]
      by_cases named : w.name = name
      · have outside : scope ≠ scopeOf name := fun is => inside (is.trans (named ▸ own.symm))
        rw [if_neg outside] at earlier ⊢
        exact earlier
      · rw [if_neg named]
        exact earlier

/-- A value that was written is found, unless a scope that is looked at earlier holds the name. -/
theorem lookup_applyWrites {writes : List (Write D)} (one : OneScope scopeOf writes) (vm : VariableManager D)
    {name : Str} {w : Write D} (last : lastWrite writes name = some w) :
    (vm.applyWrites writes).lookup name = some ((vm.shadowing w.scope name).getD w.value) := by
  obtain ⟨mem, rfl⟩ := mem_of_lastWrite last
  have own := one w mem
  have held : ((vm.applyWrites writes).getScopeMap w.scope).find? w.name = some w.value := by
    rw [find?_applyWrites one, if_pos own, last]
    rfl
  have kept : ∀ scope, scope ≠ w.scope →
      ((vm.applyWrites writes).getScopeMap scope).find? w.name = (vm.getScopeMap scope).find? w.name := by
    intro scope other
    rw [find?_applyWrites one, if_neg (own ▸ other)]
  have shadow : (vm.applyWrites writes).shadowing w.scope w.name = vm.shadowing w.scope w.name := by
    have loc := kept .loc
    have intermediate := kept .intermediate
    unfold VariableManager.shadowing
    cases scope : w.scope with
    | loc => rfl
    | intermediate => exact loc (by rw [scope]; decide)
    | global => exact congrArg₂ Option.or (loc (by rw [scope]; decide)) (intermediate (by rw [scope]; decide))
  rw [VariableManager.lookup_eq_shadowing _ w.scope held, shadow]

end Writes

/-! ## Loops over parameters -/

/-- What a command does to the variables: it may write some, then goes over parameters, and may write more behind them. A
parameter that the packet holds is not evaluated. -/
structure ParameterLoop (D : Type) where
  before : List (Write D) := []
  items : List (Str × Str) := []
  packet : VarMap D := OrdMap.empty
  written : Str → VariableValue D → List (Write D) := fun _ _ => []
  behind : List (Write D) := []

namespace ParameterLoop

variable [CxxDouble D] (loop : ParameterLoop D)

/-- The value of a parameter in the store. -/
def find (vm : VariableManager D) (item : Str × Str) : Option (VariableValue D) :=
  match loop.packet.find? item.1 with
  | some value => some value
  | none => (evaluateValueExpression vm item.2).toOption

def write (item : Str × Str) (value : VariableValue D) (vm : VariableManager D) : VariableManager D :=
  vm.applyWrites (loop.written item.1 value)

/-- The values of the parameters when their turns come, up to the first that raises. -/
def found (items : List (Str × Str)) (vm : VariableManager D) : List (VariableValue D) :=
  ValueLoop.found loop.find loop.write items vm

/-- The writes of the loop, when these are the values. -/
def writesOf (items : List (Str × Str)) (values : List (VariableValue D)) : List (Write D) :=
  (items.zip values).flatMap fun e => loop.written e.1.1 e.2

def values (vm : VariableManager D) : List (VariableValue D) := loop.found loop.items (vm.applyWrites loop.before)

/-- All writes of the command, in their order. -/
def writes (vm : VariableManager D) : List (Write D) :=
  loop.before ++ loop.writesOf loop.items (loop.values vm) ++
    if (loop.values vm).length = loop.items.length then loop.behind else []

/-- What the history says of a loop with these values. -/
def evaluated (items : List (Str × Str)) (values : List (VariableValue D)) :
    List (Str × Str × Except Exn (VariableValue D)) :=
  ((items.zip values).filter fun e => (loop.packet.find? e.1.1).isNone).map fun e => (e.1.1, e.1.2, .ok e.2)

end ParameterLoop

/-- What an entry of the history says of the parameter. -/
def Evaluation.reading (e : Evaluation D) : Str × Str × Except Exn (VariableValue D) := (e.key, e.text, e.outcome)

section Loops

variable [CxxDouble D] (loop : ParameterLoop D)

/-- How a loop over parameters ends: with all values, or at the first that raises. -/
structure LoopEnds (items : List (Str × Str)) (outputs : VarMap D) (s : ExecState D)
    (ends : Except Exn (VarMap D) × ExecState D) : Prop where
  state : ∃ more, ends.2 = { s with
    vm := s.vm.applyWrites (loop.writesOf items (loop.found items s.vm)), evaluations := s.evaluations ++ more } ∧
    (ends.1.toOption.isSome → more.map Evaluation.reading = loop.evaluated items (loop.found items s.vm))
  returns : (loop.found items s.vm).length = items.length →
    ends.1 = .ok (outputs.insertAll ((items.zip (loop.found items s.vm)).map fun e => (e.1.1, e.2)))
  raises : (loop.found items s.vm).length ≠ items.length → ∃ what, ends.1 = .error what

variable {loop} {write : Str → VariableValue D → Exec D Unit}

/-- A parameter's value is the one that it has in the store, and only the history is longer behind it. -/
theorem receivedValue_run (key text : Str) (s : ExecState D) :
    ∃ more, (receivedValue loop.packet key text s).2 = { s with evaluations := s.evaluations ++ more } ∧
      (receivedValue loop.packet key text s).1.toOption = loop.find s.vm (key, text) ∧
      ∀ value, loop.find s.vm (key, text) = some value →
        more.map Evaluation.reading = loop.evaluated [(key, text)] [value] := by
  unfold receivedValue ParameterLoop.find ParameterLoop.evaluated
  cases packed : loop.packet.find? key with
  | some value => exact ⟨[], by rw [List.append_nil]; rfl, rfl, fun value _ => by simp [packed]⟩
  | none =>
    refine ⟨[⟨key, text, s.vm, evaluateValueExpression s.vm text⟩], rfl, rfl, fun value evaluates => ?_⟩
    cases out : evaluateValueExpression s.vm text with
    | error what => simp [out, Except.toOption] at evaluates
    | ok v =>
      simp only [out, Except.toOption, Option.some.injEq] at evaluates
      simp [packed, Evaluation.reading, evaluates]

/-- The loop goes through the parameters with the values that they have when their turns come. -/
theorem paramLoop_ends
    (writes : ∀ key value s, write key value s = (.ok (), { s with vm := s.vm.applyWrites (loop.written key value) }))
    (items : List (Str × Str)) (outputs : VarMap D) (s : ExecState D) :
    LoopEnds loop items outputs s (paramLoop (receivedValue loop.packet) write items outputs s) := by
  induction items generalizing outputs s with
  | nil =>
    refine ⟨⟨[], ?_, fun _ => rfl⟩, fun _ => rfl, fun incomplete => absurd rfl incomplete⟩
    rw [List.append_nil]
    rfl
  | cons item items ih =>
    obtain ⟨key, text⟩ := item
    obtain ⟨more, state, value, read⟩ := @receivedValue_run _ _ loop key text s
    rcases first : receivedValue loop.packet key text s with ⟨out, s₁⟩
    rw [first] at state value
    change s₁ = _ at state
    cases out with
    | error what =>
      change none = _ at value
      have none : loop.found ((key, text) :: items) s.vm = [] := by
        unfold ParameterLoop.found ValueLoop.found
        rw [← value]
      rw [paramLoop, Effect.bind_run_error first]
      refine ⟨⟨more, ?_, fun returned => by cases returned⟩, fun complete => ?_, fun _ => ⟨what, rfl⟩⟩
      · rw [none, state]
        rfl
      · rw [none] at complete
        cases complete
    | ok v =>
      change some v = _ at value
      subst state
      have next := ih (outputs.insert key v) { s with
        vm := s.vm.applyWrites (loop.written key v), evaluations := s.evaluations ++ more }
      have found : loop.found ((key, text) :: items) s.vm =
          v :: loop.found items (s.vm.applyWrites (loop.written key v)) := by
        unfold ParameterLoop.found
        rw [ValueLoop.found, ← value]
        rfl
      rw [paramLoop, Effect.bind_run_ok first, Effect.bind_run_ok (writes key v _)]
      obtain ⟨⟨later, last, history⟩, returns, raises⟩ := next
      refine ⟨⟨more ++ later, ?_, fun returned => ?_⟩, fun complete => ?_, fun incomplete => ?_⟩
      · rw [last, found]
        simp only [ParameterLoop.writesOf, List.zip_cons_cons, List.flatMap_cons, List.append_assoc,
          VariableManager.applyWrites_append]
      · rw [List.map_append, history returned, read v value.symm, found]
        simp only [ParameterLoop.evaluated, List.zip_cons_cons, List.filter_cons]
        split
        · rfl
        · rfl
      · rw [found] at complete ⊢
        exact returns (Nat.succ.inj complete)
      · rw [found] at incomplete
        exact raises fun complete => incomplete (congrArg Nat.succ complete)

/-- What the whole loop has written behind the writes in front of it and those behind it. -/
theorem vm_paramLoop_bind {α : Type} {k : VarMap D → Exec D α} {vm : VariableManager D} {s : ExecState D}
    (writes : ∀ key value s, write key value s = (.ok (), { s with vm := s.vm.applyWrites (loop.written key value) }))
    (start : s.vm = vm.applyWrites loop.before) (last : ∀ out s, (k out s).2.vm = s.vm.applyWrites loop.behind) :
    ((paramLoop (receivedValue loop.packet) write loop.items OrdMap.empty >>= k) s).2.vm =
      vm.applyWrites (loop.writes vm) := by
  have ends := paramLoop_ends writes loop.items OrdMap.empty s
  obtain ⟨⟨more, state, _⟩, returns, raises⟩ := ends
  have values : loop.found loop.items s.vm = loop.values vm := by rw [start]; rfl
  rw [values] at state returns raises
  rcases ran : paramLoop (receivedValue loop.packet) write loop.items OrdMap.empty s with ⟨out, s₁⟩
  rw [ran] at state returns raises
  change s₁ = _ at state
  subst state
  unfold ParameterLoop.writes
  rw [VariableManager.applyWrites_append, VariableManager.applyWrites_append, ← start]
  by_cases complete : (loop.values vm).length = loop.items.length
  · have ok : out = .ok _ := returns complete
    subst ok
    rw [Effect.bind_run_ok ran, last, if_pos complete]
  · obtain ⟨what, raised⟩ : ∃ what, out = .error what := raises complete
    subst raised
    rw [Effect.bind_run_error ran, if_neg complete]
    rfl

end Loops

/-! ## The commands -/

def assignLoop (params : StrMap) : ParameterLoop D where
  items := params.entries
  written key value := [⟨key, value, .loc⟩]

def moveToLoop (params : StrMap) : ParameterLoop D where
  items := axisParams params
  written axis value := [⟨axis, value, .loc⟩, ⟨sensorOf axis, value, .global⟩]

def sendLoop (params : StrMap) : ParameterLoop D where
  items := params.entries

def receiveLoop (packet : VarMap D) (params : StrMap) : ParameterLoop D :=
  let resultToVar := trim ((params.find? resultTo).getD [])
  { items := params.entries.filter fun item => item.1 ≠ resultTo
    packet
    written := fun key value => [⟨key, value, .loc⟩]
    behind := if resultToVar.isEmpty then [] else [⟨resultToVar, .bool (!packet.isEmpty), .loc⟩] }

def emitCommandLoop (params : StrMap) : ParameterLoop D where
  items := params.entries
  written key value := [⟨key, value, .intermediate⟩]

def reportTargetLoop (params : StrMap) : ParameterLoop D where
  before := [⟨lit "target_reported", .bool true, .global⟩]
  items := params.entries
  written key value := [⟨lit "reported_" ++ key, value, .global⟩]

/-- One GLOBAL variable. -/
def assignmentLoop (name text : Str) : ParameterLoop D where
  items := [(name, text)]
  written key value := [⟨key, value, .global⟩]

def setvarLoop (command : Str) : ParameterLoop D :=
  match find? (lit "=") command with
  | none => {}
  | some eqPos =>
    if 6 < eqPos then
      if (setvarName command eqPos).isEmpty then {}
      else assignmentLoop (setvarName command eqPos) (setvarExpression command eqPos)
    else {}

/-- What each command does to the variables. `RECEIVE` finds in the packet what the mailbox holds under its lock. -/
def commandLoop (env : Environment D) (command : Str) (params : StrMap) (s : ExecState D) : ParameterLoop D :=
  let name := commandName command
  if name = lit "NO_OP" then {}
  else if name = lit "ASSIGN" then assignLoop params
  else if name = lit "MOVE_TO" then moveToLoop params
  else if name = lit "SEND" then sendLoop params
  else if name = lit "RECEIVE" then receiveLoop ((env.arrival s.accesses).getD s.mailbox) params
  else if name = lit "EMIT_COMMAND" then emitCommandLoop params
  else if name = lit "NEXT_TASK" then { before := [⟨lit "next_task", .bool true, .loc⟩] }
  else if name = lit "REPORT_TARGET" then reportTargetLoop params
  else if name = lit "EXIT" then { before := [⟨lit "mission_exit", .bool true, .global⟩] }
  else if occurs (lit "SETVAR") name then setvarLoop command
  else {}

section Commands

variable [CxxDouble D]

theorem receivedValue_empty : receivedValue (OrdMap.empty : VarMap D) = evaluateParam := by
  funext key text
  unfold receivedValue
  rw [OrdMap.find?_empty]

/-- The command writes from this state what the loop writes. -/
def WritesAs (s : ExecState D) (x : Exec D (ExecutionResult D)) (loop : ParameterLoop D) : Prop :=
  (x s).2.vm = s.vm.applyWrites (loop.writes s.vm)

theorem WritesAs.ite {s : ExecState D} {c : Prop} [Decidable c] {x y : Exec D (ExecutionResult D)}
    {loop loop' : ParameterLoop D} (yes : c → WritesAs s x loop) (no : ¬c → WritesAs s y loop') :
    WritesAs s (if c then x else y) (if c then loop else loop') := by
  by_cases holds : c
  · rw [if_pos holds, if_pos holds]
    exact yes holds
  · rw [if_neg holds, if_neg holds]
    exact no holds

theorem writesAs_pure (s : ExecState D) (result : ExecutionResult D) : WritesAs s (pure result) {} := rfl

/-- A loop over evaluated parameters, with nothing around it. -/
theorem writesAs_loop (loop : ParameterLoop D) {write : Str → VariableValue D → Exec D Unit}
    {k : VarMap D → Exec D (ExecutionResult D)} (packet : loop.packet = OrdMap.empty) (before : loop.before = [])
    (behind : loop.behind = [])
    (writes : ∀ key value s, write key value s = (.ok (), { s with vm := s.vm.applyWrites (loop.written key value) }))
    (quiet : ∀ out s, (k out s).2.vm = s.vm) (s : ExecState D) :
    WritesAs s (paramLoop evaluateParam write loop.items OrdMap.empty >>= k) loop := by
  have start : s.vm = s.vm.applyWrites loop.before := by rw [before]; rfl
  have step : ∀ out s, (k out s).2.vm = s.vm.applyWrites loop.behind := by
    intro out s
    rw [behind]
    exact quiet out s
  have bound := vm_paramLoop_bind writes start step
  rwa [packet, receivedValue_empty] at bound

variable {env : Environment D} {command : Str} {params : StrMap}

theorem writesAs_receive (s : ExecState D) :
    WritesAs s (receive env params) (receiveLoop ((env.arrival s.accesses).getD s.mailbox) params) := by
  let packet := (env.arrival s.accesses).getD s.mailbox
  have read : readMailbox env s = (.ok packet, { s with mailbox := packet, accesses := s.accesses + 1 }) := rfl
  unfold WritesAs receive
  rw [Effect.bind_run_ok read]
  refine @vm_paramLoop_bind D _ (receiveLoop packet params) _ _ _ s.vm _ (fun _ _ _ => rfl) rfl fun out s => ?_
  unfold receiveLoop
  dsimp only
  split
  · rfl
  · rfl

theorem writesAs_reportTarget (s : ExecState D) : WritesAs s (reportTarget params) (reportTargetLoop params) := by
  have loop := @vm_paramLoop_bind D _ (reportTargetLoop params)
    (fun key value => setVariable (lit "reported_" ++ key) value .global) _
    (fun outputs => (pure { success := true, outputs } : Exec D (ExecutionResult D))) s.vm
    { s with vm := s.vm.set (lit "target_reported") (.bool true) .global } (fun _ _ _ => rfl) rfl fun _ _ => rfl
  rwa [show (reportTargetLoop params : ParameterLoop D).packet = OrdMap.empty from rfl, receivedValue_empty] at loop

theorem writes_assignmentLoop (name text : Str) (vm : VariableManager D) :
    (assignmentLoop name text).writes vm =
      ((evaluateValueExpression vm text).toOption.map fun value => ⟨name, value, .global⟩).toList := by
  let loop : ParameterLoop D := assignmentLoop name text
  have value : loop.find vm (name, text) = (evaluateValueExpression vm text).toOption := rfl
  have found : loop.values vm = (evaluateValueExpression vm text).toOption.toList := by
    show ValueLoop.found loop.find loop.write [(name, text)] vm = _
    rw [ValueLoop.found, value]
    cases (evaluateValueExpression vm text).toOption with
    | none => rfl
    | some value => rfl
  show loop.before ++ loop.writesOf loop.items (loop.values vm) ++ ite ((loop.values vm).length = _) _ _ = _
  rw [found]
  cases (evaluateValueExpression vm text).toOption with
  | none => rfl
  | some value => rfl

theorem writesAs_setvar (s : ExecState D) : WritesAs s (setvar command) (setvarLoop command) := by
  unfold setvar setvarLoop
  cases find? (lit "=") command with
  | none => exact writesAs_pure s _
  | some eqPos =>
    refine .ite (fun _ => .ite (fun _ => writesAs_pure s _) fun _ => ?_) fun _ => writesAs_pure s _
    have read : Effect.readThrowing (fun s => evaluateValueExpression s.vm (setvarExpression command eqPos)) s =
        (evaluateValueExpression s.vm (setvarExpression command eqPos), s) := rfl
    unfold WritesAs
    rw [writes_assignmentLoop]
    cases value : evaluateValueExpression s.vm (setvarExpression command eqPos) with
    | error what =>
      rw [value] at read
      exact congrArg (fun ends : Except Exn (ExecutionResult D) × ExecState D => ends.2.vm) (Effect.bind_run_error read)
    | ok v =>
      rw [value] at read
      exact congrArg (fun ends : Except Exn (ExecutionResult D) × ExecState D => ends.2.vm) (Effect.bind_run_ok read)

/-- What a command does to the variables is what it writes, however it ends. -/
theorem executeBuiltinCommand_writes (s : ExecState D) :
    WritesAs s (executeBuiltinCommand env command params) (commandLoop env command params s) := by
  unfold executeBuiltinCommand commandLoop
  refine .ite (fun _ => writesAs_pure s _) fun _ => ?_
  refine .ite (fun _ => writesAs_loop (assignLoop params) rfl rfl rfl (fun _ _ _ => rfl) (fun _ _ => rfl) s) fun _ => ?_
  refine .ite (fun _ => writesAs_loop (moveToLoop params) rfl rfl rfl (fun _ _ _ => rfl) (fun _ _ => rfl) s) fun _ => ?_
  refine .ite (fun _ => writesAs_loop (sendLoop params) rfl rfl rfl (fun _ _ _ => rfl) (fun _ _ => rfl) s) fun _ => ?_
  refine .ite (fun _ => writesAs_receive s) fun _ => ?_
  refine .ite (fun _ => writesAs_loop (emitCommandLoop params) rfl rfl rfl (fun _ _ _ => rfl) (fun _ _ => rfl) s)
    fun _ => ?_
  refine .ite (fun _ => rfl) fun _ => ?_
  refine .ite (fun _ => writesAs_reportTarget s) fun _ => ?_
  refine .ite (fun _ => rfl) fun _ => ?_
  exact .ite (fun _ => writesAs_setvar s) fun _ => writesAs_pure s _

/-! ## Where a command writes -/

/-- The scope in which a command writes a name. -/
def writtenScope (command name : Str) : Scope :=
  if commandName command = lit "EMIT_COMMAND" then .intermediate
  else if commandName command = lit "ASSIGN" ∨ commandName command = lit "RECEIVE" ∨
      commandName command = lit "NEXT_TASK" then .loc
  else if commandName command = lit "MOVE_TO" ∧ (positionKeys.lookup name).isSome then .loc
  else .global

theorem oneScope_writes {loop : ParameterLoop D} {scopeOf : Str → Scope} (before : OneScope scopeOf loop.before)
    (written : ∀ item ∈ loop.items, ∀ value, OneScope scopeOf (loop.written item.1 value))
    (behind : OneScope scopeOf loop.behind) (vm : VariableManager D) : OneScope scopeOf (loop.writes vm) := by
  intro w mem
  rcases List.mem_append.1 mem with inside | last
  · rcases List.mem_append.1 inside with first | looped
    · exact before w first
    · obtain ⟨e, pair, wrote⟩ := List.mem_flatMap.1 looped
      exact written e.1 (List.of_mem_zip pair).1 e.2 w wrote
  · split at last
    · exact behind w last
    · cases last

omit [CxxDouble D] in
theorem oneScope_nil {scopeOf : Str → Scope} : OneScope scopeOf ([] : List (Write D)) := fun _ mem => nomatch mem

omit [CxxDouble D] in
theorem oneScope_one {scopeOf : Str → Scope} {w : Write D} (own : w.scope = scopeOf w.name) : OneScope scopeOf [w] :=
  List.forall_mem_singleton.2 own

omit [CxxDouble D] in
theorem lookup_axis : ∀ axis ∈ positionKeys,
    (positionKeys.lookup axis.1).isSome = true ∧ (positionKeys.lookup (sensorOf axis.1)).isSome = false := by
  decide

omit [CxxDouble D] in
theorem mem_axisParams {item : Str × Str} (mem : item ∈ axisParams params) : ∃ sensor, (item.1, sensor) ∈ positionKeys := by
  obtain ⟨⟨key, sensor⟩, axis, found⟩ := List.mem_filterMap.1 mem
  obtain ⟨text, _, rfl⟩ := Option.map_eq_some_iff.1 found
  exact ⟨sensor, axis⟩

omit [CxxDouble D] in
theorem writtenScope_of_local (is : commandName command = lit "ASSIGN" ∨ commandName command = lit "RECEIVE" ∨
    commandName command = lit "NEXT_TASK") (name : Str) : writtenScope command name = .loc := by
  have noEmit : commandName command ≠ lit "EMIT_COMMAND" := by
    rcases is with is | is | is <;> rw [is] <;> decide
  unfold writtenScope
  rw [if_neg noEmit, if_pos is]

omit [CxxDouble D] in
theorem writtenScope_of_moveTo (is : commandName command = lit "MOVE_TO") (name : Str) :
    writtenScope command name = if (positionKeys.lookup name).isSome then .loc else .global := by
  unfold writtenScope
  rw [is, if_neg (by decide), if_neg (by decide)]
  exact if_congr (and_iff_right rfl) rfl rfl

omit [CxxDouble D] in
/-- The names of the commands that write to other scopes. -/
theorem writtenScope_of_global (other : commandName command ∉
    [lit "EMIT_COMMAND", lit "ASSIGN", lit "RECEIVE", lit "NEXT_TASK", lit "MOVE_TO"]) (name : Str) :
    writtenScope command name = .global := by
  simp only [List.mem_cons, List.not_mem_nil, or_false, not_or] at other
  obtain ⟨noEmit, noAssign, noReceive, noNextTask, noMove⟩ := other
  have noLocal : ¬(commandName command = lit "ASSIGN" ∨ commandName command = lit "RECEIVE" ∨
      commandName command = lit "NEXT_TASK") := by
    rintro (is | is | is)
    · exact noAssign is
    · exact noReceive is
    · exact noNextTask is
  unfold writtenScope
  rw [if_neg noEmit, if_neg noLocal, if_neg fun both => noMove both.1]

omit [CxxDouble D] in
/-- One case for each command that writes. -/
theorem commandLoop_cases {P : ParameterLoop D → Prop} {s : ExecState D} (none : P {})
    (assigns : commandName command = lit "ASSIGN" → P (assignLoop params))
    (moves : commandName command = lit "MOVE_TO" → P (moveToLoop params)) (sends : P (sendLoop params))
    (receives : commandName command = lit "RECEIVE" → ∀ packet, P (receiveLoop packet params))
    (emits : commandName command = lit "EMIT_COMMAND" → P (emitCommandLoop params))
    (nextTask : commandName command = lit "NEXT_TASK" → P { before := [⟨lit "next_task", .bool true, .loc⟩] })
    (reports : commandName command = lit "REPORT_TARGET" → P (reportTargetLoop params))
    (exits : commandName command = lit "EXIT" → P { before := [⟨lit "mission_exit", .bool true, .global⟩] })
    (setvar : occurs (lit "SETVAR") (commandName command) = true → P (setvarLoop command)) :
    P (commandLoop env command params s) :=
  iteInduction (fun _ => none) fun _ => iteInduction assigns fun _ => iteInduction moves fun _ =>
    iteInduction (fun _ => sends) fun _ => iteInduction (fun is => receives is _) fun _ => iteInduction emits fun _ =>
      iteInduction nextTask fun _ => iteInduction reports fun _ => iteInduction exits fun _ =>
        iteInduction setvar fun _ => none

/-- A loop that writes one name for each parameter, and nothing else. -/
theorem oneScope_single {loop : ParameterLoop D} {scopeOf : Str → Scope} (before : loop.before = [])
    (behind : loop.behind = [])
    (written : ∀ item ∈ loop.items, ∀ value, OneScope scopeOf (loop.written item.1 value)) (vm : VariableManager D) :
    OneScope scopeOf (loop.writes vm) :=
  oneScope_writes (before ▸ oneScope_nil) written (behind ▸ oneScope_nil) vm

/-- A loop that writes one name in front of it, and nothing else. -/
theorem oneScope_before {scopeOf : Str → Scope} {w : Write D} (own : w.scope = scopeOf w.name) (vm : VariableManager D) :
    OneScope scopeOf (({ before := [w] } : ParameterLoop D).writes vm) :=
  oneScope_writes (oneScope_one own) (fun _ mem => absurd mem List.not_mem_nil) oneScope_nil vm

/-- A command writes each name in one scope only. -/
theorem oneScope_command (s : ExecState D) (vm : VariableManager D) :
    OneScope (writtenScope command) ((commandLoop env command params s).writes vm) := by
  have none : OneScope (writtenScope command) (({} : ParameterLoop D).writes vm) :=
    oneScope_single rfl rfl (fun _ mem => absurd mem List.not_mem_nil) vm
  apply commandLoop_cases (P := fun loop => OneScope (writtenScope command) (loop.writes vm)) none
  case assigns =>
    intro is
    exact oneScope_single rfl rfl (fun _ _ _ => oneScope_one (writtenScope_of_local (.inl is) _).symm) vm
  case moves =>
    intro is
    refine oneScope_single rfl rfl (fun item mem value w wrote => ?_) vm
    obtain ⟨sensor, axis⟩ := mem_axisParams mem
    obtain ⟨key, position⟩ := lookup_axis _ axis
    rw [writtenScope_of_moveTo is]
    rcases List.mem_cons.1 wrote with rfl | second
    · rw [if_pos key]
    · rw [List.mem_singleton.1 second, if_neg (ne_true_of_eq_false position)]
  case sends => exact oneScope_single rfl rfl (fun _ _ _ => oneScope_nil) vm
  case receives =>
    intro is packet
    have loc := writtenScope_of_local (.inr (.inl is))
    refine oneScope_writes oneScope_nil (fun _ _ _ => oneScope_one (loc _).symm) ?_ vm
    unfold receiveLoop
    dsimp only
    split
    · exact oneScope_nil
    · exact oneScope_one (loc _).symm
  case emits =>
    intro is
    exact oneScope_single rfl rfl (fun _ _ _ => oneScope_one (if_pos is).symm) vm
  case nextTask =>
    intro is
    exact oneScope_before (writtenScope_of_local (.inr (.inr is)) _).symm vm
  case reports =>
    intro is
    have global := @writtenScope_of_global command (by rw [is]; decide)
    exact oneScope_writes (oneScope_one (global _).symm) (fun _ _ _ => oneScope_one (global _).symm) oneScope_nil vm
  case exits =>
    intro is
    exact oneScope_before (writtenScope_of_global (by rw [is]; decide) _).symm vm
  case setvar =>
    intro sets
    have global : ∀ name, writtenScope command name = .global := by
      apply writtenScope_of_global
      intro other
      simp only [List.mem_cons, List.not_mem_nil, or_false] at other
      rcases other with is | is | is | is | is <;> rw [is] at sets <;> revert sets <;> decide
    unfold setvarLoop
    cases find? (lit "=") command with
    | none => exact none
    | some eqPos =>
      dsimp only
      split
      · split
        · exact none
        · exact oneScope_single rfl rfl (fun _ _ _ => oneScope_one (global _).symm) vm
      · exact none

/-- A command leaves its writes in the variables. Under each name that it wrote, `get` finds what it wrote last, unless a
scope that is looked at before the one it wrote held the name already: then `get` finds what that scope held. -/
theorem written_visible_unless_shadowed {s s' : ExecState D} {result : ExecutionResult D}
    (run : executeBuiltinCommand env command params s = (.ok result, s')) :
    s'.vm = s.vm.applyWrites ((commandLoop env command params s).writes s.vm) ∧
      ∀ name w, lastWrite ((commandLoop env command params s).writes s.vm) name = some w →
        w.scope = writtenScope command name ∧
          s'.vm.get name = .ok ((s.vm.shadowing w.scope name).getD w.value) := by
  have written : s'.vm = s.vm.applyWrites ((commandLoop env command params s).writes s.vm) := by
    have writes := @executeBuiltinCommand_writes _ _ env command params s
    unfold WritesAs at writes
    rwa [run] at writes
  have one := @oneScope_command _ _ env command params s s.vm
  refine ⟨written, fun name w last => ⟨?_, ?_⟩⟩
  · obtain ⟨mem, rfl⟩ := mem_of_lastWrite last
    exact one w mem
  · rw [written]
    exact VariableManager.get_of_lookup (lookup_applyWrites one s.vm last)

end Commands

/-! ## A shadowed position -/

/-- A task whose parameters bind `POS_X`. -/
def shadowedState : ExecState FixedPoint where
  vm := { localVars := OrdMap.empty.insert (lit "POS_X") (.int 1) }

def moveParams : StrMap := OrdMap.empty.insert (lit "x") (lit "5")

theorem written_visible_sample :
    let ends := executeBuiltinCommand .quiet (lit "MOVE_TO") moveParams shadowedState
    ends.2.vm.get (lit "x") = .ok (.int 5) ∧ ends.2.vm.get (lit "POS_X") = .ok (.int 1) := by
  have returns : (executeBuiltinCommand .quiet (lit "MOVE_TO") moveParams shadowedState).1.toOption.any (·.success) =
      true := by decide +kernel
  rcases run : executeBuiltinCommand .quiet (lit "MOVE_TO") moveParams shadowedState with ⟨out, s'⟩
  rw [run] at returns
  cases out with
  | error what => cases returns
  | ok result =>
    obtain ⟨_, visible⟩ := written_visible_unless_shadowed run
    constructor
    · exact (visible (lit "x") ⟨lit "x", .int 5, .loc⟩ (by decide +kernel)).2
    · exact (visible (lit "POS_X") ⟨lit "POS_X", .int 5, .global⟩ (by decide +kernel)).2

/-- The command succeeds and writes the position 5, and the position that is found is the old 1. -/
theorem moved_position_hidden :
    let ends := executeBuiltinCommand .quiet (lit "MOVE_TO") moveParams shadowedState
    ends.1.toOption.any (·.success) = true ∧
      lastWrite ((commandLoop .quiet (lit "MOVE_TO") moveParams shadowedState).writes shadowedState.vm) (lit "POS_X") =
        some ⟨lit "POS_X", .int 5, .global⟩ ∧
      ends.2.vm.globalVars.find? (lit "POS_X") = some (.int 5) ∧ ends.2.vm.get (lit "POS_X") = .ok (.int 1) := by
  decide +kernel

end Actuator.Executor
