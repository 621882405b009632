import Actuator.Executor.Frame
import Actuator.Executor.Mentions
import Actuator.Lib.Assignments

/-!
# The order of an ASSIGN

`ASSIGN` carries its assignments out in the order of the names. Where they
depend on one another in another order, an expression may be evaluated while a
name it mentions still has its old value. The command comes to the result of the
dependency order if and only if no expression notices that
(`assign_resolves_iff`).
-/

namespace Actuator.Executor

open Actuator.Lib Actuator.Core
open Actuator.Lib.Assignments

variable {D : Type}

/-! ## Assignments to LOCAL -/

/-- The store as one that ASSIGN sets names in: only the LOCAL map changes. -/
def localStore : Store (VariableManager D) Str (VariableValue D) (VariableManager D) where
  get vm name := vm.localVars.find? name
  set vm name value := vm.set name value .loc
  frame vm := { vm with localVars := OrdMap.empty }
  get_set vm name name' value := by
    refine (OrdMap.find?_insert vm.localVars name name' value).trans ?_
    by_cases same : name' = name
    · rw [if_pos same, if_pos same]
    · rw [if_neg same, if_neg same]
  frame_set _ _ _ := rfl
  ext vm vm' frame get := by
    have localVars : vm.localVars = vm'.localVars := OrdMap.ext_find? get
    cases vm
    cases vm'
    simp only [VariableManager.mk.injEq] at frame localVars ⊢
    exact ⟨frame.1, localVars, frame.2.2⟩

variable [CxxDouble D]

/-- The assignments, carried out from left to right. -/
def runAssignments (assignments : List (Str × Str)) (vm : VariableManager D) : Except Exn (VariableManager D) :=
  run localStore evaluateValueExpression assignments vm

/-- An order of the parameters in which no expression depends on its own name or on a later one. -/
structure DependencyOrder (D : Type) [CxxDouble D] (params : StrMap) (order : List (Str × Str)) : Prop where
  permuted : order.Perm params.entries
  acyclic : Acyclic (localStore (D := D)) evaluateValueExpression order

/-- Every assigned name holds the value that its expression has in the store. -/
def Resolved (params : StrMap) (vm : VariableManager D) : Prop :=
  ∀ key text, params.find? key = some text →
    ∃ value, vm.localVars.find? key = some value ∧ evaluateValueExpression vm text = .ok value

/-- The store with the final values under the names that sort before the key, and the old ones under the others. -/
def staleStore (params : StrMap) (solved vm : VariableManager D) (key : Str) : VariableManager D :=
  overwrite localStore solved ((params.entries.filter fun param => param.1 < key).map Prod.fst) vm

/-- For the order it is enough to look at the texts. -/
theorem DependencyOrder.of_texts {params : StrMap} {order : List (Str × Str)} (permuted : order.Perm params.entries)
    (own : ∀ param ∈ order, ¬ param.1 <:+: param.2)
    (later : order.Pairwise fun earlier later => ¬ later.1 <:+: earlier.2) : DependencyOrder D params order where
  permuted := permuted
  acyclic := {
    own := fun param mem vm value => evaluateValueExpression_set (own param mem) vm value
    later := later.imp fun absent vm value => evaluateValueExpression_set absent vm value
    distinct := (permuted.map Prod.fst).nodup_iff.2 params.nodup_keys }

/-! ## The command -/

/-- The loop of the command carries the assignments out. -/
theorem paramLoop_run (items : List (Str × Str)) (outputs : VarMap D) (s : ExecState D) :
    match runAssignments items s.vm with
    | .ok vm => ∃ outputs' evaluations,
      paramLoop evaluateParam (fun key value => setVariable key value .loc) items outputs s =
        (.ok outputs', { s with vm, evaluations })
    | .error what => ∃ s',
      paramLoop evaluateParam (fun key value => setVariable key value .loc) items outputs s = (.error what, s') := by
  induction items generalizing outputs s with
  | nil => exact ⟨outputs, s.evaluations, rfl⟩
  | cons item items ih =>
    obtain ⟨key, text⟩ := item
    show match evaluateValueExpression s.vm text >>= fun v => runAssignments items (s.vm.set key v .loc) with
      | .ok vm => _
      | .error what => _
    cases value : evaluateValueExpression s.vm text with
    | error what =>
      have evaluated : evaluateParam key text s = (.error what, { s with
          evaluations := s.evaluations ++ [⟨key, text, s.vm, .error what⟩] }) := by
        unfold evaluateParam
        rw [value]
      refine ⟨{ s with evaluations := s.evaluations ++ [⟨key, text, s.vm, .error what⟩] }, ?_⟩
      rw [paramLoop]
      exact Effect.bind_run_error evaluated
    | ok v =>
      have evaluated : evaluateParam key text s = (.ok v, { s with
          evaluations := s.evaluations ++ [⟨key, text, s.vm, .ok v⟩] }) := by
        unfold evaluateParam
        rw [value]
      have later := ih (outputs.insert key v) { s with
        vm := s.vm.set key v .loc
        evaluations := s.evaluations ++ [⟨key, text, s.vm, .ok v⟩] }
      have first : paramLoop evaluateParam (fun key value => setVariable key value .loc) ((key, text) :: items) outputs s =
          paramLoop evaluateParam (fun key value => setVariable key value .loc) items (outputs.insert key v) { s with
            vm := s.vm.set key v .loc
            evaluations := s.evaluations ++ [⟨key, text, s.vm, .ok v⟩] } := by
        rw [paramLoop, Effect.bind_run_ok evaluated]
        rfl
      rw [first]
      exact later

theorem executeBuiltinCommand_assign (env : Environment D) {command : Str} (is : commandName command = lit "ASSIGN")
    (params : StrMap) : executeBuiltinCommand env command params = assign params := by
  have upper : (trim command).map toUpper = lit "ASSIGN" := is
  unfold executeBuiltinCommand
  simp only [upper]
  rw [if_neg (by decide), if_pos trivial]

/-- The command returns the store that its assignments lead to in the order of the names. -/
theorem executeBuiltinCommand_assign_iff (env : Environment D) {command : Str} (is : commandName command = lit "ASSIGN")
    (params : StrMap) (s : ExecState D) (vm : VariableManager D) :
    (∃ result s', executeBuiltinCommand env command params s = (.ok result, s') ∧ s'.vm = vm) ↔
      runAssignments params.entries s.vm = .ok vm := by
  have loop := paramLoop_run params.entries OrdMap.empty s
  rw [executeBuiltinCommand_assign env is]
  unfold assign
  cases ran : runAssignments params.entries s.vm with
  | error what =>
    simp only [ran] at loop
    obtain ⟨s₁, thrown⟩ := loop
    rw [Effect.bind_run_error thrown]
    exact iff_of_false (fun found => by obtain ⟨_, _, same, _⟩ := found; cases same) (fun same => nomatch same)
  | ok final =>
    simp only [ran] at loop
    obtain ⟨outputs, evaluations, looped⟩ := loop
    rw [Effect.bind_run_ok looped]
    constructor
    · intro found
      obtain ⟨_, s', same, rfl⟩ := found
      cases same
      rfl
    · intro same
      cases same
      exact ⟨_, _, rfl, rfl⟩

/-! ## The result -/

/-- The parameters in front of one of them are those with smaller names. -/
theorem filter_lt_of_split {params : StrMap} {before after : List (Str × Str)} {key text : Str}
    (split : params.entries = before ++ (key, text) :: after) : params.entries.filter (fun param => param.1 < key) = before := by
  have sorted := params.sorted
  rw [split] at sorted ⊢
  obtain ⟨_, behind, front⟩ := List.pairwise_append.1 sorted
  have smaller : ∀ param ∈ before, decide (param.1 < key) = true := fun param mem =>
    decide_eq_true (front param mem _ List.mem_cons_self)
  have greater : ∀ param ∈ (key, text) :: after, ¬ decide (param.1 < key) = true := by
    intro param mem
    rw [decide_eq_true_eq, not_lt]
    rcases List.mem_cons.1 mem with rfl | inside
    · exact le_refl _
    · exact le_of_lt ((List.pairwise_cons.1 behind).1 param inside)
  rw [List.filter_append, List.filter_eq_self.2 smaller, List.filter_eq_nil_iff.2 greater, List.append_nil]

omit [CxxDouble D] in
theorem split_iff_find? {params : StrMap} {key text : Str} :
    (∃ before after, params.entries = before ++ (key, text) :: after) ↔ params.find? key = some text := by
  rw [← OrdMap.mem_entries]
  exact List.mem_iff_append.symm

/-- The command leaves every assigned name with the value of its expression, as the assignments do in an order of their
dependencies, if and only if these all have values in that order and no expression has another one while the names that
sort behind its own have their old values. -/
theorem assign_resolves_iff (env : Environment D) {command : Str} (is : commandName command = lit "ASSIGN")
    {params : StrMap} {order : List (Str × Str)} (dependency : DependencyOrder D params order) (s : ExecState D) :
    (∃ result s', executeBuiltinCommand env command params s = (.ok result, s') ∧ Resolved params s'.vm ∧
      runAssignments order s.vm = .ok s'.vm) ↔
    ∃ solved, runAssignments order s.vm = .ok solved ∧ ∀ key text, params.find? key = some text →
      evaluateValueExpression (staleStore params solved s.vm key) text = evaluateValueExpression solved text := by
  have resolved : ∀ vm : VariableManager D,
      Solves localStore evaluateValueExpression params.entries vm ↔ Resolved params vm := by
    intro vm
    constructor
    · intro solves key text found
      exact solves (key, text) (OrdMap.mem_entries.2 found)
    · intro resolved param mem
      exact resolved param.1 param.2 (OrdMap.mem_entries.1 mem)
  have conditions : ∀ solved : VariableManager D,
      (∀ before key text after, params.entries = before ++ (key, text) :: after →
        evaluateValueExpression (overwrite localStore solved (before.map Prod.fst) s.vm) text =
          evaluateValueExpression solved text) ↔
      ∀ key text, params.find? key = some text →
        evaluateValueExpression (staleStore params solved s.vm key) text = evaluateValueExpression solved text := by
    intro solved
    constructor
    · intro each key text found
      obtain ⟨before, after, split⟩ := split_iff_find?.2 found
      have here := each before key text after split
      unfold staleStore
      rwa [filter_lt_of_split split]
    · intro each before key text after split
      have here := each key text (split_iff_find?.1 ⟨before, after, split⟩)
      unfold staleStore at here
      rwa [filter_lt_of_split split] at here
  have library := run_solves_iff dependency.permuted dependency.acyclic (s := s.vm)
  constructor
  · intro found
    obtain ⟨result, s', executed, holds, _⟩ := found
    have ran := (executeBuiltinCommand_assign_iff env is params s s'.vm).1 ⟨result, s', executed, rfl⟩
    obtain ⟨solved, reference, each⟩ := library.1 ⟨s'.vm, ran, (resolved s'.vm).2 holds⟩
    exact ⟨solved, reference, (conditions solved).1 each⟩
  · intro condition
    obtain ⟨solved, reference, each⟩ := condition
    obtain ⟨vm, ran, solves⟩ := library.2 ⟨solved, reference, (conditions solved).2 each⟩
    obtain ⟨result, s', executed, rfl⟩ := (executeBuiltinCommand_assign_iff env is params s vm).2 ran
    refine ⟨result, s', executed, (resolved s'.vm).1 solves, ?_⟩
    have off := run_agreesOff ran
    refine (run_eq_ok_iff dependency.acyclic).2 ⟨solves.perm dependency.permuted, ⟨off.frame.symm, fun key other => ?_⟩⟩
    have outside : key ∉ params.entries.map Prod.fst := fun mem =>
      other ((dependency.permuted.map Prod.fst).mem_iff.2 mem)
    exact (off.get key outside).symm

/-! ## The distance to a target -/

/-- The parameters of `ComputeDetectedTargetDistance`. -/
def distanceParams : StrMap := OrdMap.ofList [(lit "dx", lit "x - tx"), (lit "dy", lit "y - ty"), (lit "dz", lit "z - tz"),
  (lit "dist", lit "sqrt(dx * dx + dy * dy + dz * dz)")]

/-- The order in which the behaviour lists them. -/
def distanceOrder : List (Str × Str) := [(lit "dx", lit "x - tx"), (lit "dy", lit "y - ty"), (lit "dz", lit "z - tz"),
  (lit "dist", lit "sqrt(dx * dx + dy * dy + dz * dz)")]

theorem distanceOrder_dependency : DependencyOrder D distanceParams distanceOrder := by
  refine .of_texts ?_ ?_ ?_
  · decide
  · decide
  · decide

/-- A satellite 3 and 4 away from the target, with the differences of an earlier measurement. -/
def measuredStore (dx dy : Int32) : ExecState FixedPoint where
  vm := { localVars := OrdMap.ofList [(lit "x", .int 3), (lit "y", .int 4), (lit "z", .int 0), (lit "tx", .int 0),
    (lit "ty", .int 0), (lit "tz", .int 0), (lit "dx", .int dx), (lit "dy", .int dy), (lit "dz", .int 0)] }

/-- The differences are the same as before, so the distance is right. -/
theorem assign_resolves_sample :
    ∃ result s', executeBuiltinCommand .quiet (lit "ASSIGN") distanceParams (measuredStore 3 4) = (.ok result, s') ∧
      Resolved distanceParams s'.vm ∧ runAssignments distanceOrder (measuredStore 3 4).vm = .ok s'.vm := by
  have unnoticed : (runAssignments distanceOrder (measuredStore 3 4).vm).toOption.any (fun solved =>
      distanceParams.entries.all fun param =>
        evaluateValueExpression (staleStore distanceParams solved (measuredStore 3 4).vm param.1) param.2 =
          evaluateValueExpression solved param.2) = true := by decide +kernel
  cases ran : runAssignments distanceOrder (measuredStore 3 4).vm with
  | error what =>
    rw [ran] at unnoticed
    cases unnoticed
  | ok solved =>
    rw [ran] at unnoticed
    have each := List.all_eq_true.1 unnoticed
    have is : commandName (lit "ASSIGN") = lit "ASSIGN" := by decide
    rw [← ran]
    refine (assign_resolves_iff .quiet is distanceOrder_dependency (measuredStore 3 4)).2
      ⟨solved, ran, fun key text found => ?_⟩
    exact of_decide_eq_true (each (key, text) (OrdMap.mem_entries.2 found))

/-- All expressions have values before, and the distance is computed from the differences of the earlier measurement. -/
theorem distance_of_old_differences :
    DependencyOrder FixedPoint distanceParams distanceOrder ∧
      (∀ param ∈ distanceParams.entries, (evaluateValueExpression (measuredStore 0 0).vm param.2).toOption.isSome) ∧
      ∃ result s', executeBuiltinCommand .quiet (lit "ASSIGN") distanceParams (measuredStore 0 0) = (.ok result, s') ∧
        s'.vm.localVars.find? (lit "dist") = some (.int 0) ∧
        evaluateValueExpression s'.vm (lit "sqrt(dx * dx + dy * dy + dz * dz)") = .ok (.int 5) ∧
        ¬ Resolved distanceParams s'.vm := by
  refine ⟨distanceOrder_dependency, by decide +kernel, ?_⟩
  have ran : (runAssignments distanceParams.entries (measuredStore 0 0).vm).toOption.any (fun vm =>
      vm.localVars.find? (lit "dist") = some (.int 0) ∧
        evaluateValueExpression vm (lit "sqrt(dx * dx + dy * dy + dz * dz)") = .ok (.int 5)) = true := by
    decide +kernel
  cases assigned : runAssignments distanceParams.entries (measuredStore 0 0).vm with
  | error what =>
    rw [assigned] at ran
    cases ran
  | ok vm =>
    rw [assigned] at ran
    have is : commandName (lit "ASSIGN") = lit "ASSIGN" := by decide
    obtain ⟨result, s', executed, rfl⟩ := (executeBuiltinCommand_assign_iff .quiet is _ _ vm).2 assigned
    obtain ⟨old, current⟩ : s'.vm.localVars.find? (lit "dist") = some (.int 0) ∧
        evaluateValueExpression s'.vm (lit "sqrt(dx * dx + dy * dy + dz * dz)") = .ok (.int 5) := of_decide_eq_true ran
    refine ⟨result, s', executed, old, current, fun resolved => ?_⟩
    obtain ⟨value, held, own⟩ := resolved (lit "dist") (lit "sqrt(dx * dx + dy * dy + dz * dz)") (by decide)
    rw [old] at held
    rw [current] at own
    cases held
    cases own

end Actuator.Executor
