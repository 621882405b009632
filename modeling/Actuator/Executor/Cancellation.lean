import Actuator.Executor.Fallback
import Actuator.Executor.SharedMailbox

/-!
# Cancellation

Another thread may set the flag of a task at any moment, and nobody clears it.
The task looks at it before every node. It then ends as if nobody had set it,
or not at all with success: behind the look that finds the flag every node
refuses, so nothing is evaluated, written or sent any more, and the rollback
takes back what was. Its uses of the mailbox are the first ones of the task that
is not cancelled (`cancelled_all_or_nothing`).
-/

namespace Actuator.Executor

open Actuator.Lib Actuator.Core Actuator.Parser
open Actuator.Lib.Effect
open Actuator.Constraint (evaluate)

variable {D : Type}

/-- The flag is set before it is looked at for the k-th time. -/
def Environment.cancelledFrom (arrival : Nat → Option (VarMap D)) (k : Nat) : Environment D where
  cancelled n := decide (k ≤ n)
  arrival := arrival

/-- The flag is never set. -/
def Environment.uncancelled (arrival : Nat → Option (VarMap D)) : Environment D where
  cancelled _ := false
  arrival := arrival

/-! ## What only grows -/

/-- The later state continues the earlier one: it has evaluated more and used the mailbox more often, and the mailbox is
the same if it was not used. -/
structure Continues (s s' : ExecState D) : Prop where
  evaluations : s.evaluations <+: s'.evaluations
  accesses : s.accesses ≤ s'.accesses
  mailbox : s'.accesses = s.accesses → s'.mailbox = s.mailbox

/-- It has also looked at the flag at least as often. -/
structure Proceeds (s s' : ExecState D) : Prop extends Continues s s' where
  polls : s.polls ≤ s'.polls

theorem Continues.trans {s s' s'' : ExecState D} (first : Continues s s') (second : Continues s' s'') :
    Continues s s'' where
  evaluations := first.evaluations.trans second.evaluations
  accesses := first.accesses.trans second.accesses
  mailbox same := by
    have before := first.accesses
    have behind := second.accesses
    exact (second.mailbox (by omega)).trans (first.mailbox (by omega))

theorem Continues.refl (s : ExecState D) : Continues s s := ⟨List.prefix_refl _, le_refl _, fun _ => rfl⟩

instance proceedsPreorder : IsPreorder (ExecState D) Proceeds where
  refl s := ⟨.refl s, le_refl _⟩
  trans _ _ _ first second := ⟨first.toContinues.trans second.toContinues, first.polls.trans second.polls⟩

section Runs

variable [CxxDouble D]

theorem proceeds_frame (env : Environment D) : Frame (D := D) Proceeds env .all where
  set _ _ _ _ _ := ⟨⟨List.prefix_refl _, le_refl _, fun _ => rfl⟩, le_refl _⟩
  evaluates _ _ _ _ := ⟨⟨List.prefix_append _ _, le_refl _, fun _ => rfl⟩, le_refl _⟩
  polls _ := ⟨⟨List.prefix_refl _, le_refl _, fun _ => rfl⟩, Nat.le_succ _⟩
  receives _ := ⟨⟨List.prefix_refl _, Nat.le_succ _, fun same => absurd same (Nat.succ_ne_self _)⟩, le_refl _⟩
  sends _ _ := ⟨⟨List.prefix_refl _, Nat.le_succ _, fun same => absurd same (Nat.succ_ne_self _)⟩, le_refl _⟩

theorem executeNode_proceeds (env : Environment D) (node : BehaviorNode) : Keeps Proceeds (executeNode env node) :=
  (proceeds_frame env).keeps_executeNode node (within_all _)

end Runs

/-! ## Behind the flag -/

/-- Once the flag has been found set, the computation fails and does nothing but look at it again. -/
def Refuses (k : Nat) (x : Exec D (ExecutionResult D)) : Prop :=
  ∀ s, k < s.polls → ∃ failure polls, x s = (.ok failure, { s with polls }) ∧ failure.success = false ∧ k < polls

theorem refuses_pure {k : Nat} {result : ExecutionResult D} (failed : result.success = false) :
    Refuses k (pure result : Exec D (ExecutionResult D)) := fun s set => ⟨result, s.polls, rfl, failed, set⟩

theorem Refuses.bind {k : Nat} {x : Exec D (ExecutionResult D)} {next : ExecutionResult D → Exec D (ExecutionResult D)}
    (first : Refuses k x) (later : ∀ failure, failure.success = false → Refuses k (next failure)) :
    Refuses k (x >>= next) := by
  intro s set
  obtain ⟨failure, polls, run, failed, still⟩ := first s set
  obtain ⟨failure', polls', run', failed', still'⟩ := later failure failed { s with polls } still
  exact ⟨failure', polls', (bind_run_ok run).trans run', failed', still'⟩

theorem finishNode_refuses {k : Nat} {data : NodeData} {failure : ExecutionResult D} (failed : failure.success = false) :
    Refuses k (finishNode data failure) := by
  intro s set
  obtain ⟨result, run, same⟩ := finishNode_run data failure s
  exact ⟨result, s.polls, run, same.trans failed, set⟩

section Refusals

variable [CxxDouble D] {arrival : Nat → Option (VarMap D)} {k : Nat}

theorem enterNode_cancelled {env : Environment D} (data : NodeData) {s : ExecState D}
    (set : env.cancelled s.polls = true) : enterNode env data s =
      (.ok (some (.ofFailure (lit "任务已取消") data.name)), { s with polls := s.polls + 1 }) := by
  have poll : pollCancelled env s = (.ok true, { s with polls := s.polls + 1 }) := by
    show (Except.ok (env.cancelled s.polls), _) = _
    rw [set]
  unfold enterNode
  rw [bind_run_ok poll]
  rfl

/-- A node that finds the flag set. -/
theorem executeNode_cancelled {env : Environment D} (node : BehaviorNode) {s : ExecState D}
    (set : env.cancelled s.polls = true) :
    executeNode env node s = (.ok (.ofFailure (lit "任务已取消") node.data.name), { s with polls := s.polls + 1 }) := by
  obtain ⟨data, children⟩ := node
  unfold executeNode
  rw [bind_run_ok (enterNode_cancelled data set)]
  rfl

theorem executeNode_refuses (node : BehaviorNode) : Refuses k (executeNode (.cancelledFrom arrival k) node) :=
  fun s set => ⟨_, s.polls + 1, executeNode_cancelled node (decide_eq_true (le_of_lt set)), rfl, Nat.lt_succ_of_lt set⟩

theorem executeSelector_refuses (name : Str) (children : List BehaviorNode) :
    Refuses k (executeSelector (.cancelledFrom arrival k) name children) := by
  induction children with
  | nil =>
    rw [executeSelector]
    exact refuses_pure rfl
  | cons child children ih =>
    rw [executeSelector]
    refine (executeNode_refuses child).bind fun failure failed => ?_
    rw [if_neg (by rw [failed]; exact Bool.false_ne_true)]
    exact ih

theorem executeParallel_refuses (children : List BehaviorNode) (failedNode : Str) (outputs : VarMap D) :
    Refuses k (executeParallel (.cancelledFrom arrival k) children (some failedNode) outputs) := by
  induction children with
  | nil =>
    rw [executeParallel]
    exact refuses_pure rfl
  | cons child children ih =>
    rw [executeParallel]
    refine (executeNode_refuses child).bind fun failure failed => ?_
    rw [if_neg (by rw [failed]; exact Bool.false_ne_true)]
    exact ih

end Refusals

/-! ## Up to the flag -/

/-- The first run is the second one, cut off by the look at the flag that finds it set. If the second ends before that
look, the two are the same. -/
def CutOffAt (k : Nat) (x y : Exec D (ExecutionResult D)) (s : ExecState D) : Prop :=
  (y s).2.polls ≤ k ∧ x s = y s ∨
    k < (y s).2.polls ∧ ∃ failure s', x s = (.ok failure, s') ∧ failure.success = false ∧ k < s'.polls ∧
      Continues s' (y s).2

/-- That holds of all runs in which the flag has not been found set before. -/
def CutOff (k : Nat) (x y : Exec D (ExecutionResult D)) : Prop := ∀ s, s.polls ≤ k → CutOffAt k x y s

/-- Behind the same beginning. -/
theorem CutOffAt.behind {k : Nat} {x y x' y' : Exec D (ExecutionResult D)} {s s' : ExecState D}
    (cut : CutOffAt k x' y' s') (left : x s = x' s') (right : y s = y' s') : CutOffAt k x y s := by
  unfold CutOffAt
  rw [left, right]
  exact cut

namespace CutOff

variable {k : Nat} {x y : Exec D (ExecutionResult D)}

/-- A computation that does not look at the flag. -/
theorem of_polls (same : ∀ s, (x s).2.polls = s.polls) : CutOff k x x :=
  fun s early => .inl ⟨(same s).symm ▸ early, rfl⟩

theorem bind {next next' : ExecutionResult D → Exec D (ExecutionResult D)} (first : CutOff k x y)
    (later : ∀ result, CutOff k (next result) (next' result))
    (refuses : ∀ failure, failure.success = false → Refuses k (next failure))
    (proceeds : ∀ result, Keeps Proceeds (next' result)) : CutOff k (x >>= next) (y >>= next') := by
  intro s early
  have cut := first s early
  unfold CutOffAt at cut ⊢
  rcases run : y s with ⟨out, s₁⟩
  rw [run] at cut
  rcases cut with ⟨before, same⟩ | ⟨behind, failure, s', cut, failed, set, goesOn⟩
  · cases out with
    | ok result =>
      rw [bind_run_ok run, bind_run_ok same]
      exact later result s₁ before
    | error what =>
      rw [bind_run_error run, bind_run_error same]
      exact .inl ⟨before, rfl⟩
  · obtain ⟨failure', polls, ran, failed', set'⟩ := refuses failure failed s' set
    have whole : Proceeds s₁ ((y >>= next') s).2 := by
      cases out with
      | ok result =>
        rw [bind_run_ok run]
        exact proceeds result s₁
      | error what =>
        rw [bind_run_error run]
        exact refl s₁
    refine .inr ⟨behind.trans_le whole.polls, failure', _, (bind_run_ok cut).trans ran, failed', set', ?_⟩
    exact Continues.trans ⟨goesOn.evaluations, goesOn.accesses, goesOn.mailbox⟩ whole.toContinues

end CutOff

section Nodes

variable [CxxDouble D] {arrival : Nat → Option (VarMap D)} {k : Nat}

/-- Up to the flag, the two enter a node alike. -/
theorem enterNode_alike (data : NodeData) {s : ExecState D} (before : s.polls < k) :
    enterNode (.cancelledFrom arrival k) data s = enterNode (.uncancelled arrival) data s := by
  have poll : pollCancelled (.cancelledFrom arrival k) s = (.ok false, { s with polls := s.polls + 1 }) := by
    show (Except.ok (decide (k ≤ s.polls)), _) = _
    rw [decide_eq_false (not_le.2 before)]
  have poll' : pollCancelled (.uncancelled arrival) s = (.ok false, { s with polls := s.polls + 1 }) := rfl
  unfold enterNode
  rw [bind_run_ok poll, bind_run_ok poll']

theorem enterNode_polls (arrival : Nat → Option (VarMap D)) (data : NodeData) (s : ExecState D) :
    ∃ failure?, enterNode (.uncancelled arrival) data s = (.ok failure?, entered data s) := by
  have uncancelled : (Environment.uncancelled arrival).Uncancelled := fun _ => rfl
  by_cases passes : Passes data s
  · exact ⟨none, enterNode_passes uncancelled passes⟩
  · obtain ⟨failure, entry, -⟩ := enterNode_blocked uncancelled passes
    exact ⟨some failure, entry⟩

theorem executeCommand_cutOff (command : Str) (params : StrMap) :
    CutOff k (executeCommand (.cancelledFrom arrival k) command params)
      (executeCommand (.uncancelled arrival) command params) := by
  have same : executeCommand (.cancelledFrom arrival k) command params =
      executeCommand (.uncancelled arrival) command params := rfl
  rw [same]
  exact .of_polls (executeCommand_polls _ command params)

theorem executeCondition_cutOff (data : NodeData) : CutOff k (executeCondition (D := D) data) (executeCondition data) := by
  refine .of_polls fun s => ?_
  unfold executeCondition
  split
  · rfl
  · show ((if evaluate s.vm data.expression = true then _ else _ : Exec D (ExecutionResult D)) s).2.polls = _
    split
    · rfl
    · rfl

theorem executeNode_looks (arrival : Nat → Option (VarMap D)) (node : BehaviorNode) (s : ExecState D) :
    s.polls < (executeNode (.uncancelled arrival) node s).2.polls := by
  obtain ⟨data, children⟩ := node
  obtain ⟨failure?, entry⟩ := enterNode_polls arrival data s
  have rules := (proceeds_frame (.uncancelled arrival)).rules
  have within (nodes : List BehaviorNode) : Within .all nodes := within_all nodes
  refine lt_of_lt_of_le (Nat.lt_succ_self s.polls) (Proceeds.polls (s := entered data s) ?_)
  unfold executeNode
  rw [bind_run_ok entry]
  refine (?_ : Keeps Proceeds _) (entered data s)
  cases failure? with
  | some failure => exact keeps_pure _
  | none =>
    refine Keeps.bind ?_ fun result => rules.finishNode data result
    cases type : data.type with
    | action => exact rules.executeCommand (.inl type) (within [.mk data children]) fun _ _ _ _ => trivial
    | condition => exact rules.executeCondition data
    | sequence => exact rules.executeSequence children _ (within _) fun _ _ _ _ => trivial
    | selector => exact rules.executeSelector data.name children (within _) fun _ _ _ _ => trivial
    | parallel => exact rules.executeParallel children _ _ (within _) fun _ _ _ _ => trivial
    | subtree => exact rules.executeCommand (.inr type) (within [.mk data children]) fun _ _ _ _ => trivial

mutual

/-- By induction on the tree. A child that refuses ends a Sequence at once; a Selector and a Parallel go on to children
that refuse too. -/
theorem executeNode_cutOff : ∀ node : BehaviorNode,
    CutOff k (executeNode (.cancelledFrom arrival k) node) (executeNode (.uncancelled arrival) node)
  | .mk data children => by
    intro s early
    rcases early.eq_or_lt with now | before
    · have whole := executeNode_proceeds (.uncancelled arrival) (.mk data children) s
      have looked := executeNode_looks arrival (.mk data children) s
      refine .inr ⟨now ▸ looked, _, _, executeNode_cancelled _ (decide_eq_true now.ge), rfl, ?_, ?_⟩
      · exact now ▸ Nat.lt_succ_self s.polls
      · exact ⟨whole.evaluations, whole.accesses, whole.mailbox⟩
    · obtain ⟨failure?, entry⟩ := enterNode_polls arrival data s
      unfold executeNode
      refine CutOffAt.behind ?_ (bind_run_ok ((enterNode_alike data before).trans entry)) (bind_run_ok entry)
      refine (?_ : CutOff k _ _) (entered data s) before
      cases failure? with
      | some failure => exact .of_polls fun _ => rfl
      | none =>
        refine CutOff.bind ?_ (fun result => ?_) (fun failure failed => finishNode_refuses failed) fun result => ?_
        · cases data.type with
          | action => exact executeCommand_cutOff _ _
          | condition => exact executeCondition_cutOff data
          | sequence => exact executeSequence_cutOff children _
          | selector => exact executeSelector_cutOff data.name children
          | parallel => exact executeParallel_cutOff children _ _
          | subtree => exact executeCommand_cutOff _ _
        · refine .of_polls fun s => ?_
          obtain ⟨result', run, -⟩ := finishNode_run data result s
          rw [run]
        · exact (proceeds_frame (.uncancelled arrival)).rules.finishNode data result

theorem executeSequence_cutOff : ∀ (children : List BehaviorNode) (outputs : VarMap D),
    CutOff k (executeSequence (.cancelledFrom arrival k) children outputs)
      (executeSequence (.uncancelled arrival) children outputs)
  | [], outputs => by
    unfold executeSequence
    exact .of_polls fun _ => rfl
  | child :: children, outputs => by
    unfold executeSequence
    refine CutOff.bind (executeNode_cutOff child) (fun result => ?_) (fun failure failed => ?_) fun result => ?_
    · split
      · exact executeSequence_cutOff children _
      · exact .of_polls fun _ => rfl
    · rw [if_neg (by rw [failed]; exact Bool.false_ne_true)]
      exact refuses_pure failed
    · split
      · exact (proceeds_frame _).rules.executeSequence children _ (within_all _) fun _ _ _ _ => trivial
      · exact keeps_pure _

theorem executeSelector_cutOff (name : Str) : ∀ children : List BehaviorNode,
    CutOff k (executeSelector (.cancelledFrom arrival k) name children)
      (executeSelector (.uncancelled arrival) name children)
  | [] => by
    unfold executeSelector
    exact .of_polls fun _ => rfl
  | child :: children => by
    unfold executeSelector
    refine CutOff.bind (executeNode_cutOff child) (fun result => ?_) (fun failure failed => ?_) fun result => ?_
    · split
      · exact .of_polls fun _ => rfl
      · exact executeSelector_cutOff name children
    · rw [if_neg (by rw [failed]; exact Bool.false_ne_true)]
      exact executeSelector_refuses name children
    · split
      · exact keeps_pure _
      · exact (proceeds_frame _).rules.executeSelector name children (within_all _) fun _ _ _ _ => trivial

theorem executeParallel_cutOff : ∀ (children : List BehaviorNode) (firstFailed : Option Str) (outputs : VarMap D),
    CutOff k (executeParallel (.cancelledFrom arrival k) children firstFailed outputs)
      (executeParallel (.uncancelled arrival) children firstFailed outputs)
  | [], none, outputs => by
    unfold executeParallel
    exact .of_polls fun _ => rfl
  | [], some firstFailedNode, outputs => by
    unfold executeParallel
    exact .of_polls fun _ => rfl
  | child :: children, firstFailed, outputs => by
    unfold executeParallel
    refine CutOff.bind (executeNode_cutOff child) (fun result => ?_) (fun failure failed => ?_) fun result => ?_
    · split
      · exact executeParallel_cutOff children _ _
      · exact executeParallel_cutOff children _ _
    · rw [if_neg (by rw [failed]; exact Bool.false_ne_true)]
      cases firstFailed with
      | none => exact executeParallel_refuses children _ _
      | some failedNode => exact executeParallel_refuses children _ _
    · split
      · exact (proceeds_frame _).rules.executeParallel children _ _ (within_all _) fun _ _ _ _ => trivial
      · exact (proceeds_frame _).rules.executeParallel children _ _ (within_all _) fun _ _ _ _ => trivial

end

/-! ## Uses of the mailbox -/

/-- Up to the flag, the uses are the first ones of the run in which it is not set. -/
def CutShort (k : Nat) (first whole : ExecState D → List (MailboxAccess D)) : Prop :=
  ∀ s, s.polls ≤ k → first s <+: whole s

omit [CxxDouble D] in
/-- Behind a run that is cut off, nothing is used any more. -/
theorem CutShort.append {x y : Exec D (ExecutionResult D)} {env env' : Environment D}
    {first whole : ExecState D → List (MailboxAccess D)} {later later' : ExecutionResult D → ExecState D → List (MailboxAccess D)}
    (short : CutShort k first whole) (cut : CutOff k x y) (logs : Logs env x first) (logs' : Logs env' y whole)
    (next : ∀ result, CutShort k (later result) (later' result))
    (silent : ∀ failure, failure.success = false → ∀ s, k < s.polls → later failure s = []) :
    CutShort k (fun s => first s ++ behind x later s) (fun s => whole s ++ behind y later' s) := by
  intro s early
  show first s ++ behind x later s <+: whole s ++ behind y later' s
  rcases cut s early with ⟨before, same⟩ | ⟨_, failure, s', run, failed, set, _⟩
  · have uses : first s = whole s := by
      have left := (logs s).accesses
      have right := (logs' s).accesses
      rw [same] at left
      exact (short s early).eq_of_length (by omega)
    rw [uses, List.prefix_append_right_inj]
    rcases run : y s with ⟨out, s₁⟩
    rw [run] at before same
    cases out with
    | ok result =>
      rw [behind_ok same, behind_ok run]
      exact next result s₁ before
    | error what =>
      rw [behind_error same]
      exact List.nil_prefix
  · rw [behind_ok run, silent failure failed s' set, List.append_nil]
    exact (short s early).trans (List.prefix_append _ _)

/-- A node that finds the flag set does not use the mailbox. -/
theorem nodeAccesses_cancelled {env : Environment D} (node : BehaviorNode) {s : ExecState D}
    (set : env.cancelled s.polls = true) : nodeAccesses env node s = [] := by
  obtain ⟨data, children⟩ := node
  rw [nodeAccesses, behind_ok (enterNode_cancelled data set)]
  rfl

/-- Of such a node and what comes behind it only the latter is left. -/
theorem nodeAccesses_behind_cancelled {env : Environment D} (node : BehaviorNode)
    (later : ExecutionResult D → ExecState D → List (MailboxAccess D)) {s : ExecState D}
    (set : env.cancelled s.polls = true) :
    nodeAccesses env node s ++ behind (executeNode env node) later s =
      later (.ofFailure (lit "任务已取消") node.data.name) { s with polls := s.polls + 1 } := by
  rw [nodeAccesses_cancelled node set, behind_ok (executeNode_cancelled node set)]
  rfl

theorem selectorAccesses_silent (children : List BehaviorNode) {s : ExecState D} (set : k < s.polls) :
    selectorAccesses (.cancelledFrom arrival k) children s = [] := by
  induction children generalizing s with
  | nil => rw [selectorAccesses]; rfl
  | cons child children ih =>
    rw [selectorAccesses]
    apply (nodeAccesses_behind_cancelled child _ (decide_eq_true (le_of_lt set))).trans
    exact ih (Nat.lt_succ_of_lt set)

theorem parallelAccesses_silent (children : List BehaviorNode) {s : ExecState D} (set : k < s.polls) :
    parallelAccesses (.cancelledFrom arrival k) children s = [] := by
  induction children generalizing s with
  | nil => rw [parallelAccesses]; rfl
  | cons child children ih =>
    rw [parallelAccesses]
    apply (nodeAccesses_behind_cancelled child _ (decide_eq_true (le_of_lt set))).trans
    exact ih (Nat.lt_succ_of_lt set)

omit [CxxDouble D] in
theorem cutShort_none : CutShort (D := D) k noAccess noAccess := fun _ _ => List.nil_prefix

mutual

/-- By induction on the tree, along the runs. -/
theorem nodeAccesses_cutShort : ∀ node : BehaviorNode,
    CutShort k (nodeAccesses (.cancelledFrom arrival k) node) (nodeAccesses (.uncancelled arrival) node)
  | .mk data children => by
    intro s early
    rcases early.eq_or_lt with now | before
    · rw [nodeAccesses_cancelled _ (decide_eq_true now.ge)]
      exact List.nil_prefix
    · obtain ⟨failure?, entry⟩ := enterNode_polls arrival data s
      rw [nodeAccesses, nodeAccesses, behind_ok ((enterNode_alike data before).trans entry), behind_ok entry]
      refine (?_ : CutShort k _ _) (entered data s) before
      cases failure? with
      | some failure => exact cutShort_none
      | none =>
        cases data.type with
        | action | subtree => exact fun _ _ => List.prefix_refl _
        | condition => exact cutShort_none
        | sequence => exact sequenceAccesses_cutShort children
        | selector => exact selectorAccesses_cutShort children
        | parallel => exact parallelAccesses_cutShort children

theorem sequenceAccesses_cutShort : ∀ children : List BehaviorNode,
    CutShort k (sequenceAccesses (.cancelledFrom arrival k) children) (sequenceAccesses (.uncancelled arrival) children)
  | [] => by
    rw [sequenceAccesses, sequenceAccesses]
    exact cutShort_none
  | child :: children => by
    rw [sequenceAccesses, sequenceAccesses]
    refine (nodeAccesses_cutShort child).append (executeNode_cutOff child) (logs_executeNode child) (logs_executeNode child)
      (fun result => ?_) fun failure failed s _ => ?_
    · split
      · exact sequenceAccesses_cutShort children
      · exact cutShort_none
    · rw [if_neg (by rw [failed]; exact Bool.false_ne_true)]
      rfl

theorem selectorAccesses_cutShort : ∀ children : List BehaviorNode,
    CutShort k (selectorAccesses (.cancelledFrom arrival k) children) (selectorAccesses (.uncancelled arrival) children)
  | [] => by
    rw [selectorAccesses, selectorAccesses]
    exact cutShort_none
  | child :: children => by
    rw [selectorAccesses, selectorAccesses]
    refine (nodeAccesses_cutShort child).append (executeNode_cutOff child) (logs_executeNode child) (logs_executeNode child)
      (fun result => ?_) fun failure failed s set => ?_
    · split
      · exact cutShort_none
      · exact selectorAccesses_cutShort children
    · rw [if_neg (by rw [failed]; exact Bool.false_ne_true)]
      exact selectorAccesses_silent children set

theorem parallelAccesses_cutShort : ∀ children : List BehaviorNode,
    CutShort k (parallelAccesses (.cancelledFrom arrival k) children) (parallelAccesses (.uncancelled arrival) children)
  | [] => by
    rw [parallelAccesses, parallelAccesses]
    exact cutShort_none
  | child :: children => by
    rw [parallelAccesses, parallelAccesses]
    exact (nodeAccesses_cutShort child).append (executeNode_cutOff child) (logs_executeNode child) (logs_executeNode child)
      (fun _ => parallelAccesses_cutShort children) fun _ _ _ set => parallelAccesses_silent children set

end

end Nodes

/-! ## Tasks -/

section Tasks

variable [CxxDouble D] (cfg : ExecutorConfig) (arrival : Nat → Option (VarMap D)) (k : Nat)

/-- What a run has in common with another that differs in the variables. -/
def ledger (s : ExecState D) : VarMap D × Nat × Nat × List (Evaluation D) := (s.mailbox, s.polls, s.accesses, s.evaluations)

/-- The round of the loop behind the node. -/
def behindNode (snapshotId : Str) (nodeResult : ExecutionResult D) : Exec D (ExecutionResult D) :=
  if nodeResult.success then pure { success := true, outputs := mergeOutputs OrdMap.empty nodeResult.outputs }
  else do
    if cfg.enableRollback then restoreSnapshot snapshotId
    return nodeResult

omit [CxxDouble D] in
theorem behindNode_run (snapshotId : Str) (nodeResult : ExecutionResult D) (s : ExecState D) :
    ∃ result s', behindNode cfg snapshotId nodeResult s = (.ok result, s') ∧ result.success = nodeResult.success ∧
      ledger s' = ledger s := by
  unfold behindNode
  split
  · rename_i succeeded
    exact ⟨_, s, rfl, succeeded.symm, rfl⟩
  · cases cfg.enableRollback with
    | true => exact ⟨nodeResult, _, rfl, rfl, rfl⟩
    | false => exact ⟨nodeResult, _, rfl, rfl, rfl⟩

omit [CxxDouble D] in
theorem Continues.of_ledger {s t s' t' : ExecState D} (goesOn : Continues s t) (left : ledger s' = ledger s)
    (right : ledger t' = ledger t) : Continues s' t' := by
  unfold ledger at left right
  simp only [Prod.mk.injEq] at left right
  refine ⟨?_, ?_, ?_⟩
  · rw [left.2.2.2, right.2.2.2]
    exact goesOn.evaluations
  · rw [left.2.2.1, right.2.2.1]
    exact goesOn.accesses
  · rw [left.1, right.1, left.2.2.1, right.2.2.1]
    exact goesOn.mailbox

/-- The loop looks at the flag before the node, so it does not matter whether the flag was set before. -/
theorem runNodes_cutOff (snapshotId : Str) (node : BehaviorNode) (s : ExecState D) :
    CutOffAt k (runNodes cfg (.cancelledFrom arrival k) snapshotId [node] OrdMap.empty)
      (runNodes cfg (.uncancelled arrival) snapshotId [node] OrdMap.empty) s := by
  have runs : ∀ env : Environment D, env.cancelled s.polls = false → runNodes cfg env snapshotId [node] OrdMap.empty s =
      (executeNode env node >>= behindNode cfg snapshotId) { s with polls := s.polls + 1 } := by
    intro env unset
    have poll : pollCancelled env s = (.ok false, { s with polls := s.polls + 1 }) := by
      show (Except.ok (env.cancelled s.polls), _) = _
      rw [unset]
    unfold runNodes
    rw [bind_run_ok poll]
    rfl
  have tail : ∀ env : Environment D, ∀ s₁ : ExecState D,
      ledger ((executeNode env node >>= behindNode cfg snapshotId) s₁).2 = ledger (executeNode env node s₁).2 := by
    intro env s₁
    rcases ran : executeNode env node s₁ with ⟨out, s₂⟩
    cases out with
    | ok result =>
      obtain ⟨_, s₃, run, -, same⟩ := behindNode_run cfg snapshotId result s₂
      rw [bind_run_ok ran, run]
      exact same
    | error what => rw [bind_run_error ran]
  have polls : ∀ {a b : ExecState D}, ledger a = ledger b → a.polls = b.polls := fun same =>
    (Prod.mk.inj (Prod.mk.inj same).2).1
  have whole := tail (.uncancelled arrival) { s with polls := s.polls + 1 }
  rcases lt_or_ge s.polls k with before | set
  · refine CutOffAt.behind ?_ (runs _ (decide_eq_false (not_le.2 before))) (runs _ rfl)
    have below : CutOff k (executeNode (.cancelledFrom arrival k) node) (executeNode (.uncancelled arrival) node) :=
      executeNode_cutOff node
    rcases below { s with polls := s.polls + 1 } before with ⟨early, same⟩ |
      ⟨late, failure, s', cut, failed, found, goesOn⟩
    · refine .inl ⟨(polls whole).trans_le early, ?_⟩
      show Effect.bind _ _ _ = Effect.bind _ _ _
      unfold Effect.bind
      rw [same]
    · obtain ⟨result, s'', run, same, kept⟩ := behindNode_run cfg snapshotId failure s'
      refine .inr ⟨(polls whole).symm ▸ late, result, s'', (bind_run_ok cut).trans run, same.trans failed, ?_, ?_⟩
      · exact (polls kept).symm ▸ found
      · exact goesOn.of_ledger kept whole
  · have poll : pollCancelled (.cancelledFrom arrival k) s = (.ok true, { s with polls := s.polls + 1 }) := by
      show (Except.ok (decide (k ≤ s.polls)), _) = _
      rw [decide_eq_true set]
    have refused : runNodes cfg (.cancelledFrom arrival k) snapshotId [node] OrdMap.empty s =
        (.ok (.ofFailure (lit "任务已取消") node.data.name), { s with polls := s.polls + 1 }) := by
      unfold runNodes
      rw [bind_run_ok poll]
      rfl
    have looked := executeNode_looks arrival node { s with polls := s.polls + 1 }
    have more := executeNode_proceeds (.uncancelled arrival) node { s with polls := s.polls + 1 }
    refine .inr ?_
    rw [runs (.uncancelled arrival) rfl]
    refine ⟨(polls whole).symm ▸ (lt_of_le_of_lt set (Nat.lt_of_succ_lt looked)), _, _, refused, rfl, ?_, ?_⟩
    · exact Nat.lt_succ_of_le set
    · exact more.toContinues.of_ledger rfl whole

theorem runTask_cutOff (task : TaskSegment) (behavior : BehaviorNode) (snapshotId : Str) (s : ExecState D) :
    CutOffAt k (runTask cfg (.cancelledFrom arrival k) task behavior snapshotId)
      (runTask cfg (.uncancelled arrival) task behavior snapshotId) s :=
  (runNodes_cutOff cfg arrival k snapshotId _ { s with
    vm := (initializeAllDefaults (instantiate behavior task.behaviorParams) s.vm).setFromParams task.behaviorParams .loc
    }).behind rfl rfl

theorem runNodesAccesses_single (env : Environment D) (node : BehaviorNode) (s : ExecState D) :
    runNodesAccesses env [node] s =
      if env.cancelled s.polls then [] else nodeAccesses env node { s with polls := s.polls + 1 } := by
  have poll : pollCancelled env s = (.ok (env.cancelled s.polls), { s with polls := s.polls + 1 }) := rfl
  have nothing (s₁ : ExecState D) : behind (executeNode env node) (fun result =>
      if result.success then runNodesAccesses env [] else noAccess) s₁ = [] := by
    rw [runNodesAccesses]
    unfold behind
    split
    · dsimp only
      split
      · rfl
      · rfl
    · rfl
  rw [runNodesAccesses, behind_ok poll]
  split
  · rfl
  · dsimp only
    rw [nothing, List.append_nil]

theorem runNodesAccesses_prefix (node : BehaviorNode) (s : ExecState D) :
    runNodesAccesses (.cancelledFrom arrival k) [node] s <+: runNodesAccesses (.uncancelled arrival) [node] s := by
  have unset : (Environment.uncancelled arrival).cancelled s.polls = false := rfl
  rw [runNodesAccesses_single, runNodesAccesses_single, unset, if_neg Bool.false_ne_true]
  rcases lt_or_ge s.polls k with before | set
  · have unfound : (Environment.cancelledFrom arrival k).cancelled s.polls = false := decide_eq_false (not_le.2 before)
    rw [unfound, if_neg Bool.false_ne_true]
    exact nodeAccesses_cutShort node { s with polls := s.polls + 1 } before
  · have finds : (Environment.cancelledFrom arrival k).cancelled s.polls = true := decide_eq_true set
    rw [finds, if_pos rfl]
    exact List.nil_prefix

/-- A cancelled task uses the mailbox as the task does that is not cancelled, and then no more. -/
theorem taskAccesses_prefix (task : TaskSegment) (behavior : BehaviorNode) (s : ExecState D) :
    taskAccesses (.cancelledFrom arrival k) task behavior s <+: taskAccesses (.uncancelled arrival) task behavior s :=
  runNodesAccesses_prefix arrival k _ _

/-- A task that has ended before it could find the flag set ends as if nobody had set it. Any other fails: the variables
are as they were before, all that it has evaluated belongs to what the task would have evaluated uncancelled, and the
mailbox is that behind a first part of the uses that the task would have made. -/
theorem cancelled_all_or_nothing (rollback : cfg.enableRollback = true) (task : TaskSegment) (behavior : BehaviorNode)
    (elapsedMs : Int) (s : ExecState D) :
    (executeTaskInternal cfg (.uncancelled arrival) task behavior elapsedMs s).2.polls ≤ k ∧
        executeTaskInternal cfg (.cancelledFrom arrival k) task behavior elapsedMs s =
          executeTaskInternal cfg (.uncancelled arrival) task behavior elapsedMs s ∨
      k < (executeTaskInternal cfg (.uncancelled arrival) task behavior elapsedMs s).2.polls ∧
      ∃ result s', executeTaskInternal cfg (.cancelledFrom arrival k) task behavior elapsedMs s = (.ok result, s') ∧
        result.success = false ∧ s'.vm.globalVars = announced task s.vm.globalVars ∧
        s'.vm.localVars = OrdMap.empty ∧ s'.vm.intermediateVars = OrdMap.empty ∧
        Continues s' (executeTaskInternal cfg (.uncancelled arrival) task behavior elapsedMs s).2 ∧
        taskAccesses (.cancelledFrom arrival k) task behavior s <+: taskAccesses (.uncancelled arrival) task behavior s ∧
        Explains (.cancelledFrom arrival k) (taskAccesses (.cancelledFrom arrival k) task behavior s) s s' := by
  have ends : ∀ env, ledger (executeTaskInternal cfg env task behavior elapsedMs s).2 =
      ledger (runTask cfg env task behavior (startSnapshot task s) (startState task s)).2 := by
    intro env
    rw [executeTaskInternal_run]
    rcases runTask cfg env task behavior (startSnapshot task s) (startState task s) with ⟨out, s'⟩
    cases out with
    | ok result => rfl
    | error what => rfl
  have whole := ends (.uncancelled arrival)
  rcases runTask_cutOff cfg arrival k task behavior (startSnapshot task s) (startState task s) with ⟨early, same⟩ |
    ⟨late, failure, s₁, cut, failed, -, goesOn⟩
  · refine .inl ⟨(Prod.mk.inj (Prod.mk.inj whole).2).1.trans_le early, ?_⟩
    rw [executeTaskInternal_run, executeTaskInternal_run, same]
  · obtain ⟨result, s', run, restored, noLocals, noIntermediates⟩ :=
      executeTaskInternal_rolls_back cfg rollback (.cancelledFrom arrival k) task behavior elapsedMs s
    have cutRun := run
    rw [executeTaskInternal_run, cut] at cutRun
    obtain ⟨outcome, left⟩ := Prod.mk.inj cutRun
    cases outcome
    have explained := executeTaskInternal_explains cfg (.cancelledFrom arrival k) task behavior elapsedMs s
    rw [run] at explained
    refine .inr ⟨?_, _, s', run, failed, restored failed, noLocals, noIntermediates, ?_, ?_, explained⟩
    · rw [(Prod.mk.inj (Prod.mk.inj whole).2).1]
      exact late
    · exact goesOn.of_ledger (left ▸ rfl) whole
    · exact taskAccesses_prefix arrival k task behavior s

end Tasks

/-- A tree that sets a GLOBAL variable and then sends. -/
def markAndSend : BehaviorNode :=
  .mk { name := lit "Main", type := .sequence }
    [.mk { name := lit "Mark", type := .action, command := lit "SETVAR mode = 1" } [],
      .mk { name := lit "Send", type := .action, command := lit "SEND"
            params := OrdMap.empty.insert (lit "x") (lit "1") } []]

/-- Cancelled before its second action. -/
theorem cancelled_all_or_nothing_sample : ∃ result s',
    executeTaskInternal {} (.cancelledFrom (D := FixedPoint) (fun _ => none) 3) plainTask markAndSend 3 {} =
      (.ok result, s') ∧
    result.success = false ∧ s'.vm.globalVars = announced plainTask OrdMap.empty := by
  have looks : (executeTaskInternal {} (.uncancelled (D := FixedPoint) fun _ => none) plainTask markAndSend 3 {}).2.polls =
      4 := by decide
  rcases cancelled_all_or_nothing (D := FixedPoint) {} (fun _ => none) 3 rfl plainTask markAndSend 3 {} with
    ⟨early, -⟩ | ⟨-, result, s', run, failed, restored, -⟩
  · rw [looks] at early
    exact absurd early (by decide)
  · exact ⟨result, s', run, failed, restored⟩

end Actuator.Executor
