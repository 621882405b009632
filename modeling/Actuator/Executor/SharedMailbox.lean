import Actuator.Executor.Rollback
import Actuator.Lib.Register

/-!
# The shared mailbox

The mailbox is no part of a task's snapshot, so what a task sends stays there
when the task fails. The accesses of a task can be read off its run
(`executeTaskInternal_explains`), and in every order of the accesses of all
tasks, no packet of a failed task is received as long as no failing task sends
(`failed_leave_mailbox`).
-/

namespace Actuator.Executor

open Actuator.Lib Actuator.Core Actuator.Parser
open Actuator.Lib.Effect

variable {D : Type}

abbrev MailboxAccess (D : Type) := Access (VarMap D)

/-! ## Accesses of a run -/

def noAccess (_ : ExecState D) : List (MailboxAccess D) := []

section Accesses

variable [CxxDouble D] (env : Environment D)

def commandAccesses (command : Str) (params : StrMap) : ExecState D → List (MailboxAccess D) :=
  if command.isEmpty then noAccess
  else if commandName command = lit "SEND" then
    behind (paramLoop evaluateParam (fun _ _ => pure ()) params.entries OrdMap.empty) fun packet _ => [.wrote packet]
  else if commandName command = lit "RECEIVE" then fun s => [.read ((env.arrival s.accesses).getD s.mailbox)]
  else noAccess

mutual

def nodeAccesses : BehaviorNode → ExecState D → List (MailboxAccess D)
  | .mk data children =>
    behind (enterNode env data) fun failure? =>
      match failure? with
      | some _ => noAccess
      | none =>
        match data.type with
        | .action => commandAccesses env data.command data.params
        | .condition => noAccess
        | .sequence => sequenceAccesses children
        | .selector => selectorAccesses children
        | .parallel => parallelAccesses children
        | .subtree => commandAccesses env data.command data.params

def sequenceAccesses : List BehaviorNode → ExecState D → List (MailboxAccess D)
  | [] => noAccess
  | child :: children => fun s => nodeAccesses child s ++
      behind (executeNode env child) (fun result => if result.success then sequenceAccesses children else noAccess) s

def selectorAccesses : List BehaviorNode → ExecState D → List (MailboxAccess D)
  | [] => noAccess
  | child :: children => fun s => nodeAccesses child s ++
      behind (executeNode env child) (fun result => if result.success then noAccess else selectorAccesses children) s

def parallelAccesses : List BehaviorNode → ExecState D → List (MailboxAccess D)
  | [] => noAccess
  | child :: children => fun s => nodeAccesses child s ++
      behind (executeNode env child) (fun _ => parallelAccesses children) s

end

def runNodesAccesses : List BehaviorNode → ExecState D → List (MailboxAccess D)
  | [] => noAccess
  | node :: nodes =>
    behind (pollCancelled env) fun cancelled =>
      if cancelled then noAccess
      else fun s => nodeAccesses env node s ++
        behind (executeNode env node) (fun result => if result.success then runNodesAccesses nodes else noAccess) s

/-- The accesses of `runTask`. -/
def runTaskAccesses (task : TaskSegment) (behavior : BehaviorNode) (s : ExecState D) : List (MailboxAccess D) :=
  let nodes := instantiate behavior task.behaviorParams
  runNodesAccesses env nodes
    { s with vm := (initializeAllDefaults nodes s.vm).setFromParams task.behaviorParams .loc }

/-- The accesses of `executeTaskInternal`. -/
def taskAccesses (task : TaskSegment) (behavior : BehaviorNode) (s : ExecState D) : List (MailboxAccess D) :=
  runTaskAccesses env task behavior (startState task s)

end Accesses

/-! ## The accesses explain the mailbox -/

/-- The accesses lead from the mailbox before to the mailbox after. -/
structure Explains (env : Environment D) (log : List (MailboxAccess D)) (s s' : ExecState D) : Prop where
  mailbox : s'.mailbox = Access.contents s.mailbox log
  accesses : s'.accesses = s.accesses + log.length
  reads : Access.ReadsFrom env.arrival s.accesses s.mailbox log

/-- The mailbox and the number of its accesses. -/
def mailboxPart (s : ExecState D) : VarMap D × Nat := (s.mailbox, s.accesses)

/-- What every run of the computation does with the mailbox. -/
def Logs (env : Environment D) {α : Type} (x : Exec D α) (log : ExecState D → List (MailboxAccess D)) : Prop :=
  ∀ s, Explains env (log s) s (x s).2

variable {env : Environment D}

theorem explains_of_same {s s' : ExecState D} (same : mailboxPart s' = mailboxPart s) : Explains env [] s s' := by
  obtain ⟨mailbox, accesses⟩ := Prod.mk.inj same
  exact ⟨mailbox, accesses, trivial⟩

theorem Explains.trans {log more : List (MailboxAccess D)} {s s₁ s₂ : ExecState D} (first : Explains env log s s₁)
    (later : Explains env more s₁ s₂) : Explains env (log ++ more) s s₂ := by
  refine ⟨?_, ?_, ?_⟩
  · rw [later.mailbox, first.mailbox, Access.contents_append]
  · rw [later.accesses, first.accesses, List.length_append]
    omega
  · have reads := later.reads
    rw [first.accesses, first.mailbox] at reads
    exact first.reads.append reads

theorem logs_of_keeps {α : Type} {x : Exec D α} (keeps : Keeps (SameOn mailboxPart) x) : Logs env x noAccess :=
  fun s => explains_of_same (keeps s)

theorem Logs.bind {α β : Type} {x : Exec D α} {k : α → Exec D β} {first : ExecState D → List (MailboxAccess D)}
    {later : α → ExecState D → List (MailboxAccess D)} (logs : Logs env x first) (next : ∀ a, Logs env (k a) (later a)) :
    Logs env (x >>= k) fun s => first s ++ behind x later s := by
  intro s
  have before := logs s
  show Explains env (first s ++ behind x later s) s ((x >>= k) s).2
  rcases run : x s with ⟨out, s₁⟩
  rw [run] at before
  cases out with
  | ok a =>
    rw [bind_run_ok run, behind_ok run]
    exact before.trans (next a s₁)
  | error e =>
    rw [bind_run_error run, behind_error run, List.append_nil]
    exact before

/-- Behind a computation that leaves the mailbox alone. -/
theorem logs_bind_of_keeps {α β : Type} {x : Exec D α} {k : α → Exec D β}
    {later : α → ExecState D → List (MailboxAccess D)} (keeps : Keeps (SameOn mailboxPart) x)
    (next : ∀ a, Logs env (k a) (later a)) : Logs env (x >>= k) (behind x later) :=
  (logs_of_keeps keeps).bind next

/-- Before a computation that leaves the mailbox alone. -/
theorem Logs.bind_keeps {α β : Type} {x : Exec D α} {k : α → Exec D β} {first : ExecState D → List (MailboxAccess D)}
    (logs : Logs env x first) (keeps : ∀ a, Keeps (SameOn mailboxPart) (k a)) : Logs env (x >>= k) first := by
  intro s
  have before := logs s
  rcases run : x s with ⟨out, s₁⟩
  rw [run] at before
  cases out with
  | ok a =>
    rw [bind_run_ok run, ← List.append_nil (first s)]
    exact before.trans (explains_of_same (keeps a s₁))
  | error e =>
    rw [bind_run_error run]
    exact before

/-! ### Commands -/

section Commands

variable [CxxDouble D] {command : Str} {params : StrMap}

/-- The steps on the variables leave the mailbox alone. -/
theorem mailbox_rules : StoreRules (D := D) (Keeps (SameOn mailboxPart)) .all fun _ => True where
  pure := keeps_pure
  bind := Keeps.bind
  reads _ := keeps_read _
  sets _ _ _ _ _ := rfl
  evaluates _ _ _ _ _ := rfl
  assigns _ _ := keeps_readThrowing _

theorem logs_send : Logs env (send (D := D) params)
    (behind (paramLoop evaluateParam (fun _ _ => pure ()) params.entries OrdMap.empty) fun packet _ =>
      [.wrote packet]) := by
  unfold send
  have covered : Covered .all (fun _ => True) (lit "SEND") params := .all fun _ _ => trivial
  refine logs_bind_of_keeps (mailbox_rules.ownParams covered fun _ _ _ _ => keeps_pure _) fun packet => ?_
  refine Logs.bind_keeps (fun s => ?_) fun _ => keeps_pure _
  exact ⟨rfl, rfl, trivial⟩

theorem logs_receive (is : commandName command = lit "RECEIVE") :
    Logs env (receive env params) fun s => [.read ((env.arrival s.accesses).getD s.mailbox)] := by
  have covered : Covered .all (fun _ => True) command params := .all fun _ _ => trivial
  obtain ⟨k, eq, rest⟩ := @StoreRules.received D _ (Keeps (SameOn mailboxPart)) _ _ env _ _ mailbox_rules covered is
  rw [eq]
  exact Logs.bind_keeps (fun s => ⟨rfl, rfl, rfl, trivial⟩) rest

theorem executeBuiltinCommand_send (is : commandName command = lit "SEND") :
    executeBuiltinCommand env command params = send params := by
  have upper : (trim command).map toUpper = lit "SEND" := is
  unfold executeBuiltinCommand
  simp only [upper]
  rw [if_neg (by decide), if_neg (by decide), if_neg (by decide), if_pos trivial]

theorem executeBuiltinCommand_receive (is : commandName command = lit "RECEIVE") :
    executeBuiltinCommand env command params = receive env params := by
  have upper : (trim command).map toUpper = lit "RECEIVE" := is
  unfold executeBuiltinCommand
  simp only [upper]
  rw [if_neg (by decide), if_neg (by decide), if_neg (by decide), if_neg (by decide), if_pos trivial]

/-- The other commands. -/
theorem keeps_mailbox_executeBuiltinCommand (noSend : commandName command ≠ lit "SEND")
    (noReceive : commandName command ≠ lit "RECEIVE") :
    Keeps (SameOn mailboxPart) (executeBuiltinCommand env command params) :=
  mailbox_rules.executeBuiltinCommand (.all fun _ _ => trivial) (fun is => absurd is noReceive)
    fun is => absurd is noSend

theorem logs_executeCommand : Logs env (executeCommand env command params) (commandAccesses env command params) := by
  unfold executeCommand commandAccesses
  by_cases empty : command.isEmpty = true
  · rw [if_pos empty, if_pos empty]
    exact logs_of_keeps (keeps_pure _)
  · rw [if_neg empty, if_neg empty]
    by_cases sends : commandName command = lit "SEND"
    · rw [if_pos sends, executeBuiltinCommand_send sends]
      exact logs_send
    by_cases receives : commandName command = lit "RECEIVE"
    · rw [if_neg sends, if_pos receives, executeBuiltinCommand_receive receives]
      exact logs_receive receives
    rw [if_neg sends, if_neg receives]
    exact logs_of_keeps (keeps_mailbox_executeBuiltinCommand sends receives)

end Commands

/-! ### Trees -/

section Trees

variable [CxxDouble D]

theorem keeps_mailbox_enterNode (data : NodeData) : Keeps (SameOn mailboxPart) (enterNode env data) :=
  mailbox_rules.enterNode (fun _ => rfl) fun _ _ _ => trivial

mutual

/-- By induction on the tree: the accesses of a node are those of its parts, in the order in which they run. -/
theorem logs_executeNode : ∀ node, Logs env (executeNode env node) (nodeAccesses env node)
  | .mk data children => by
    unfold executeNode nodeAccesses
    refine logs_bind_of_keeps (keeps_mailbox_enterNode data) fun failure? => ?_
    cases failure? with
    | some failure => exact logs_of_keeps (keeps_pure _)
    | none =>
      refine Logs.bind_keeps ?_ fun result => mailbox_rules.finishNode data result
      cases data.type with
      | action => exact logs_executeCommand
      | condition => exact logs_of_keeps (mailbox_rules.executeCondition data)
      | sequence => exact logs_executeSequence children _
      | selector => exact logs_executeSelector data.name children
      | parallel => exact logs_executeParallel children _ _
      | subtree => exact logs_executeCommand

theorem logs_executeSequence : ∀ children outputs,
    Logs env (executeSequence env children outputs) (sequenceAccesses env children)
  | [], outputs => by
    unfold executeSequence sequenceAccesses
    exact logs_of_keeps (keeps_pure _)
  | child :: children, outputs => by
    unfold executeSequence sequenceAccesses
    refine (logs_executeNode child).bind fun result => ?_
    split
    · exact logs_executeSequence children _
    · exact logs_of_keeps (keeps_pure _)

theorem logs_executeSelector (name : Str) : ∀ children,
    Logs env (executeSelector env name children) (selectorAccesses env children)
  | [] => by
    unfold executeSelector selectorAccesses
    exact logs_of_keeps (keeps_pure _)
  | child :: children => by
    unfold executeSelector selectorAccesses
    refine (logs_executeNode child).bind fun result => ?_
    split
    · exact logs_of_keeps (keeps_pure _)
    · exact logs_executeSelector name children

theorem logs_executeParallel : ∀ children firstFailed outputs,
    Logs env (executeParallel env children firstFailed outputs) (parallelAccesses env children)
  | [], none, outputs => by
    unfold executeParallel parallelAccesses
    exact logs_of_keeps (keeps_pure _)
  | [], some _, _ => by
    unfold executeParallel parallelAccesses
    exact logs_of_keeps (keeps_pure _)
  | child :: children, firstFailed, outputs => by
    unfold executeParallel parallelAccesses
    refine (logs_executeNode child).bind fun result => ?_
    split
    · exact logs_executeParallel children _ _
    · exact logs_executeParallel children _ _

end

theorem logs_runNodes (cfg : ExecutorConfig) (snapshotId : Str) (nodes : List BehaviorNode) (outputs : VarMap D) :
    Logs env (runNodes cfg env snapshotId nodes outputs) (runNodesAccesses env nodes) := by
  induction nodes generalizing outputs with
  | nil =>
    unfold runNodes runNodesAccesses
    exact logs_of_keeps (keeps_pure _)
  | cons node nodes ih =>
    unfold runNodes runNodesAccesses
    refine logs_bind_of_keeps (fun _ => rfl) fun cancelled => ?_
    split
    · exact logs_of_keeps (keeps_pure _)
    · refine (logs_executeNode node).bind fun nodeResult => ?_
      split
      · exact ih _
      · refine logs_of_keeps (.ite (fun _ => ?_) fun _ => keeps_pure _)
        exact Keeps.bind (fun _ => rfl) fun _ => keeps_pure _

theorem logs_runTask (cfg : ExecutorConfig) (task : TaskSegment) (behavior : BehaviorNode) (snapshotId : Str) :
    Logs env (runTask cfg env task behavior snapshotId) (runTaskAccesses env task behavior) := by
  intro s
  let nodes := instantiate behavior task.behaviorParams
  have logs : Logs env (runNodes cfg env snapshotId nodes OrdMap.empty) (runNodesAccesses env nodes) :=
    logs_runNodes cfg snapshotId nodes OrdMap.empty
  have explained := logs { s with vm := (initializeAllDefaults nodes s.vm).setFromParams task.behaviorParams .loc }
  exact ⟨explained.mailbox, explained.accesses, explained.reads⟩

/-- However a task ends, its accesses explain what became of the mailbox: no rollback does. -/
theorem executeTaskInternal_explains (cfg : ExecutorConfig) (env : Environment D) (task : TaskSegment)
    (behavior : BehaviorNode) (elapsedMs : Int) (s : ExecState D) :
    Explains env (taskAccesses env task behavior s) s (executeTaskInternal cfg env task behavior elapsedMs s).2 := by
  have logs : Logs env (runTask cfg env task behavior (startSnapshot task s)) (runTaskAccesses env task behavior) :=
    logs_runTask cfg task behavior (startSnapshot task s)
  have explained := logs (startState task s)
  rw [executeTaskInternal_run]
  rcases run : runTask cfg env task behavior (startSnapshot task s) (startState task s) with ⟨outcome, s'⟩
  rw [run] at explained
  cases outcome with
  | ok result => exact ⟨explained.mailbox, explained.accesses, explained.reads⟩
  | error what => exact ⟨explained.mailbox, explained.accesses, explained.reads⟩

end Trees

/-! ## All tasks -/

/-- A task that some satellite executes, with what happens around it. -/
structure TaskRun (D : Type) where
  cfg : ExecutorConfig
  env : Environment D
  task : TaskSegment
  behavior : BehaviorNode
  elapsedMs : Int
  start : ExecState D

namespace TaskRun

variable [CxxDouble D] (run : TaskRun D)

def finish : ExecState D := (executeTaskInternal run.cfg run.env run.task run.behavior run.elapsedMs run.start).2

/-- `executeTask` returns a result with `success=false`. -/
def Failed : Prop := ∃ result, result.success = false ∧
  (executeTaskInternal run.cfg run.env run.task run.behavior run.elapsedMs run.start).1 = .ok result

def accesses : List (MailboxAccess D) := taskAccesses run.env run.task run.behavior run.start

/-- No `SEND` of the task is executed to its end. -/
def Silent : Prop := ∀ packet, Access.wrote packet ∉ run.accesses

/-- No other task writes the mailbox between the start of the task and its last access. -/
def Undisturbed : Prop := ∀ n, run.start.accesses ≤ n → n < run.finish.accesses → run.env.arrival n = none

theorem explains : Explains run.env run.accesses run.start run.finish :=
  executeTaskInternal_explains run.cfg run.env run.task run.behavior run.elapsedMs run.start

variable {run}

/-- What an undisturbed task leaves is what it sent last, if it sent. -/
theorem Undisturbed.mailbox (undisturbed : run.Undisturbed) :
    run.finish.mailbox = (Access.lastWrote run.accesses).getD run.start.mailbox := by
  rw [run.explains.mailbox]
  refine run.explains.reads.contents_eq fun n low high => undisturbed n low ?_
  rw [run.explains.accesses]
  exact high

theorem Silent.mailbox (silent : run.Silent) (undisturbed : run.Undisturbed) :
    run.finish.mailbox = run.start.mailbox := by
  rw [undisturbed.mailbox, Access.lastWrote_eq_none.2 silent, Option.getD_none]

end TaskRun

/-- An order in which the accesses of the tasks reach the mailbox: each task has made a first part of its accesses, and
every `RECEIVE` obtains what the mailbox holds. -/
structure MailboxOrder [CxxDouble D] {ι : Type} [DecidableEq ι] (runs : ι → TaskRun D) (initial : VarMap D)
    (order : List (ι × MailboxAccess D)) : Prop where
  own : ∀ i, (order.filter fun entry => entry.1 = i).map Prod.snd <+: (runs i).accesses
  atomic : Access.Atomic initial order

section Order

variable [CxxDouble D] {ι : Type} [DecidableEq ι] {runs : ι → TaskRun D} {initial : VarMap D}
  {order : List (ι × MailboxAccess D)}

theorem MailboxOrder.mem_accesses (holds : MailboxOrder runs initial order) {i : ι} {access : MailboxAccess D}
    (mem : (i, access) ∈ order) : access ∈ (runs i).accesses := by
  refine (holds.own i).subset (List.mem_map.2 ⟨(i, access), List.mem_filter.2 ⟨mem, ?_⟩, rfl⟩)
  simp

/-- As long as no failing task sends, a failing task that runs alone leaves the mailbox as it was, in every order of the
accesses its own make no difference, and whatever a `RECEIVE` obtains was there from the start or was sent by a task that
does not fail. -/
theorem failed_leave_mailbox (silent : ∀ i, (runs i).Failed → (runs i).Silent) (holds : MailboxOrder runs initial order) :
    (∀ i, (runs i).Failed → (runs i).Undisturbed → (runs i).finish.mailbox = (runs i).start.mailbox) ∧
      (∀ i, (runs i).Failed → Access.contents initial ((order.filter fun entry => entry.1 ≠ i).map Prod.snd) =
        Access.contents initial (order.map Prod.snd)) ∧
      ∀ i packet, (i, .read packet) ∈ order →
        packet = initial ∨ ∃ j, ¬ (runs j).Failed ∧ (j, .wrote packet) ∈ order := by
  refine ⟨fun i failed undisturbed => (silent i failed).mailbox undisturbed, fun i failed => ?_, ?_⟩
  · refine holds.atomic.contents_without fun packet mem => ?_
    exact silent i failed packet (holds.mem_accesses mem)
  · intro i packet mem
    refine (holds.atomic.read_from mem).imp_right fun written => ?_
    obtain ⟨j, wrote⟩ := written
    exact ⟨j, fun failed => silent j failed packet (holds.mem_accesses wrote), wrote⟩

end Order

/-! ## A task that sends and fails -/

/-- Sends `x = 1`, and then divides by `divisor`. -/
def sendingTree (divisor : Str) : BehaviorNode :=
  .mk { name := lit "Main", type := .sequence }
    [.mk { name := lit "Send", type := .action, command := lit "SEND"
           params := OrdMap.empty.insert (lit "x") (lit "1") } [],
      .mk { name := lit "Divide", type := .action, command := lit "ASSIGN"
            params := OrdMap.empty.insert (lit "q") (lit "1 / " ++ divisor) } []]

def receivingTree : BehaviorNode :=
  .mk { name := lit "Receive", type := .action, command := lit "RECEIVE"
        params := OrdMap.empty.insert (lit "x") (lit "0") } []

/-- The packet with `x = 1`. -/
def sentPacket : VarMap FixedPoint := OrdMap.empty.insert (lit "x") (.int 1)

def sampleRun (behavior : BehaviorNode) (mailbox : VarMap FixedPoint) : TaskRun FixedPoint where
  cfg := {}
  env := .quiet
  task := plainTask
  behavior := behavior
  elapsedMs := 3
  start := { mailbox }

theorem sampleRun_undisturbed (behavior : BehaviorNode) (mailbox : VarMap FixedPoint) :
    (sampleRun behavior mailbox).Undisturbed := fun _ _ _ => rfl

/-- Whether the task succeeds. -/
def TaskRun.outcome (run : TaskRun FixedPoint) : Option Bool :=
  (executeTaskInternal run.cfg run.env run.task run.behavior run.elapsedMs run.start).1.toOption.map (·.success)

theorem TaskRun.failed_iff (run : TaskRun FixedPoint) : run.Failed ↔ run.outcome = some false := by
  unfold Failed outcome
  cases (executeTaskInternal run.cfg run.env run.task run.behavior run.elapsedMs run.start).1 with
  | ok result => simp [Except.toOption]
  | error what => simp [Except.toOption]

/-- One task sends, another receives, and a third one fails. -/
def sampleRuns : Nat → TaskRun FixedPoint
  | 0 => sampleRun (sendingTree (lit "2")) OrdMap.empty
  | 1 => sampleRun receivingTree sentPacket
  | _ => sampleRun divisionTree sentPacket

def sampleOrder : List (Nat × MailboxAccess FixedPoint) := [(0, .wrote sentPacket), (1, .read sentPacket)]

theorem sampleRuns_order : MailboxOrder sampleRuns OrdMap.empty sampleOrder := by
  refine ⟨fun i => ?_, rfl, trivial⟩
  match i with
  | 0 => decide
  | 1 => decide
  | n + 2 => exact List.nil_prefix

theorem divisionTree_silent : (sampleRun divisionTree sentPacket).Silent := by
  have none : (sampleRun divisionTree sentPacket).accesses = [] := by decide
  intro packet mem
  rw [none] at mem
  cases mem

theorem sampleRuns_succeed : (sampleRuns 0).outcome = some true ∧ (sampleRuns 1).outcome = some true := by
  constructor
  · decide +kernel
  · decide +kernel

theorem sampleRuns_silent (i : Nat) (failed : (sampleRuns i).Failed) : (sampleRuns i).Silent := by
  rw [TaskRun.failed_iff] at failed
  rcases i with _ | _ | n
  · exact absurd (sampleRuns_succeed.1.symm.trans failed) (by decide)
  · exact absurd (sampleRuns_succeed.2.symm.trans failed) (by decide)
  · exact divisionTree_silent

theorem failed_leave_mailbox_sample :
    (sampleRuns 2).finish.mailbox = sentPacket ∧
      ∀ i packet, (i, .read packet) ∈ sampleOrder →
        packet = OrdMap.empty ∨ ∃ j, ¬ (sampleRuns j).Failed ∧ (j, .wrote packet) ∈ sampleOrder := by
  obtain ⟨alone, _, received⟩ := failed_leave_mailbox sampleRuns_silent sampleRuns_order
  exact ⟨alone 2 ((TaskRun.failed_iff _).2 (by decide)) (sampleRun_undisturbed _ _), received⟩

/-- The first task fails behind its `SEND`, and the second one receives. -/
def failingRuns : Bool → TaskRun FixedPoint
  | false => sampleRun (sendingTree (lit "0")) OrdMap.empty
  | true => sampleRun receivingTree sentPacket

def failingOrder : List (Bool × MailboxAccess FixedPoint) := [(false, .wrote sentPacket), (true, .read sentPacket)]

/-- The failed task was alone with the mailbox and leaves its packet there, and the second task receives it. -/
theorem failed_packet_received :
    (failingRuns false).Failed ∧ (failingRuns false).Undisturbed ∧
      (failingRuns false).start.mailbox = OrdMap.empty ∧ (failingRuns false).finish.mailbox = sentPacket ∧
      MailboxOrder failingRuns OrdMap.empty failingOrder ∧ (true, .read sentPacket) ∈ failingOrder ∧
      sentPacket ≠ OrdMap.empty ∧ ∀ j, (j, .wrote sentPacket) ∈ failingOrder → (failingRuns j).Failed := by
  have failed : (failingRuns false).Failed := (TaskRun.failed_iff _).2 (by decide +kernel)
  refine ⟨failed, sampleRun_undisturbed _ _, rfl, by decide +kernel, ⟨?_, rfl, trivial⟩, by decide, by decide, ?_⟩
  · intro i
    cases i
    · decide +kernel
    · decide +kernel
  · intro j mem
    cases j with
    | false => exact failed
    | true => exact absurd mem (by decide)

end Actuator.Executor
