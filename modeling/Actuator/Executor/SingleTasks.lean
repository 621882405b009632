import Actuator.Executor.GlobalFrame
import Actuator.Lib.Threads
import Actuator.Parser.BehaviorLibrary

/-!
# Calls of one simulator

`SatelliteSimulator::executeSingleTask` may run on several threads. It looks the
behaviour up in a cache and reads the library if it is not there; each access to
the cache is under its mutex, reading is not, and the executor runs one task at
a time. Whatever the order of these steps, the calls do what they would do one
after the other and without a cache (`executeSingleTask_linearizable`): each
behaviour is one that the library held when it was read.
-/

namespace Actuator.Executor

open Actuator.Lib Actuator.Core Actuator.Parser
open Actuator.Lib.Effect (bind_run_ok)

variable {D : Type}

/-! ## The program -/

/-- What the calls share, with the results they have returned. -/
structure SimulatorState (D : Type) where
  executor : Option (ExecState D) := none
  behaviorCache : OrdMap Str BehaviorNode := OrdMap.empty
  /-- How often the library was read. -/
  reads : Nat := 0
  reports : List (TaskSegment × Bool) := []

inductive SimulatorAction (D : Type) where
  | executorAvailable
  | findBehavior (behaviorRef : Str)
  | parseBehaviorDefinition (behaviorRef : Str)
  | cacheBehavior (behaviorRef : Str) (behavior : BehaviorNode)
  | executeTask (task : TaskSegment) (behavior : BehaviorNode)
  /-- The call returns. -/
  | report (task : TaskSegment) (taskOk : Bool)

@[reducible] def SimulatorAction.Response : SimulatorAction D → Type
  | executorAvailable => Bool
  | findBehavior _ => Option BehaviorNode
  | parseBehaviorDefinition _ => Except Str BehaviorNode
  | cacheBehavior _ _ => Unit
  | executeTask _ _ => ExecutionResult D
  | report _ _ => Unit

abbrev SimulatorThread (D : Type) := Program (SimulatorAction D) SimulatorAction.Response

def SimulatorAction.perform (action : SimulatorAction D) : SimulatorThread D action.Response := Program.perform action

open SimulatorAction (perform)

/-- The behaviour of a task, from the cache or from the library. -/
def loadBehavior (behaviorRef : Str) : SimulatorThread D (Option BehaviorNode) := do
  match ← perform (.findBehavior behaviorRef) with
  | some behavior => return some behavior
  | none =>
    match ← perform (.parseBehaviorDefinition behaviorRef) with
    | .error _ => return none
    | .ok behavior =>
      perform (.cacheBehavior behaviorRef behavior)
      return some behavior

def executeSingleTask (task : TaskSegment) : SimulatorThread D Bool := do
  if ← perform .executorAvailable then
    match ← loadBehavior task.behaviorRef with
    | none => return false
    | some behavior =>
      let result ← perform (.executeTask task behavior)
      return result.success
  else return false

/-- A thread that calls `executeSingleTask`. -/
def caller (task : TaskSegment) : SimulatorThread D Unit := do
  let taskOk ← executeSingleTask task
  perform (.report task taskOk)

/-! ## The system -/

/-- What is fixed for the calls: the configuration, and what the file of the library holds when it is read. -/
structure SimulatorSetting (D : Type) where
  json : JsonLibrary D
  cfg : ExecutorConfig
  behaviorTreePath : Str
  contents : Nat → Option Str

variable [CxxDouble D] (setting : SimulatorSetting D)

def SimulatorSetting.parse (n : Nat) (behaviorRef : Str) : Except Str BehaviorNode :=
  parseBehaviorDefinition setting.json setting.behaviorTreePath (setting.contents n) behaviorRef

def simulates : (a : SimulatorAction D) → SimulatorState D → a.Response → SimulatorState D →
    List (SimulatorThread D Unit) → Prop
  | .executorAvailable, s, available, s', started => available = s.executor.isSome ∧ s' = s ∧ started = []
  | .findBehavior behaviorRef, s, found, s', started =>
    found = s.behaviorCache.find? behaviorRef ∧ s' = s ∧ started = []
  | .parseBehaviorDefinition behaviorRef, s, parsed, s', started =>
    parsed = setting.parse s.reads behaviorRef ∧ s' = { s with reads := s.reads + 1 } ∧ started = []
  | .cacheBehavior behaviorRef behavior, s, _, s', started =>
    s' = { s with behaviorCache := s.behaviorCache.insert behaviorRef behavior } ∧ started = []
  | .executeTask task behavior, s, result, s', started =>
    started = [] ∧ ∃ env elapsedMs exec exec', s.executor = some exec ∧
      executeTaskInternal setting.cfg env task behavior elapsedMs exec = (.ok result, exec') ∧
      s' = { s with executor := some exec' }
  | .report task taskOk, s, _, s', started =>
    s' = { s with reports := s.reports ++ [(task, taskOk)] } ∧ started = []

def simulatorSystem : Machine (SimulatorAction D) SimulatorAction.Response (SimulatorState D) := ⟨simulates setting⟩

/-- Some calls on a simulator that has executed nothing yet. -/
def callers (executor : Option (ExecState D)) (tasks : List TaskSegment) :
    Pool (SimulatorAction D) SimulatorAction.Response (SimulatorState D) where
  shared := { executor }
  threads := tasks.map caller

/-! ## Without a cache, one after the other -/

/-- A call that reads the library from a file with this content. -/
structure Turn (D : Type) where
  task : TaskSegment
  content : Option Str
  env : Environment D
  elapsedMs : Int

/-- The whole call at once, without a cache. -/
def executeUncached (turn : Turn D) : Option (ExecState D) → Bool × Option (ExecState D)
  | none => (false, none)
  | some exec =>
    match parseBehaviorDefinition setting.json setting.behaviorTreePath turn.content turn.task.behaviorRef with
    | .error _ => (false, some exec)
    | .ok behavior =>
      match executeTaskInternal setting.cfg turn.env turn.task behavior turn.elapsedMs exec with
      | (.ok result, exec') => (result.success, some exec')
      | (.error _, exec') => (false, some exec')

def replay : List (Turn D) → Option (ExecState D) → List (TaskSegment × Bool) × Option (ExecState D)
  | [], executor => ([], executor)
  | turn :: turns, executor =>
    let ran := executeUncached setting turn executor
    let later := replay turns ran.2
    ((turn.task, ran.1) :: later.1, later.2)

variable {setting}

theorem replay_append (turns : List (Turn D)) (turn : Turn D) (executor : Option (ExecState D)) :
    replay setting (turns ++ [turn]) executor =
      ((replay setting turns executor).1 ++
          [(turn.task, (executeUncached setting turn (replay setting turns executor).2).1)],
        (executeUncached setting turn (replay setting turns executor).2).2) := by
  induction turns generalizing executor with
  | nil => rfl
  | cons first turns ih =>
    rw [List.cons_append, replay, ih]
    rfl

theorem length_replay (turns : List (Turn D)) (executor : Option (ExecState D)) :
    (replay setting turns executor).1.length = turns.length := by
  induction turns generalizing executor with
  | nil => rfl
  | cons turn turns ih => exact congrArg (· + 1) (ih _)

/-! ## Roles -/

/-- How far a call has come. -/
inductive CallRole where
  | waiting (task : TaskSegment)
  | holding (task : TaskSegment) (behavior : BehaviorNode)
  | answered (task : TaskSegment) (taskOk : Bool)
  | finished

namespace CallRole

/-- The task, as long as it was not executed. -/
def pending : CallRole → Option TaskSegment
  | waiting task => some task
  | holding task _ => some task
  | _ => none

/-- The result that is still to be returned. -/
def answer : CallRole → Option (TaskSegment × Bool)
  | answered task taskOk => some (task, taskOk)
  | _ => none

end CallRole

/-- The behaviour was read from the library under this name. -/
def Loaded (setting : SimulatorSetting D) (s : SimulatorState D) (behaviorRef : Str) (behavior : BehaviorNode) : Prop :=
  ∃ n ≤ s.reads, setting.parse n behaviorRef = .ok behavior

/-- What the calls do, with the roles they play before and after. -/
inductive CallStep (setting : SimulatorSetting D) :
    SimulatorState D → CallRole → SimulatorState D → CallRole → Prop
  | look {s : SimulatorState D} {role : CallRole} : CallStep setting s role s role
  | unavailable {s : SimulatorState D} {task : TaskSegment} (none : s.executor = none) :
    CallStep setting s (.waiting task) s (.answered task false)
  | cached {s : SimulatorState D} {task : TaskSegment} {behavior : BehaviorNode}
    (found : s.behaviorCache.find? task.behaviorRef = some behavior) :
    CallStep setting s (.waiting task) s (.holding task behavior)
  | refused {s : SimulatorState D} {task : TaskSegment} {what : Str}
    (parsed : setting.parse s.reads task.behaviorRef = .error what) :
    CallStep setting s (.waiting task) { s with reads := s.reads + 1 } (.answered task false)
  | loaded {s : SimulatorState D} {task : TaskSegment} {behavior : BehaviorNode}
    (parsed : setting.parse s.reads task.behaviorRef = .ok behavior) :
    CallStep setting s (.waiting task) { s with reads := s.reads + 1 } (.holding task behavior)
  | store {s : SimulatorState D} {task : TaskSegment} {behavior : BehaviorNode} :
    CallStep setting s (.holding task behavior)
      { s with behaviorCache := s.behaviorCache.insert task.behaviorRef behavior } (.holding task behavior)
  | execute {s : SimulatorState D} {task : TaskSegment} {behavior : BehaviorNode} {env : Environment D} {elapsedMs : Int}
    {exec exec' : ExecState D} {result : ExecutionResult D} (held : s.executor = some exec)
    (ran : executeTaskInternal setting.cfg env task behavior elapsedMs exec = (.ok result, exec')) :
    CallStep setting s (.holding task behavior) { s with executor := some exec' } (.answered task result.success)
  | report {s : SimulatorState D} {task : TaskSegment} {taskOk : Bool} :
    CallStep setting s (.answered task taskOk) { s with reports := s.reports ++ [(task, taskOk)] } .finished

def callProtocol (setting : SimulatorSetting D) :
    Protocol (SimulatorAction D) SimulatorAction.Response (SimulatorState D) CallRole where
  thread _ := .done ()
  startable _ := False
  ok _ := True
  step _ s role s' role' new := new = [] ∧ CallStep setting s role s' role'

/-- The piece of a call plays its role. -/
abbrev FollowsCall (setting : SimulatorSetting D) {α : Type} (x : SimulatorThread D α) (role : CallRole)
    (post : CallRole → α → Prop) : Prop := (callProtocol setting).Follows (simulatorSystem setting) x role post

theorem follows_loadBehavior (task : TaskSegment) :
    FollowsCall setting (loadBehavior task.behaviorRef) (.waiting task) fun role behavior? =>
      match behavior? with
      | some behavior => role = .holding task behavior
      | none => role = .answered task false := by
  unfold loadBehavior
  apply Protocol.Follows.bind
  apply Protocol.follows_perform
  rintro s found _ _ _ ⟨is, rfl, rfl⟩
  cases found with
  | some behavior => exact ⟨.holding task behavior, ⟨rfl, .cached is.symm⟩, rfl, rfl⟩
  | none =>
    refine ⟨.waiting task, ⟨rfl, .look⟩, rfl, ?_⟩
    apply Protocol.Follows.bind
    apply Protocol.follows_perform
    rintro s parsed _ _ _ ⟨is, rfl, rfl⟩
    cases parsed with
    | error what => exact ⟨.answered task false, ⟨rfl, .refused is.symm⟩, rfl, rfl⟩
    | ok behavior =>
      refine ⟨.holding task behavior, ⟨rfl, .loaded is.symm⟩, rfl, ?_⟩
      apply Protocol.Follows.bind
      apply Protocol.follows_perform
      rintro s _ _ _ _ ⟨rfl, rfl⟩
      exact ⟨.holding task behavior, ⟨rfl, .store⟩, rfl, rfl⟩

theorem follows_executeSingleTask (task : TaskSegment) :
    FollowsCall setting (executeSingleTask task) (.waiting task) fun role taskOk => role = .answered task taskOk := by
  unfold executeSingleTask
  apply Protocol.Follows.bind
  apply Protocol.follows_perform
  rintro s available _ _ _ ⟨is, rfl, rfl⟩
  cases available with
  | false => exact ⟨.answered task false, ⟨rfl, .unavailable (Option.isNone_iff_eq_none.1 (by simpa using is.symm))⟩, rfl, rfl⟩
  | true =>
    refine ⟨.waiting task, ⟨rfl, .look⟩, rfl, ?_⟩
    apply Protocol.Follows.bind
    refine (follows_loadBehavior task).mono fun role behavior? loaded => ?_
    cases behavior? with
    | none => exact loaded
    | some behavior =>
      obtain rfl : role = .holding task behavior := loaded
      apply Protocol.Follows.bind
      apply Protocol.follows_perform
      rintro s result _ _ _ ⟨rfl, env, elapsedMs, exec, exec', held, ran, rfl⟩
      exact ⟨.answered task result.success, ⟨rfl, .execute held ran⟩, rfl, rfl⟩

theorem follows_caller (task : TaskSegment) :
    FollowsCall setting (caller task) (.waiting task) fun _ _ => True := by
  unfold caller
  apply Protocol.Follows.bind
  refine (follows_executeSingleTask task).mono fun role taskOk answered => ?_
  obtain rfl : role = .answered task taskOk := answered
  apply Protocol.follows_perform
  rintro s _ _ _ _ ⟨rfl, rfl⟩
  exact ⟨.finished, ⟨rfl, .report⟩, rfl, trivial⟩

/-! ## The order of the calls -/

section Linearized

variable (setting)

/-- The calls so far did what these turns do one after the other, on behaviours that the library held. -/
structure Linearized (executor : Option (ExecState D)) (tasks : List TaskSegment) (s : SimulatorState D)
    (roles : List CallRole) (turns : List (Turn D)) : Prop where
  executed : (replay setting turns executor).2 = s.executor
  outcomes : (replay setting turns executor).1.Perm (s.reports ++ roles.filterMap CallRole.answer)
  calls : (turns.map Turn.task ++ roles.filterMap CallRole.pending).Perm tasks
  contents : ∀ turn ∈ turns, ∃ n ≤ s.reads, turn.content = setting.contents n
  cache : ∀ behaviorRef behavior, s.behaviorCache.find? behaviorRef = some behavior →
    Loaded setting s behaviorRef behavior
  held : ∀ task behavior, .holding task behavior ∈ roles → Loaded setting s task.behaviorRef behavior

variable {setting}

theorem executeUncached_loaded {turn : Turn D} {exec exec' : ExecState D} {behavior : BehaviorNode}
    {result : ExecutionResult D}
    (parsed : parseBehaviorDefinition setting.json setting.behaviorTreePath turn.content turn.task.behaviorRef = .ok behavior)
    (ran : executeTaskInternal setting.cfg turn.env turn.task behavior turn.elapsedMs exec = (.ok result, exec')) :
    executeUncached setting turn (some exec) = (result.success, some exec') := by
  unfold executeUncached
  simp only [parsed, ran]

variable {executor : Option (ExecState D)} {tasks : List TaskSegment} {s s' : SimulatorState D}
  {before after : List CallRole} {turns : List (Turn D)}

omit [CxxDouble D] in
theorem Loaded.later [CxxDouble D] {behaviorRef : Str} {behavior : BehaviorNode}
    (loaded : Loaded setting s behaviorRef behavior) (reads : s.reads ≤ s'.reads) :
    Loaded setting s' behaviorRef behavior := by
  obtain ⟨n, le, parsed⟩ := loaded
  exact ⟨n, le.trans reads, parsed⟩

/-- A step that leaves the executor and the results alone, and in which no call takes its turn. -/
theorem Linearized.quiet {role role' : CallRole}
    (linear : Linearized setting executor tasks s (before ++ role :: after) turns)
    (same : s'.executor = s.executor ∧ s'.reports = s.reports) (reads : s.reads ≤ s'.reads)
    (answer : role'.answer = role.answer) (pending : role'.pending = role.pending)
    (cache : ∀ behaviorRef behavior, s'.behaviorCache.find? behaviorRef = some behavior →
      Loaded setting s' behaviorRef behavior)
    (held : ∀ task behavior, .holding task behavior = role' → Loaded setting s' task.behaviorRef behavior) :
    Linearized setting executor tasks s' (before ++ role' :: after) turns where
  executed := linear.executed.trans same.1.symm
  outcomes := by
    have outcomes := linear.outcomes
    rw [List.filterMap_append, List.filterMap_cons] at outcomes ⊢
    rwa [answer, same.2]
  calls := by
    have calls := linear.calls
    rw [List.filterMap_append, List.filterMap_cons] at calls ⊢
    rwa [pending]
  contents turn mem := by
    obtain ⟨n, le, held⟩ := linear.contents turn mem
    exact ⟨n, le.trans reads, held⟩
  cache := cache
  held task behavior mem := by
    rcases List.mem_append.1 mem with first | rest
    · exact (linear.held task behavior (List.mem_append_left _ first)).later reads
    rcases List.mem_cons.1 rest with own | last
    · exact held task behavior own
    · exact (linear.held task behavior (List.mem_append_right _ (List.mem_cons_of_mem _ last))).later reads

/-- A call takes its turn. -/
theorem Linearized.turn {role : CallRole} {taskOk : Bool}
    (linear : Linearized setting executor tasks s (before ++ role :: after) turns) (turn : Turn D)
    (unanswered : role.answer = none) (pending : role.pending = some turn.task)
    (ran : executeUncached setting turn s.executor = (taskOk, s'.executor)) (reports : s'.reports = s.reports)
    (reads : s.reads ≤ s'.reads) (cached : s'.behaviorCache = s.behaviorCache)
    (content : ∃ n ≤ s'.reads, turn.content = setting.contents n) :
    Linearized setting executor tasks s' (before ++ .answered turn.task taskOk :: after) (turns ++ [turn]) where
  executed := by
    rw [replay_append, linear.executed, ran]
  outcomes := by
    have outcomes := linear.outcomes
    rw [List.filterMap_append, List.filterMap_cons, unanswered] at outcomes
    rw [replay_append, linear.executed, ran, reports, List.filterMap_append, List.filterMap_cons]
    refine (outcomes.append_right _).trans ?_
    simp only [CallRole.answer, List.append_assoc]
    exact (List.perm_append_comm.append_left _).append_left _
  calls := by
    have calls := linear.calls
    rw [List.filterMap_append, List.filterMap_cons, pending] at calls
    rw [List.filterMap_append, List.filterMap_cons, List.map_append]
    refine List.Perm.trans ?_ calls
    simp only [CallRole.pending, List.map_cons, List.map_nil, List.append_assoc, List.singleton_append]
    exact List.perm_middle.symm.append_left _
  contents other mem := by
    rcases List.mem_append.1 mem with earlier | last
    · obtain ⟨n, le, held⟩ := linear.contents other earlier
      exact ⟨n, le.trans reads, held⟩
    · obtain rfl := List.mem_singleton.1 last
      exact content
  cache behaviorRef behavior found := by
    rw [cached] at found
    exact (linear.cache behaviorRef behavior found).later reads
  held task behavior mem := by
    rcases List.mem_append.1 mem with first | rest
    · exact (linear.held task behavior (List.mem_append_left _ first)).later reads
    rcases List.mem_cons.1 rest with own | last
    · cases own
    · exact (linear.held task behavior (List.mem_append_right _ (List.mem_cons_of_mem _ last))).later reads

/-- The step lemma: one case for each kind of step. -/
theorem Linearized.step {role role' : CallRole}
    (linear : Linearized setting executor tasks s (before ++ role :: after) turns)
    (step : CallStep setting s role s' role') :
    ∃ turns', Linearized setting executor tasks s' (before ++ role' :: after) turns' := by
  cases step with
  | look => exact ⟨turns, linear⟩
  | @unavailable task none =>
    refine ⟨_, linear.turn ⟨task, setting.contents s.reads, .quiet, 0⟩ rfl rfl ?_ rfl (Nat.le_refl _) rfl
      ⟨s.reads, Nat.le_refl _, rfl⟩⟩
    rw [none]
    rfl
  | cached found =>
    refine ⟨turns, linear.quiet ⟨rfl, rfl⟩ (Nat.le_refl _) rfl rfl linear.cache fun task behavior own => ?_⟩
    obtain ⟨rfl, rfl⟩ := CallRole.holding.inj own
    exact linear.cache _ _ found
  | @refused task what parsed =>
    refine ⟨_, linear.turn ⟨task, setting.contents s.reads, .quiet, 0⟩ rfl rfl ?_ rfl (Nat.le_succ _) rfl
      ⟨s.reads, Nat.le_succ _, rfl⟩⟩
    cases s.executor with
    | none => rfl
    | some exec =>
      unfold executeUncached
      unfold SimulatorSetting.parse at parsed
      simp only [parsed]
  | loaded parsed =>
    refine ⟨turns, linear.quiet ⟨rfl, rfl⟩ (Nat.le_succ _) rfl rfl (fun behaviorRef behavior found => ?_)
      fun task behavior own => ?_⟩
    · exact (linear.cache behaviorRef behavior found).later (Nat.le_succ _)
    · obtain ⟨rfl, rfl⟩ := CallRole.holding.inj own
      exact ⟨s.reads, Nat.le_succ _, parsed⟩
  | @store task behavior =>
    have own : Loaded setting s task.behaviorRef behavior := linear.held task behavior (by simp)
    refine ⟨turns, linear.quiet ⟨rfl, rfl⟩ (Nat.le_refl _) rfl rfl (fun behaviorRef cached found => ?_)
      fun other cached same => ?_⟩
    · change (s.behaviorCache.insert task.behaviorRef behavior).find? behaviorRef = some cached at found
      rw [OrdMap.find?_insert] at found
      split at found
      · rename_i same
        obtain rfl := Option.some.inj found
        rw [same]
        exact own.later (Nat.le_refl _)
      · exact (linear.cache behaviorRef cached found).later (Nat.le_refl _)
    · obtain ⟨rfl, rfl⟩ := CallRole.holding.inj same
      exact own.later (Nat.le_refl _)
  | @execute task behavior env elapsedMs exec exec' result held ran =>
    obtain ⟨n, le, parsed⟩ := linear.held task behavior (by simp)
    refine ⟨_, linear.turn ⟨task, setting.contents n, env, elapsedMs⟩ rfl rfl ?_ rfl (Nat.le_refl _) rfl
      ⟨n, le, rfl⟩⟩
    rw [held]
    exact executeUncached_loaded parsed ran
  | @report task taskOk =>
    refine ⟨turns, ?_⟩
    have outcomes := linear.outcomes
    have calls := linear.calls
    rw [List.filterMap_append, List.filterMap_cons] at outcomes calls
    refine { linear with outcomes := ?_, calls := ?_, held := fun task behavior mem => ?_ }
    · rw [List.filterMap_append, List.filterMap_cons]
      refine outcomes.trans ?_
      simp only [CallRole.answer, List.append_assoc, List.singleton_append]
      exact List.perm_middle.append_left _
    · rw [List.filterMap_append, List.filterMap_cons]
      exact calls
    · refine linear.held task behavior ?_
      rcases List.mem_append.1 mem with first | rest
      · exact List.mem_append_left _ first
      · rcases List.mem_cons.1 rest with own | last
        · cases own
        · exact List.mem_append_right _ (List.mem_cons_of_mem _ last)

end Linearized

/-- The run lemma. -/
theorem linearized_of_reaches {executor : Option (ExecState D)} {tasks : List TaskSegment}
    {pool : Pool (SimulatorAction D) SimulatorAction.Response (SimulatorState D)}
    (reaches : (simulatorSystem setting).Reaches (callers executor tasks) pool) :
    ∃ roles turns, Linearized setting executor tasks pool.shared roles turns := by
  have initially : ∃ roles, Protocol.Plays (simulatorSystem setting) (callProtocol setting)
      (fun s roles => ∃ turns, Linearized setting executor tasks s roles turns) (callers executor tasks) roles := by
    refine ⟨tasks.map .waiting, ⟨[], ?_⟩, ?_⟩
    · refine ⟨rfl, ?_, ?_, (fun _ mem => nomatch mem), fun _ _ found => ?_, fun task behavior mem => ?_⟩
      · have none : (tasks.map CallRole.waiting).filterMap CallRole.answer = [] := by
          rw [List.filterMap_map]
          exact List.filterMap_eq_nil_iff.2 fun _ _ => rfl
        rw [none]
        exact List.Perm.refl _
      · have all : (tasks.map CallRole.waiting).filterMap CallRole.pending = tasks := by
          rw [List.filterMap_map]
          exact List.filterMap_some
        rw [all]
        exact List.Perm.refl _
      · cases found
      · obtain ⟨_, _, same⟩ := List.mem_map.1 mem
        cases same
    · show List.Forall₂ _ (tasks.map _) (tasks.map _)
      rw [List.forall₂_map_left_iff, List.forall₂_map_right_iff]
      exact List.forall₂_same.2 fun task _ => follows_caller task
  obtain ⟨roles, holds, _⟩ := Protocol.reaches_inv (fun _ (never : False) => never.elim) (fun _ _ _ => trivial)
    (by
      intro a s role s' role' before after new holds step _
      obtain ⟨turns, linear⟩ := holds
      obtain ⟨rfl, taken⟩ := step
      rw [List.append_nil]
      exact linear.step taken) initially reaches
  exact ⟨roles, holds⟩

/-- Calls that run on several threads return what they return one after the other without a cache, in the order of
some turns, and leave the executor the same. Each turn reads a content that the library had by then. -/
theorem executeSingleTask_linearizable (setting : SimulatorSetting D) (executor : Option (ExecState D))
    (tasks : List TaskSegment) {pool : Pool (SimulatorAction D) SimulatorAction.Response (SimulatorState D)}
    (reaches : (simulatorSystem setting).Reaches (callers executor tasks) pool) :
    ∃ turns : List (Turn D),
      (replay setting turns executor).2 = pool.shared.executor ∧
      pool.shared.reports.Subperm (replay setting turns executor).1 ∧
      (turns.map Turn.task).Subperm tasks ∧
      (∀ turn ∈ turns, ∃ n ≤ pool.shared.reads, turn.content = setting.contents n) ∧
      (pool.shared.reports.length = tasks.length →
        pool.shared.reports.Perm (replay setting turns executor).1 ∧ (turns.map Turn.task).Perm tasks) := by
  obtain ⟨roles, turns, linear⟩ := linearized_of_reaches reaches
  have returned : pool.shared.reports.Subperm (replay setting turns executor).1 :=
    (List.sublist_append_left _ _).subperm.trans linear.outcomes.symm.subperm
  have called : (turns.map Turn.task).Subperm tasks :=
    (List.sublist_append_left _ _).subperm.trans linear.calls.subperm
  refine ⟨turns, linear.executed, returned, called, linear.contents, fun all => ?_⟩
  have turned : (replay setting turns executor).1.length = (turns.map Turn.task).length := by
    rw [List.length_map]
    exact length_replay turns executor
  have most := called.length_le
  have least := returned.length_le
  exact ⟨returned.perm_of_length_le (by omega), called.perm_of_length_le (by omega)⟩

/-! ## Two calls that both read the library -/

def sampleSimulator : SimulatorSetting FixedPoint where
  json := JsonText.library
  cfg := {}
  behaviorTreePath := lit "library.json"
  contents _ := some (JsonText.print (libraryToJson (OrdMap.empty.insert (lit "Main") divisionTree) : Json FixedPoint))

/-- One outcome of each action, where nobody disturbs a task. -/
def simulated : (a : SimulatorAction FixedPoint) → SimulatorState FixedPoint →
    Option (a.Response × SimulatorState FixedPoint × List (SimulatorThread FixedPoint Unit))
  | .executorAvailable, s => some (s.executor.isSome, s, [])
  | .findBehavior behaviorRef, s => some (s.behaviorCache.find? behaviorRef, s, [])
  | .parseBehaviorDefinition behaviorRef, s =>
    some (sampleSimulator.parse s.reads behaviorRef, { s with reads := s.reads + 1 }, [])
  | .cacheBehavior behaviorRef behavior, s =>
    some ((), { s with behaviorCache := s.behaviorCache.insert behaviorRef behavior }, [])
  | .executeTask task behavior, s =>
    s.executor.bind fun exec =>
      match executeTaskInternal {} .quiet task behavior 3 exec with
      | (.ok result, exec') => some (result, { s with executor := some exec' }, [])
      | (.error _, _) => none
  | .report task taskOk, s => some ((), { s with reports := s.reports ++ [(task, taskOk)] }, [])

theorem simulated_sound (a : SimulatorAction FixedPoint) (s : SimulatorState FixedPoint)
    (out : a.Response × SimulatorState FixedPoint × List (SimulatorThread FixedPoint Unit))
    (known : simulated a s = some out) : (simulatorSystem sampleSimulator).performs a s out.1 out.2.1 out.2.2 := by
  cases a with
  | executeTask task behavior =>
    obtain ⟨exec, held, ran⟩ := Option.bind_eq_some_iff.1 known
    split at ran
    · rename_i result exec' run
      cases ran
      exact ⟨rfl, .quiet, 3, exec, exec', held, run, rfl⟩
    · cases ran
  | cacheBehavior behaviorRef behavior =>
    cases known
    exact ⟨rfl, rfl⟩
  | report task taskOk =>
    cases known
    exact ⟨rfl, rfl⟩
  | _ =>
    obtain rfl := Option.some.inj known
    exact ⟨rfl, rfl, rfl⟩

/-- Both calls miss the cache, and the second stores what the first has already stored. -/
def sampleCalls : Option (Pool (SimulatorAction FixedPoint) SimulatorAction.Response (SimulatorState FixedPoint)) :=
  Machine.turns simulated (callers (some {}) [plainTask, plainTask]) [0, 1, 0, 1, 0, 1, 0, 1, 0, 1, 1, 0]

theorem sampleCalls_returned : sampleCalls.any (fun pool => pool.shared.reports.length = 2 ∧ pool.shared.reads = 2) = true := by
  decide +kernel

theorem executeSingleTask_linearizable_sample : ∃ pool, ∃ turns : List (Turn FixedPoint),
    sampleCalls = some pool ∧ pool.shared.reads = 2 ∧ (turns.map Turn.task).Perm [plainTask, plainTask] ∧
      pool.shared.reports.Perm (replay sampleSimulator turns (some {})).1 := by
  obtain ⟨pool, reached, returned⟩ := (Option.any_eq_true _ _).1 sampleCalls_returned
  obtain ⟨all, reads⟩ := of_decide_eq_true returned
  obtain ⟨turns, _, _, _, _, complete⟩ := executeSingleTask_linearizable sampleSimulator (some {}) [plainTask, plainTask]
    (Machine.reaches_of_turns simulated_sound reached)
  obtain ⟨reports, called⟩ := complete all
  exact ⟨pool, turns, reached, reads, called, reports⟩

end Actuator.Executor
