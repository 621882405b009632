import Actuator.Coordinator.Verdict

/-!
# Runs and shutdown

One coordinator runs several times and is shut down. `sendMessage` finds a
handler under the mutex and starts its thread behind it. The thread belongs to
the run whose messages have led to it, and nobody waits for it: its body may
start, send and execute tasks while the next run begins or the shutdown takes
the communication module and the executors away.
-/

namespace Actuator.Coordinator

open Actuator.Lib Actuator.Core Actuator.Parser Actuator.Executor

variable {D : Type}

/-- Whose thread acts, and in which run: that of a handler, or the one that calls `run` and `shutdown`. -/
structure Owner where
  run : Nat
  handler : Option Handler
deriving DecidableEq

/-- The copy of a handler that `sendMessage` has made, the id it has found it under and the message for it. -/
structure Found where
  id : Str
  handler : Handler
  outbound : Message

inductive LifeAction (D : Type) where
  /-- An action of a run. Of `sendMessage` it is what comes before `local_handlers_mutex_` is released. -/
  | of (owner : Owner) (action : Action D)
  /-- The rest of `sendMessage`, which starts the thread of the handler. -/
  | detach (owner : Owner) (found : Found)
  /-- The body of a handler starts, which was found under this id. -/
  | enter (id : Str) (owner : Owner) (message : Message)
  | unregisterLocalHandler (id : Str)
  | stop
  | resetExecutor (satId : Str)
  | resetComm (satId : Str)

/-- What the action returns, an action of a run with the handler that is to be started. -/
@[reducible] def LifeAction.Response : LifeAction D → Type
  | of _ action => action.Response × Option Found
  | detach _ _ => Unit
  | enter _ _ _ => Unit
  | unregisterLocalHandler _ => Unit
  | stop => Unit
  | resetExecutor _ => Unit
  | resetComm _ => Unit

abbrev LifeThread (D : Type) := Program (LifeAction D) LifeAction.Response

/-- What the threads share in all runs. -/
structure Life where
  shared : Shared
  /-- The run that has set up the maps, counted from one. -/
  currentRun : Nat := 0
  /-- The runs whose wait has timed out. -/
  timedOutRuns : List Nat := []
  /-- The calls of `executeSingleTask`, with the run of the caller. -/
  calls : List (Nat × Call) := []
  /-- The ids that `shutdown` has unregistered. -/
  unregistered : List Str := []
  /-- The simulators whose `executor_` was reset. -/
  withoutExecutor : List Str := []
  /-- The simulators whose `comm_` was reset. -/
  withoutComm : List Str := []

/-- The owner's `comm_` is set. -/
def Life.CommSet (s : Life) (owner : Owner) : Prop :=
  ∀ satId, owner.handler = some (.satellite satId) → satId ∉ s.withoutComm

/-- An owner's step leaves alone what `shutdown` takes away. Only the start of a run changes which run is current, and a
call is noted with the run of its owner. -/
structure OwnerFrame (owner : Owner) (action : Action D) (s s' : Life) : Prop where
  handlers : s'.shared.comm.localHandlers = s.shared.comm.localHandlers
  unregistered : s'.unregistered = s.unregistered
  withoutComm : s'.withoutComm = s.withoutComm
  current : s'.currentRun = s.currentRun ∨ action = .startTracking ∧ s'.currentRun = owner.run
  timedOut : ∀ run ∈ s.timedOutRuns, run ∈ s'.timedOutRuns
  calls : ∃ more : List Call, s'.shared.calls = s.shared.calls ++ more ∧
    s'.calls = s.calls ++ more.map fun call => (owner.run, call)

/-- A step that touches no more than the shared state. -/
theorem ownerFrame_shared {owner : Owner} {action : Action D} {s : Life} {shared' : Shared}
    (handlers : shared'.comm.localHandlers = s.shared.comm.localHandlers) (calls : shared'.calls = s.shared.calls) :
    OwnerFrame owner action s { s with shared := shared' } :=
  ⟨handlers, rfl, rfl, .inl rfl, fun _ => id, [], by rw [List.append_nil, calls], (List.append_nil _).symm⟩

/-! ## Programs -/

/-- A handler that was found is started first. -/
def starting {α : Type} (owner : Owner) : Option Found → LifeThread D α → LifeThread D α
  | none, rest => rest
  | some found, rest => .act (.detach owner found) fun _ => rest

theorem starting_bind {α β : Type} (owner : Owner) (found : Option Found) (x : LifeThread D α) (k : α → LifeThread D β) :
    starting owner found x >>= k = starting owner found (x >>= k) := by
  cases found <;> rfl

/-- The program of one owner. -/
def owned {α : Type} (owner : Owner) : Thread D α → LifeThread D α
  | .done a => .done a
  | .act action next => .act (.of owner action) fun r => starting owner r.2 (owned owner (next r.1))

theorem owned_act_bind {α β : Type} (owner : Owner) (action : Action D) (next : action.Response → Thread D α)
    (k : α → LifeThread D β) : owned owner (.act action next) >>= k =
      .act (.of owner action) fun r => starting owner r.2 (owned owner (next r.1) >>= k) :=
  congrArg (Program.act (LifeAction.of owner action)) (funext fun r => starting_bind owner r.2 _ k)

def undertake (action : LifeAction D) : LifeThread D action.Response := Program.perform action

section Programs

variable [CxxDouble D] (setting : Setting D)

/-- The thread `sendMessage` detaches, with the handler it has found. -/
def detached (run : Nat) (found : Found) : LifeThread D Unit :=
  .act (.enter found.id { run, handler := some found.handler } found.outbound) fun _ =>
    owned { run, handler := some found.handler } (handle setting.json setting.coordinatorId found.handler found.outbound)

/-- The ids that `registerLocalMessageHandlers` and `unregisterLocalMessageHandlers` go through. -/
def handledIds (setting : Setting D) : List Str := setting.coordinatorId :: setting.schedule.satelliteIds

/-- The keys of `simulators_`, in their order. -/
def simulatorIds (setting : Setting D) : List Str :=
  (OrdMap.ofList ((setting.schedule.satellites.filter fun info => setting.simulators info.satelliteId).map fun info =>
    (info.satelliteId, ()))).entries.map Prod.fst

def unregisterAll : List Str → LifeThread D Unit
  | [] => pure ()
  | id :: ids => do
    undertake (.unregisterLocalHandler id)
    unregisterAll ids

/-- `shutdown` of each simulator. -/
def shutdownAll : List Str → LifeThread D Unit
  | [] => pure ()
  | satId :: satIds => do
    undertake (.resetExecutor satId)
    undertake (.resetComm satId)
    shutdownAll satIds

/-- `Coordinator::shutdown`, but for the registry of nodes. -/
def shutdown : LifeThread D Unit := do
  unregisterAll (handledIds setting)
  undertake .stop
  shutdownAll (simulatorIds setting)

/-- So many runs, the first of which has this number, and then the shutdown. -/
def runsThenShutdown : Nat → Nat → LifeThread D Unit
  | 0, _ => shutdown setting
  | n + 1, run => do
    owned { run, handler := none } (Coordinator.run setting.json setting.coordinatorId setting.schedule)
    runsThenShutdown n (run + 1)

/-! ## The system -/

/-- `stop` closes the connections and empties the queues and the handlers. -/
def InterSatComm.stop {H : Type} (comm : InterSatComm H) : InterSatComm H := { comm with
  nodes := OrdMap.empty
  localHandlers := OrdMap.empty
  sendQueue := { comm.sendQueue with queue := [] } }

def InterSatComm.unregisterLocalHandler {H : Type} (comm : InterSatComm H) (id : Str) : InterSatComm H :=
  { comm with localHandlers := comm.localHandlers.erase id }

/-- What `sendMessage` has found. -/
def InterSatComm.SendResult.found (id : Str) : SendResult Handler → Option Found
  | .detached handler outbound => some { id, handler, outbound }
  | _ => none

/-- What the actions of an owner do, and the handler found. A send through a `comm_` that was reset has no outcome. -/
def ownerPerforms (owner : Owner) : (a : Action D) → Life → a.Response → Life → Option Found → Prop
  | .sendMessage dest message, s, sent, s', found =>
    s.CommSet owner ∧ ∃ now pushedAt, let outcome := s.shared.comm.sendMessage now pushedAt dest message
      s' = { s with shared := { s.shared with comm := outcome.2 } } ∧ sent = outcome.1.sent ∧
        found = outcome.1.found (InterSatComm.targetNode dest message)
  | .executeSingleTask satId task, s, taskOk, s', found =>
    (satId ∈ s.withoutExecutor → taskOk = false) ∧ found = none ∧ s' = { s with
      shared := { s.shared with calls := s.shared.calls ++ [{ satId, task, taskOk }] }
      calls := s.calls ++ [(owner.run, { satId, task, taskOk })] }
  | .startTracking, s, _, s', found => found = none ∧ s' = { s with
      shared := { s.shared with tracking := .start setting.schedule }
      currentRun := owner.run }
  | .awaitAcks, s, finished, s', found => found = none ∧
      (finished = true ∧ s.shared.tracking.allFinished ∧ s' = s ∨
        finished = false ∧ setting.timesOut ∧ ¬s.shared.tracking.allFinished ∧ s' = { s with
          shared := { s.shared with tracking := s.shared.tracking.giveUp }
          timedOutRuns := s.timedOutRuns ++ [owner.run] })
  | action, s, r, s', found =>
    found = none ∧ ∃ shared', performs setting action s.shared r shared' [] ∧ s' = { s with shared := shared' }

def lifePerforms : (a : LifeAction D) → Life → a.Response → Life → List (LifeThread D Unit) → Prop
  | .of owner action, s, r, s', started => ownerPerforms setting owner action s r.1 s' r.2 ∧ started = []
  | .detach owner found, s, _, s', started => s' = s ∧ started = [detached setting owner.run found]
  | .enter _ _ _, s, _, s', started => s' = s ∧ started = []
  | .unregisterLocalHandler id, s, _, s', started => started = [] ∧ s' = { s with
      shared := { s.shared with comm := s.shared.comm.unregisterLocalHandler id }
      unregistered := s.unregistered ++ [id] }
  -- `stop` joins `accept_thread_`. Where `accept` does not return from a closed socket, the action is never performed.
  | .stop, s, _, s', started => started = [] ∧ s' = { s with shared := { s.shared with comm := s.shared.comm.stop } }
  | .resetExecutor satId, s, _, s', started => started = [] ∧ s' = { s with
      withoutExecutor := s.withoutExecutor ++ [satId] }
  | .resetComm satId, s, _, s', started => started = [] ∧ s' = { s with withoutComm := s.withoutComm ++ [satId] }

def lifecycle : Machine (LifeAction D) LifeAction.Response Life := ⟨lifePerforms setting⟩

/-- An initialized coordinator before so many runs. -/
def lifePool (comm : InterSatComm Handler) (n : Nat) : Pool (LifeAction D) LifeAction.Response Life where
  shared := { shared := (initialPool setting comm).shared }
  threads := [runsThenShutdown setting n 1]

/-! ## What an owner's step can do -/

variable {setting} {owner : Owner} {action : Action D} {s s' : Life} {r : action.Response} {found : Option Found}

/-- It is the step of a run, which starts the handler that was found. -/
theorem ownerPerforms_base (acts : ownerPerforms setting owner action s r s' found) :
    performs setting action s.shared r s'.shared
      (found.toList.map fun f => handle setting.json setting.coordinatorId f.handler f.outbound) ∧
    ∀ f ∈ found, s.shared.comm.localHandlers.find? f.id = some f.handler := by
  cases action with
  | sendMessage dest message =>
    obtain ⟨_, now, pushedAt, rfl, sent, rfl⟩ := acts
    obtain ⟨_, finds⟩ := s.shared.comm.sendMessage_detached now pushedAt dest message
    refine ⟨⟨now, pushedAt, rfl, sent, ?_⟩, fun f mem => ?_⟩
    · cases (s.shared.comm.sendMessage now pushedAt dest message).1 <;> rfl
    · cases outcome : (s.shared.comm.sendMessage now pushedAt dest message).1 with
      | detached handler outbound =>
        rw [outcome] at mem
        cases mem
        exact (finds handler outbound outcome).1
      | rejected | queued =>
        rw [outcome] at mem
        cases mem
  | executeSingleTask satId task =>
    obtain ⟨_, rfl, rfl⟩ := acts
    exact ⟨⟨rfl, rfl⟩, nofun⟩
  | startTracking =>
    obtain ⟨rfl, rfl⟩ := acts
    exact ⟨⟨rfl, rfl⟩, nofun⟩
  | awaitAcks =>
    obtain ⟨rfl, ⟨done, all, rfl⟩ | ⟨late, may, unfinished, rfl⟩⟩ := acts
    · exact ⟨⟨rfl, .inl ⟨done, all, rfl⟩⟩, nofun⟩
    · exact ⟨⟨rfl, .inr ⟨late, may, unfinished, rfl⟩⟩, nofun⟩
  | _ =>
    obtain ⟨rfl, shared', base, rfl⟩ := acts
    exact ⟨base, nofun⟩

theorem ownerPerforms_frame (acts : ownerPerforms setting owner action s r s' found) :
    OwnerFrame owner action s s' := by
  have none {calls : List (Nat × Call)} : calls = calls ++ [] := (List.append_nil _).symm
  cases action with
  | sendMessage dest message =>
    obtain ⟨_, now, pushedAt, rfl, _, _⟩ := acts
    exact ownerFrame_shared (s.shared.comm.sendMessage_detached now pushedAt dest message).1 rfl
  | executeSingleTask satId task =>
    obtain ⟨_, _, rfl⟩ := acts
    exact ⟨rfl, rfl, rfl, .inl rfl, fun _ => id, [_], rfl, rfl⟩
  | startTracking =>
    obtain ⟨_, rfl⟩ := acts
    exact ⟨rfl, rfl, rfl, .inr ⟨rfl, rfl⟩, fun _ => id, [], (List.append_nil _).symm, none⟩
  | awaitAcks =>
    obtain ⟨_, ⟨_, _, rfl⟩ | ⟨_, _, _, rfl⟩⟩ := acts
    · exact ownerFrame_shared rfl rfl
    · exact ⟨rfl, rfl, rfl, .inl rfl, fun _ => List.mem_append_left _, [], (List.append_nil _).symm, none⟩
  | terminate what =>
    obtain ⟨_, _, ends, _⟩ := acts
    exact ends.elim
  | _ =>
    obtain ⟨_, shared', base, rfl⟩ := acts
    have same : shared'.comm = s.shared.comm ∧ shared'.calls = s.shared.calls := by
      obtain ⟨rfl, _⟩ := base
      exact ⟨rfl, rfl⟩
    exact ownerFrame_shared (congrArg _ same.1) same.2

variable (setting)

/-! ## Taking turns -/

instance decidableCommSet (s : Life) (owner : Owner) : Decidable (s.CommSet owner) :=
  match found : owner.handler with
  | some (.satellite satId) => decidable_of_iff (s.withoutComm.contains satId = false)
    ⟨fun set other own => by cases found.symm.trans own; simpa using set, fun set => by simpa using set satId found⟩
  | some .coordinator => isTrue fun other own => by cases found.symm.trans own
  | none => isTrue fun other own => by cases found.symm.trans own

/-- One outcome of each action, where the clock stands still and a wait that may time out does so. -/
def lifeOutcome (round : Round D) (taskOk : TaskSegment → Bool) :
    (a : LifeAction D) → Life → Option (a.Response × Life × List (LifeThread D Unit))
  | .of owner (.sendMessage dest message), s =>
    if s.CommSet owner then
      let sending := s.shared.comm.sendMessage 0 0 dest message
      some ((sending.1.sent, sending.1.found (InterSatComm.targetNode dest message)),
        { s with shared := { s.shared with comm := sending.2 } }, [])
    else none
  | .of owner (.executeSingleTask satId task), s =>
    let ok := !s.withoutExecutor.contains satId && taskOk task
    some ((ok, none), { s with
      shared := { s.shared with calls := s.shared.calls ++ [{ satId, task, taskOk := ok }] }
      calls := s.calls ++ [(owner.run, { satId, task, taskOk := ok })] }, [])
  | .of owner .startTracking, s => some (((), none), { s with
      shared := { s.shared with tracking := .start setting.schedule }
      currentRun := owner.run }, [])
  | .of owner .awaitAcks, s =>
    if s.shared.tracking.allFinished then some ((true, none), s, [])
    else if setting.timesOut then some ((false, none), { s with
      shared := { s.shared with tracking := s.shared.tracking.giveUp }
      timedOutRuns := s.timedOutRuns ++ [owner.run] }, [])
    else none
  | .of _ (.recordAck message ack), s => some (((), none), { s with shared := { s.shared with
      tracking := s.shared.tracking.recordAck ack
      acks := s.shared.acks ++ [(message, ack)] } }, [])
  | .of _ .now, s => some ((0, none), s, [])
  | .of _ .stamp, s => some (({ now := 0, header := {} }, none), s, [])
  | .of _ .held, s => some ((round.held 0, none), s, [])
  | .of _ .round, s => some ((round, none), s, [])
  | .of _ (.terminate _), _ => none
  | .detach owner found, s => some ((), s, [detached setting owner.run found])
  | .enter _ _ _, s => some ((), s, [])
  | .unregisterLocalHandler id, s => some ((), { s with
      shared := { s.shared with comm := s.shared.comm.unregisterLocalHandler id }
      unregistered := s.unregistered ++ [id] }, [])
  | .stop, s => some ((), { s with shared := { s.shared with comm := s.shared.comm.stop } }, [])
  | .resetExecutor satId, s => some ((), { s with withoutExecutor := s.withoutExecutor ++ [satId] }, [])
  | .resetComm satId, s => some ((), { s with withoutComm := s.withoutComm ++ [satId] }, [])

theorem lifeOutcome_sound (round : Round D) (taskOk : TaskSegment → Bool) (a : LifeAction D) (s : Life)
    (out : a.Response × Life × List (LifeThread D Unit)) (known : lifeOutcome setting round taskOk a s = some out) :
    (lifecycle setting).performs a s out.1 out.2.1 out.2.2 := by
  cases a with
  | of owner action =>
    cases action with
    | sendMessage dest message =>
      simp only [lifeOutcome] at known
      split at known
      · rename_i set
        cases known
        exact ⟨⟨set, 0, 0, rfl, rfl, rfl⟩, rfl⟩
      · cases known
    | executeSingleTask satId task =>
      cases known
      exact ⟨⟨fun gone => by simp [gone], rfl, rfl⟩, rfl⟩
    | startTracking =>
      cases known
      exact ⟨⟨rfl, rfl⟩, rfl⟩
    | awaitAcks =>
      simp only [lifeOutcome] at known
      split at known
      · rename_i all
        cases known
        exact ⟨⟨rfl, .inl ⟨rfl, all, rfl⟩⟩, rfl⟩
      · rename_i unfinished
        split at known
        · rename_i late
          cases known
          exact ⟨⟨rfl, .inr ⟨rfl, late, unfinished, rfl⟩⟩, rfl⟩
        · cases known
    | terminate what => cases known
    | _ =>
      cases known
      exact ⟨⟨rfl, _, ⟨rfl, rfl⟩, rfl⟩, rfl⟩
  | _ =>
    cases known
    exact ⟨rfl, rfl⟩

end Programs

/-- The sample, when the wait may time out. -/
def lateSetting : Setting FixedPoint := { sampleSetting with timesOut := true }

end Actuator.Coordinator
