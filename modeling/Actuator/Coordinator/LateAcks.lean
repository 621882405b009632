import Actuator.Coordinator.Lifecycle

/-!
# Late acknowledgements

A run sets up its maps whatever the handlers of earlier runs still do, and
`onCoordinatorBatchAck` records each acknowledgement of a tracked satellite. As
long as a run begins behind the last handler that an earlier run has led to,
what it records about a satellite is about its own batch
(`acks_reach_their_run`).
-/

namespace Actuator.Coordinator

open Actuator.Lib Actuator.Core Actuator.Parser Actuator.Executor

variable {D : Type}

instance decidableIgnores (message : Message) : (handler : Handler) → Decidable (Ignores message handler)
  | .coordinator => inferInstanceAs (Decidable (_ ≠ _))
  | .satellite _ => inferInstanceAs (Decidable (_ ≠ _))

/-- The maps are only set up when no handler of an earlier run is at work, or is still to start with a message that it
does not ignore. -/
def waitsForEarlierRuns : LifeAction D → LifeThread D Unit → Bool
  | .of owner .startTracking, .act (.of other _) _ => owner.run ≤ other.run
  | .of owner .startTracking, .act (.detach other _) _ => owner.run ≤ other.run
  | .of owner .startTracking, .act (.enter _ other message) _ =>
    owner.run ≤ other.run || other.handler.all fun handler => Ignores message handler
  | _, _ => true

/-- The calls of `executeSingleTask` for one satellite in one run. -/
def Life.callsOf (s : Life) (run : Nat) (satId : Str) : List Outcome :=
  (s.calls.filter fun call => call.1 = run ∧ call.2.satId = satId).map fun call => (call.2.task, call.2.taskOk)

/-- What is recorded about a finished satellite comes from its tasks as the current run has had them executed, or from
the timeout of this run, and only a finished satellite has succeeded. -/
structure Reflects (schedule : MultiSatSchedule) (s : Life) : Prop where
  finished : ∀ satId, s.shared.tracking.finished.find? satId = some true →
    (∃ outcomes : List Outcome, outcomes.map (·.1) = tasksOf schedule satId ∧
      outcomes.Sublist (s.callsOf s.currentRun satId) ∧
      s.shared.tracking.results.find? satId = some (outcomes.all (·.2))) ∨
    s.currentRun ∈ s.timedOutRuns ∧ s.shared.tracking.results.find? satId = some false
  succeeded : ∀ satId, s.shared.tracking.results.find? satId = some true →
    s.shared.tracking.finished.find? satId = some true

/-! ## Calls -/

theorem Life.callsOf_append {s s' : Life} {run : Nat} {more : List Call}
    (calls : s'.calls = s.calls ++ more.map fun call => (run, call)) (satId : Str) :
    s'.callsOf run satId = s.callsOf run satId ++
      (more.filter fun call => call.satId = satId).map fun call => (call.task, call.taskOk) := by
  unfold callsOf
  rw [calls, List.filter_append, List.map_append, List.filter_map, List.map_map]
  simp [Function.comp_def]

/-- Nothing is taken back of what was executed. -/
def Life.Grows (s s' : Life) : Prop := ∀ run satId, (s.callsOf run satId).Sublist (s'.callsOf run satId)

theorem Life.grows_of_append {s s' : Life} {more : List (Nat × Call)} (calls : s'.calls = s.calls ++ more) :
    s.Grows s' := by
  intro run satId
  unfold callsOf
  rw [calls]
  exact ((List.sublist_append_left _ _).filter _).map _

/-! ## What a role brings back -/

section Roles

variable {setting : Setting D} {s s' : Life} {run : Nat} {g g' : Role}

/-- The outcomes that the role brings back are those of calls of the run. -/
def Role.Reported (schedule : MultiSatSchedule) (s : Life) (run : Nat) : Role → Prop
  | starting => False
  | distributing _ => True
  | batch _ _ => True
  | working satId outcomes remaining =>
    outcomes.Sublist (s.callsOf run satId) ∧ outcomes.map (·.1) ++ remaining = tasksOf schedule satId
  | acking satId outcomes _ => outcomes.Sublist (s.callsOf run satId)
  | passive _ _ => True
  | idle => True

theorem Role.Reported.mono {schedule : MultiSatSchedule} (reported : g.Reported schedule s run) (grows : s.Grows s') :
    g.Reported schedule s' run := by
  cases g with
  | starting => exact reported
  | working satId outcomes remaining => exact ⟨reported.1.trans (grows run satId), reported.2⟩
  | acking satId outcomes message => exact reported.trans (grows run satId)
  | _ => trivial

variable (setting) in
/-- What holds in every state. -/
structure Consistent (s : Life) : Prop where
  handlers : Handlers setting.coordinatorId s.shared.comm.localHandlers
  counts : ∀ satId count, s.shared.tracking.expectedCounts.find? satId = some count →
    count = Int32.ofNat (tasksOf setting.schedule satId).length
  reflects : Reflects setting.schedule s

/-- A step that leaves the maps alone. -/
theorem Consistent.frame (consistent : Consistent setting s)
    (handlers : Handlers setting.coordinatorId s'.shared.comm.localHandlers)
    (tracking : s'.shared.tracking = s.shared.tracking) (current : s'.currentRun = s.currentRun) (grows : s.Grows s')
    (timedOut : ∀ run ∈ s.timedOutRuns, run ∈ s'.timedOutRuns) : Consistent setting s' := by
  refine ⟨handlers, tracking ▸ consistent.counts, ?_, tracking ▸ consistent.reflects.succeeded⟩
  intro satId finished
  rw [tracking] at finished ⊢
  rw [current]
  rcases consistent.reflects.finished satId finished with ⟨outcomes, tasks, executed, result⟩ | ⟨late, result⟩
  · exact .inl ⟨outcomes, tasks, executed.trans (grows _ satId), result⟩
  · exact .inr ⟨timedOut _ late, result⟩

/-- The acknowledgement of a satellite's tasks in the current run. -/
theorem Consistent.record (consistent : Consistent setting s) {satId : Str} {outcomes : List Outcome} {message : Message}
    {ack : BatchTaskAssignAck} (acknowledges : Acknowledges setting.schedule satId outcomes message ack)
    (executed : outcomes.Sublist (s.callsOf s.currentRun satId)) (acks : List (Message × BatchTaskAssignAck)) :
    Consistent setting { s with shared := { s.shared with tracking := s.shared.tracking.recordAck ack, acks } } := by
  obtain ⟨_, rfl, accepted, processed, tasks⟩ := acknowledges
  unfold Tracking.recordAck
  cases expected : s.shared.tracking.expectedCounts.find? ack.satelliteId with
  | none =>
    exact ⟨consistent.handlers, consistent.counts, consistent.reflects.finished, consistent.reflects.succeeded⟩
  | some count =>
    have verdict : Tracking.succeeds count ack = outcomes.all (·.2) := by
      rw [consistent.counts _ _ expected, ← tasks, List.length_map, Tracking.succeeds_of_length processed, accepted]
    refine ⟨consistent.handlers, consistent.counts, fun satId finished => ?_, fun satId succeeded => ?_⟩
    · by_cases own : satId = ack.satelliteId
      · subst own
        refine .inl ⟨outcomes, tasks, executed, ?_⟩
        show (s.shared.tracking.results.insert _ _).find? _ = _
        rw [OrdMap.find?_insert_self, verdict]
      · change (s.shared.tracking.finished.insert _ true).find? satId = some true at finished
        rw [OrdMap.find?_insert_of_ne _ _ own] at finished
        show (∃ _, _ ∧ _ ∧ (s.shared.tracking.results.insert _ _).find? satId = _) ∨
          _ ∧ (s.shared.tracking.results.insert _ _).find? satId = _
        rw [OrdMap.find?_insert_of_ne _ _ own]
        exact consistent.reflects.finished satId finished
    · show (s.shared.tracking.finished.insert _ true).find? satId = some true
      rw [OrdMap.find?_insert]
      split
      · rfl
      · rename_i other
        change (s.shared.tracking.results.insert _ _).find? satId = some true at succeeded
        rw [OrdMap.find?_insert_of_ne _ _ other] at succeeded
        exact consistent.reflects.succeeded satId succeeded

/-- The satellites that are unfinished at the timeout have failed. -/
theorem Consistent.giveUp (consistent : Consistent setting s) {timedOut : List Nat} (late : s.currentRun ∈ timedOut) :
    Consistent setting { s with
      shared := { s.shared with tracking := s.shared.tracking.giveUp }
      timedOutRuns := timedOut } := by
  refine ⟨consistent.handlers, consistent.counts, fun satId finished => ?_, fun satId succeeded => ?_⟩
  · obtain ⟨before, was⟩ : ∃ before, s.shared.tracking.finished.find? satId = some before := by
      change (s.shared.tracking.finished.mapValues fun _ => true).find? satId = some true at finished
      rw [OrdMap.find?_mapValues] at finished
      obtain ⟨b, found, _⟩ := Option.map_eq_some_iff.1 finished
      exact ⟨b, found⟩
    show (∃ _, _ ∧ _ ∧ (s.shared.tracking.results.insertAll _).find? satId = _) ∨
      _ ∧ (s.shared.tracking.results.insertAll _).find? satId = _
    cases before with
    | false =>
      refine .inr ⟨late, OrdMap.find?_insertAll_of_mem _ ?_ ?_⟩
      · rw [List.map_map]
        exact s.shared.tracking.finished.nodup_keys.sublist (List.filter_sublist.map _)
      · exact List.mem_map.2 ⟨_, List.mem_filter.2 ⟨OrdMap.mem_entries.2 was, rfl⟩, rfl⟩
    | true =>
      rw [OrdMap.find?_insertAll_of_absent]
      · rcases consistent.reflects.finished satId was with found | ⟨timedOut, result⟩
        · exact .inl found
        · exact .inr ⟨late, result⟩
      · intro among
        rw [List.map_map] at among
        obtain ⟨⟨other, b⟩, mem, same⟩ := List.mem_map.1 among
        obtain ⟨listed, failed⟩ := List.mem_filter.1 mem
        cases same
        cases was.symm.trans (OrdMap.mem_entries.1 listed)
        cases failed
  · show (s.shared.tracking.finished.mapValues fun _ => true).find? satId = some true
    rw [OrdMap.find?_mapValues]
    rcases OrdMap.find?_insertAll_or _ _ succeeded with failed | before
    · obtain ⟨entry, _, differs⟩ := List.mem_map.1 failed
      cases differs
    · rw [consistent.reflects.succeeded satId before]
      rfl

theorem track_counts {schedule : MultiSatSchedule} {tracking : Tracking}
    (held : ∀ satId count, tracking.expectedCounts.find? satId = some count →
      count = Int32.ofNat (tasksOf schedule satId).length) (first : Str) :
    ∀ satId count, (Tracking.track schedule tracking first).expectedCounts.find? satId = some count →
      count = Int32.ofNat (tasksOf schedule satId).length := by
  intro satId count found
  unfold Tracking.track at found
  split at found
  · exact held satId count found
  · change (tracking.expectedCounts.insert first _).find? satId = some count at found
    rw [OrdMap.find?_insert] at found
    split at found
    · rename_i same
      cases found
      rw [same]
    · exact held satId count found

theorem track_results {schedule : MultiSatSchedule} {tracking : Tracking}
    (held : ∀ satId, tracking.results.find? satId ≠ some true) (first : Str) :
    ∀ satId, (Tracking.track schedule tracking first).results.find? satId ≠ some true := by
  intro satId
  unfold Tracking.track
  split
  · exact held satId
  · show (tracking.results.insert first false).find? satId ≠ some true
    rw [OrdMap.find?_insert]
    split
    · simp
    · exact held satId

theorem start_counts (schedule : MultiSatSchedule) : ∀ satId count,
    (Tracking.start schedule).expectedCounts.find? satId = some count →
      count = Int32.ofNat (tasksOf schedule satId).length := by
  refine List.foldlRecOn (motive := fun tracking : Tracking => ∀ satId count,
    tracking.expectedCounts.find? satId = some count → count = Int32.ofNat (tasksOf schedule satId).length)
    schedule.satelliteIds _ (fun satId count found => ?_) fun _ held first _ => track_counts held first
  cases found

theorem start_results (schedule : MultiSatSchedule) : ∀ satId,
    (Tracking.start schedule).results.find? satId ≠ some true := by
  refine List.foldlRecOn (motive := fun tracking : Tracking => ∀ satId, tracking.results.find? satId ≠ some true)
    schedule.satelliteIds _ (fun satId found => ?_) fun _ held first _ => track_results held first
  cases found

/-- Behind the start of a run no satellite is finished. -/
theorem Consistent.start (consistent : Consistent setting s) (run : Nat) : Consistent setting { s with
    shared := { s.shared with tracking := .start setting.schedule }
    currentRun := run } := by
  refine ⟨consistent.handlers, start_counts _, fun satId finished => ?_, fun satId succeeded => ?_⟩
  · exact absurd finished (Tracking.start_unfinished setting.schedule satId)
  · exact absurd succeeded (start_results setting.schedule satId)

variable [CxxDouble D] {owner : Owner} {action : Action D} {r : action.Response} {found : Option Found} {new : List Role}

/-- A step of a role in its own run. -/
theorem Consistent.roleStep (consistent : Consistent setting s)
    (acts : ownerPerforms setting owner action s r s' found)
    (step : RoleStep setting.schedule action s.shared g s'.shared g' new)
    (reported : g.Reported setting.schedule s owner.run) (current : owner.run = s.currentRun) :
    Consistent setting s' ∧ s'.currentRun = s.currentRun ∧ ∀ h ∈ g' :: new, h.Reported setting.schedule s' owner.run := by
  have frame := ownerPerforms_frame acts
  obtain ⟨more, called, noted⟩ := frame.calls
  have same : s'.currentRun = s.currentRun := frame.current.elim id fun start => start.2.trans current
  have grows : s.Grows s' := Life.grows_of_append noted
  have framed : s'.shared.comm.localHandlers = s.shared.comm.localHandlers →
      s'.shared.tracking = s.shared.tracking → Consistent setting s' :=
    fun handlers tracking => consistent.frame (handlers ▸ consistent.handlers) tracking same grows frame.timedOut
  generalize from' : s.shared = base at step
  generalize to' : s'.shared = base' at step
  cases step with
  | start => exact reported.elim
  | quiet started working unchanged passive =>
    rw [← from', ← to'] at unchanged
    refine ⟨framed unchanged.handlers unchanged.tracking, same, List.forall_mem_cons.2 ⟨reported.mono grows, ?_⟩⟩
    intro h mem
    obtain ⟨handler, message, rfl⟩ := passive h mem
    trivial
  | dispatch unchanged left listed busy =>
    rw [← from', ← to'] at unchanged
    refine ⟨framed unchanged.handlers unchanged.tracking, same, List.forall_mem_cons.2 ⟨trivial, ?_⟩⟩
    exact List.forall_mem_singleton.2 trivial
  | begin =>
    have still := to'.trans from'.symm
    refine ⟨framed (by rw [still]) (by rw [still]), same, List.forall_mem_singleton.2 ⟨List.nil_sublist _, rfl⟩⟩
  | @execute _ satId outcomes task remaining taskOk =>
    have one : more = [{ satId, task, taskOk }] := by
      rw [to', ← from'] at called
      exact (List.append_cancel_left called).symm
    subst one
    refine ⟨framed (by rw [to', from']) (by rw [to', from']), same, List.forall_mem_singleton.2 ⟨?_, ?_⟩⟩
    · rw [Life.callsOf_append noted]
      simpa using reported.1.append_right [(task, taskOk)]
    · simpa using reported.2
  | acknowledge unchanged =>
    rw [← from', ← to'] at unchanged
    refine ⟨framed unchanged.handlers unchanged.tracking, same, List.forall_mem_cons.2 ⟨trivial, ?_⟩⟩
    exact List.forall_mem_singleton.2 (reported.1.trans (grows _ _))
  | record acknowledges =>
    refine ⟨?_, same, List.forall_mem_singleton.2 trivial⟩
    obtain ⟨_, shared', ⟨rfl, _⟩, rfl⟩ := acts
    refine consistent.record acknowledges ?_ _
    rw [← current]
    exact reported
  | wait =>
    have still := to'.trans from'.symm
    exact ⟨framed (by rw [still]) (by rw [still]), same, List.forall_mem_singleton.2 trivial⟩

end Roles

/-! ## What the threads are about -/

section Threads

variable (setting : Setting D)

/-- Nothing of a handler or of a run is left in the thread. -/
def Closed : LifeThread D Unit → Prop
  | .done _ => True
  | .act (.of _ _) _ => False
  | .act (.detach _ _) _ => False
  | .act (.enter _ _ _) _ => False
  | .act (.unregisterLocalHandler _) next => ∀ r, Closed (next r)
  | .act .stop next => ∀ r, Closed (next r)
  | .act (.resetExecutor _) next => ∀ r, Closed (next r)
  | .act (.resetComm _) next => ∀ r, Closed (next r)

theorem closed_unregisterAll {k : Unit → LifeThread D Unit} (rest : Closed (k ())) (ids : List Str) :
    Closed (unregisterAll ids >>= k) := by
  induction ids with
  | nil => exact rest
  | cons id ids ih => exact fun _ => ih

theorem closed_shutdownAll (satIds : List Str) : Closed (shutdownAll satIds : LifeThread D Unit) := by
  induction satIds with
  | nil => trivial
  | cons satId satIds ih => exact fun _ _ => ih

theorem closed_shutdown : Closed (shutdown setting) := by
  refine closed_unregisterAll ?_ (handledIds setting)
  exact fun _ => closed_shutdownAll _

variable [CxxDouble D]

/-- A thread of this run is to start the handler, which has the role with its message. -/
structure Begins (s : Life) (run : Nat) (found : Found) (g : Role) : Prop where
  acts : Acts setting (handle setting.json setting.coordinatorId found.handler found.outbound) g fun _ _ => True
  reported : g.Reported setting.schedule s run
  current : ¬Ignores found.outbound found.handler → run = s.currentRun

/-- The rest of the thread of a handler, at times before the start of another. -/
inductive Serves (s : Life) (thread : LifeThread D Unit) : Prop
  | inside (owner : Owner) (found : Option Found) (rest : Thread D Unit) (g : Role)
    (is : thread = starting owner found (owned owner rest))
    (acts : Acts setting rest g fun _ _ => True) (reported : g.Reported setting.schedule s owner.run)
    (current : ∀ action next, rest = .act action next → owner.run = s.currentRun)
    (begins : ∀ f ∈ found, ∃ h, Begins setting s owner.run f h)
  | before (run : Nat) (found : Found) (g : Role) (is : thread = detached setting run found)
    (begins : Begins setting s run found g)

/-- This rest of the distribution in a run, the wait and what comes behind the run. -/
def restOfRun (n run : Nat) (rest : Thread D Bool) : LifeThread D Unit := do
  owned { run, handler := none } (do
    let _distributed ← rest
    let _finished ← perform .awaitAcks
    return)
  runsThenShutdown setting n (run + 1)

/-- The rest of the thread that calls `run` and `shutdown`. -/
inductive Leads (s : Life) (thread : LifeThread D Unit) : Prop
  | between (n run : Nat) (is : thread = runsThenShutdown setting (n + 1) run) (later : s.currentRun < run)
  | distributing (n : Nat) (found : Option Found) (rest : Thread D Bool) (g : Role)
    (is : thread = starting { run := s.currentRun, handler := none } found (restOfRun setting n s.currentRun rest))
    (acts : Acts setting rest g fun _ _ => True) (reported : g.Reported setting.schedule s s.currentRun)
    (begins : ∀ f ∈ found, ∃ h, Begins setting s s.currentRun f h)
  | closing (closed : Closed thread)

/-- The first thread leads, and all others serve. -/
def Takes : Nat → Life → LifeThread D Unit → Prop
  | 0 => Leads setting
  | _ + 1 => Serves setting

variable {setting} {s s' : Life} {owner : Owner} {action : Action D} {a : LifeAction D}
  {started : List (LifeThread D Unit)} {thread : LifeThread D Unit}

theorem leads_runs (n : Nat) {run : Nat} (later : s.currentRun < run) :
    Leads setting s (runsThenShutdown setting n run) := by
  cases n with
  | zero => exact .closing (closed_shutdown setting)
  | succ n => exact .between n run rfl later

theorem Begins.mono {run : Nat} {f : Found} {g : Role} (begins : Begins setting s run f g) (grows : s.Grows s')
    (current : ¬Ignores f.outbound f.handler → run = s'.currentRun) : Begins setting s' run f g :=
  ⟨begins.acts, begins.reported.mono grows, current⟩

/-- The step of an owner in its own run. -/
theorem Consistent.ownerStep (wellFormed : setting.schedule.WellFormed) {α : Type} {r : action.Response}
    {next : action.Response → Thread D α} {g : Role} {post : Role → α → Prop} (consistent : Consistent setting s)
    (follows : Acts setting (.act action next) g post) (reported : g.Reported setting.schedule s owner.run)
    (current : owner.run = s.currentRun) (acts : ownerPerforms setting owner action s r s' found) :
    Consistent setting s' ∧ s'.currentRun = s.currentRun ∧
      (∃ g', Acts setting (next r) g' post ∧ g'.Reported setting.schedule s' owner.run) ∧
      ∀ f ∈ found, ∃ h, Begins setting s' owner.run f h := by
  obtain ⟨base, -⟩ := ownerPerforms_base acts
  obtain ⟨g', new, step, fresh, threads, goes⟩ := follows _ r _ _ consistent.handlers base
  obtain ⟨consistent', same, brings⟩ := consistent.roleStep acts step reported current
  obtain ⟨first, rest⟩ := List.forall_mem_cons.1 brings
  refine ⟨consistent', same, ⟨g', goes, first⟩, ?_⟩
  rintro f rfl
  obtain ⟨role, rfl, plays⟩ := List.map_eq_singleton_iff.1 threads.symm
  have serving : Acts setting (handle setting.json setting.coordinatorId f.handler f.outbound) role fun _ _ => True := by
    have thread : role.thread setting = handle setting.json setting.coordinatorId f.handler f.outbound := plays
    rw [← thread]
    exact acts_startable wellFormed (fresh role (List.mem_singleton_self role))
  exact ⟨role, serving, rest role (List.mem_singleton_self role), fun _ => current.trans same.symm⟩

/-- The own step of a handler's thread. -/
theorem Serves.step (wellFormed : setting.schedule.WellFormed) {next : a.Response → LifeThread D Unit} {r : a.Response}
    (serves : Serves setting s (.act a next)) (consistent : Consistent setting s)
    (acts : lifePerforms setting a s r s' started) :
    Consistent setting s' ∧ s'.currentRun = s.currentRun ∧ Serves setting s' (next r) ∧
      ∀ thread ∈ started, Serves setting s' thread := by
  cases serves with
  | inside owner found rest g is follows reported current begins =>
    cases found with
    | some f =>
      cases is
      obtain ⟨rfl, rfl⟩ := acts
      obtain ⟨h, begins⟩ := begins f rfl
      refine ⟨consistent, rfl, .inside owner none rest g rfl follows reported current nofun, fun thread mem => ?_⟩
      exact .before owner.run f h (List.mem_singleton.1 mem) begins
    | none =>
      cases rest with
      | done => cases is
      | act action rest =>
        cases is
        have now := current action rest rfl
        obtain ⟨acts, rfl⟩ := acts
        obtain ⟨consistent', same, ⟨g', goes, brings⟩, begun⟩ := consistent.ownerStep wellFormed follows reported now acts
        refine ⟨consistent', same, ?_, by simp⟩
        exact .inside owner r.2 (rest r.1) g' rfl goes brings (fun _ _ _ => now.trans same.symm) begun
  | before run f g is begins =>
    cases is
    obtain ⟨rfl, rfl⟩ := acts
    refine ⟨consistent, rfl, .inside _ none _ g rfl begins.acts begins.reported (fun action next here => ?_) nofun, by simp⟩
    refine begins.current fun ignores => ?_
    rw [handle_ignored ignores] at here
    cases here

/-- The steps of `shutdown` leave the maps alone, and register no handler. -/
theorem Closed.step {next : a.Response → LifeThread D Unit} {r : a.Response} (closed : Closed (.act a next))
    (consistent : Consistent setting s) (acts : lifePerforms setting a s r s' started) :
    Consistent setting s' ∧ s'.currentRun = s.currentRun ∧ Closed (next r) ∧ started = [] := by
  have frame {s' : Life} (handlers : Handlers setting.coordinatorId s'.shared.comm.localHandlers)
      (tracking : s'.shared.tracking = s.shared.tracking) (current : s'.currentRun = s.currentRun)
      (calls : s'.calls = s.calls) (timedOut : s'.timedOutRuns = s.timedOutRuns) : Consistent setting s' := by
    have grows : s.Grows s' := Life.grows_of_append (calls.trans (List.append_nil _).symm)
    exact consistent.frame handlers tracking current grows fun run late => timedOut ▸ late
  cases a with
  | of | detach | enter => exact closed.elim
  | unregisterLocalHandler id =>
    obtain ⟨rfl, rfl⟩ := acts
    refine ⟨frame (fun other handler found => ?_) rfl rfl rfl rfl, rfl, closed r, rfl⟩
    change (s.shared.comm.localHandlers.erase id).find? other = some handler at found
    rw [OrdMap.find?_erase] at found
    split at found
    · cases found
    · exact consistent.handlers other handler found
  | stop =>
    obtain ⟨rfl, rfl⟩ := acts
    refine ⟨frame (fun other handler found => ?_) rfl rfl rfl rfl, rfl, closed r, rfl⟩
    cases found
  | resetExecutor satId =>
    obtain ⟨rfl, rfl⟩ := acts
    exact ⟨frame consistent.handlers rfl rfl rfl rfl, rfl, closed r, rfl⟩
  | resetComm satId =>
    obtain ⟨rfl, rfl⟩ := acts
    exact ⟨frame consistent.handlers rfl rfl rfl rfl, rfl, closed r, rfl⟩

/-- The own step of the thread that calls `run` and `shutdown`: it goes on within the current run, or begins a later
one. -/
theorem Leads.step (wellFormed : setting.schedule.WellFormed) {next : a.Response → LifeThread D Unit} {r : a.Response}
    (leads : Leads setting s (.act a next)) (consistent : Consistent setting s)
    (acts : lifePerforms setting a s r s' started) :
    Consistent setting s' ∧ (s'.currentRun = s.currentRun ∨
        ∃ owner, a = .of owner .startTracking ∧ s.currentRun < owner.run) ∧
      Leads setting s' (next r) ∧ ∀ thread ∈ started, Serves setting s' thread := by
  cases leads with
  | between n run is later =>
    have begins : Program.act a next = .act (.of { run, handler := none } .startTracking) fun r =>
        starting { run, handler := none } r.2 (restOfRun setting n run
          (distributeAllTasks setting.json setting.coordinatorId coordinatorHost setting.schedule)) :=
      is.trans (owned_act_bind _ _ _ _)
    cases begins
    obtain ⟨⟨found, rfl⟩, rfl⟩ := acts
    refine ⟨consistent.start run, .inr ⟨_, rfl, later⟩,
      .distributing n r.2 _ (.distributing setting.schedule.satelliteIds) rfl ?_ trivial ?_, by simp⟩
    · exact acts_distributeAllTasks wellFormed fun _ _ => trivial
    · rw [found]
      nofun
  | distributing n found rest g is follows reported begins =>
    cases found with
    | some f =>
      cases is
      obtain ⟨rfl, rfl⟩ := acts
      obtain ⟨h, begins⟩ := begins f rfl
      refine ⟨consistent, .inl rfl, .distributing n none rest g rfl follows reported nofun, fun thread mem => ?_⟩
      exact .before _ f h (List.mem_singleton.1 mem) begins
    | none =>
      cases rest with
      | done distributed =>
        have waits : Program.act a next = .act (.of { run := s.currentRun, handler := none } .awaitAcks) fun r =>
            starting { run := s.currentRun, handler := none } r.2 (runsThenShutdown setting n (s.currentRun + 1)) :=
          is.trans (owned_act_bind _ _ _ _)
        cases waits
        obtain ⟨⟨found, waited⟩, rfl⟩ := acts
        dsimp only
        rw [found]
        obtain ⟨_, _, rfl⟩ | ⟨_, _, _, rfl⟩ := waited
        · exact ⟨consistent, .inl rfl, leads_runs n (Nat.lt_succ_self _), by simp⟩
        · have late : s.currentRun ∈ s.timedOutRuns ++ [s.currentRun] := by simp
          exact ⟨consistent.giveUp late, .inl rfl, leads_runs n (Nat.lt_succ_self _), by simp⟩
      | act action rest =>
        cases is
        obtain ⟨acts, rfl⟩ := acts
        obtain ⟨consistent', same, ⟨g', goes, brings⟩, begun⟩ :=
          consistent.ownerStep wellFormed follows reported rfl acts
        refine ⟨consistent', .inl same, .distributing n r.2 (rest r.1) g' ?_ goes ?_ ?_, by simp⟩
        · rw [same]
          exact starting_bind _ _ _ _
        · rw [same]
          exact brings
        · rw [same]
          exact begun
  | closing closed =>
    obtain ⟨consistent', same, rest, none⟩ := closed.step consistent acts
    exact ⟨consistent', .inl same, .closing rest, by simp [none]⟩

/-- A step takes back no call. -/
theorem lifePerforms_grows {r : a.Response} (acts : lifePerforms setting a s r s' started) : s.Grows s' := by
  cases a with
  | of owner action =>
    obtain ⟨more, _, noted⟩ := (ownerPerforms_frame acts.1).calls
    exact Life.grows_of_append noted
  | detach | enter =>
    obtain ⟨rfl, _⟩ := acts
    exact fun _ _ => List.Sublist.refl _
  | _ =>
    obtain ⟨_, rfl⟩ := acts
    exact fun _ _ => List.Sublist.refl _

/-- The steps of the other threads, which may begin a run when the thread is clear of it. -/
theorem Serves.others (serves : Serves setting s thread) (grows : s.Grows s')
    (stays : s'.currentRun = s.currentRun ∨ ∃ starter, a = .of starter .startTracking ∧ s.currentRun < starter.run)
    (waits : waitsForEarlierRuns a thread = true) : Serves setting s' thread := by
  -- Where a run begins, the thread belongs to none before it.
  have stay {run : Nat} (now : run = s.currentRun)
      (early : ∀ starter, a = .of starter .startTracking → starter.run ≤ run) : run = s'.currentRun := by
    rcases stays with same | ⟨starter, is, later⟩
    · rw [same, now]
    · have := early starter is
      omega
  cases serves with
  | inside owner found rest g is follows reported current begins =>
    have early : ∀ starter, a = .of starter .startTracking → thread ≠ .done () → starter.run ≤ owner.run := by
      rintro starter rfl works
      subst is
      cases found with
      | some f => exact of_decide_eq_true waits
      | none =>
        cases rest with
        | done => exact absurd rfl works
        | act action next => exact of_decide_eq_true waits
    refine .inside owner found rest g is follows (reported.mono grows) (fun action next here => ?_) fun f mem => ?_
    · refine stay (current action next here) fun starter begun => early starter begun ?_
      subst is here
      cases found <;> nofun
    · obtain ⟨h, begins⟩ := begins f mem
      refine ⟨h, begins.mono grows fun heard => stay (begins.current heard) fun starter begun => early starter begun ?_⟩
      cases mem
      subst is
      nofun
  | before run f g is begins =>
    refine .before run f g is (begins.mono grows fun heard => stay (begins.current heard) ?_)
    rintro starter rfl
    subst is
    simpa [waitsForEarlierRuns, detached, heard] using waits

/-- The steps of handlers. -/
theorem Leads.others (leads : Leads setting s thread) (grows : s.Grows s') (same : s'.currentRun = s.currentRun) :
    Leads setting s' thread := by
  cases leads with
  | between n run is later => exact .between n run is (same ▸ later)
  | distributing n found rest g is follows reported begins =>
    refine .distributing n found rest g (same ▸ is) follows (same ▸ reported.mono grows) fun f mem => ?_
    obtain ⟨h, begins⟩ := begins f mem
    rw [same]
    exact ⟨h, begins.mono grows fun heard => (begins.current heard).trans same.symm⟩
  | closing closed => exact .closing closed

theorem takes_own (wellFormed : setting.schedule.WellFormed) (n : Nat) (s : Life) (a : LifeAction D)
    (next : a.Response → LifeThread D Unit) (r : a.Response) (s' : Life) (started : List (LifeThread D Unit))
    (consistent : Consistent setting s) (takes : Takes setting n s (.act a next))
    (acts : (lifecycle setting).performs a s r s' started) :
    Consistent setting s' ∧ Takes setting n s' (next r) ∧
      ∀ thread ∈ started, ∀ k : Nat, Takes setting (k + 1) s' thread := by
  cases n with
  | zero =>
    obtain ⟨consistent', _, goes, begun⟩ := Leads.step wellFormed takes consistent acts
    exact ⟨consistent', goes, fun thread mem _ => begun thread mem⟩
  | succ n =>
    obtain ⟨consistent', _, goes, begun⟩ := Serves.step wellFormed takes consistent acts
    exact ⟨consistent', goes, fun thread mem _ => begun thread mem⟩

theorem takes_others (wellFormed : setting.schedule.WellFormed) (n k : Nat) (s : Life) (a : LifeAction D)
    (next : a.Response → LifeThread D Unit) (r : a.Response) (s' : Life) (started : List (LifeThread D Unit))
    (thread : LifeThread D Unit) (other : n ≠ k) (consistent : Consistent setting s)
    (acting : Takes setting n s (.act a next)) (acts : (lifecycle setting).performs a s r s' started)
    (waits : waitsForEarlierRuns a thread = true) (takes : Takes setting k s thread) : Takes setting k s' thread := by
  have grows : s.Grows s' := lifePerforms_grows acts
  cases n with
  | zero =>
    obtain ⟨_, stays, _⟩ := Leads.step wellFormed acting consistent acts
    cases k with
    | zero => exact absurd rfl other
    | succ k => exact Serves.others takes grows stays waits
  | succ n =>
    obtain ⟨_, same, _⟩ := Serves.step wellFormed acting consistent acts
    cases k with
    | zero => exact Leads.others takes grows same
    | succ k => exact Serves.others takes grows (.inl same) waits

/-- A thread that is about to record an acknowledgement belongs to the current run. -/
theorem Takes.recordAck {n : Nat} {message : Message} {ack : BatchTaskAssignAck}
    {next : Unit × Option Found → LifeThread D Unit}
    (takes : Takes setting n s (.act (.of owner (.recordAck message ack)) next)) : owner.run = s.currentRun := by
  cases n with
  | zero =>
    cases takes with
    | between n run is later => cases is
    | distributing n found rest g is follows reported =>
      cases found with
      | some f => cases is
      | none =>
        cases rest with
        | done => cases is
        | act action rest =>
          cases is
          rfl
    | closing closed => exact closed.elim
  | succ n =>
    cases takes with
    | inside owner' found rest g is follows reported current =>
      cases found with
      | some f => cases is
      | none =>
        cases rest with
        | done => cases is
        | act action rest =>
          cases is
          exact current _ _ rfl
    | before run f g is => cases is

/-- In every run of the system, however often the coordinator runs, with every delay of the handlers: as long as a run
begins only behind the handlers that earlier runs have led to, what is recorded about a finished satellite is about the
current run, and no thread is about to record the acknowledgement of another. -/
theorem acks_reach_their_run (wellFormed : setting.schedule.WellFormed) {comm : InterSatComm Handler} {n : Nat}
    {pool : Pool (LifeAction D) LifeAction.Response Life}
    (reaches : (lifecycle setting).ReachesWhen (fun a thread => waitsForEarlierRuns a thread = true)
      (lifePool setting comm n) pool) :
    Reflects setting.schedule pool.shared ∧ ∀ owner message ack next,
      .act (.of owner (.recordAck message ack)) next ∈ pool.threads → owner.run = pool.shared.currentRun := by
  have initially : Consistent setting (lifePool setting comm n).shared ∧
      ∀ (k : Nat) thread, (lifePool setting comm n).threads[k]? = some thread →
        Takes setting k (lifePool setting comm n).shared thread := by
    refine ⟨⟨handlers_registerLocalMessageHandlers rfl, ?_, ?_, ?_⟩, fun k thread found => ?_⟩
    · intro satId count tracked
      cases tracked
    · intro satId finished
      cases finished
    · intro satId succeeded
      cases succeeded
    · cases k with
      | zero =>
        cases found
        exact leads_runs n Nat.one_pos
      | succ k => cases found
  obtain ⟨consistent, each⟩ : Consistent setting pool.shared ∧ ∀ (k : Nat) thread, pool.threads[k]? = some thread →
      Takes setting k pool.shared thread :=
    reaches.holds (takes_own wellFormed) (takes_others wellFormed) initially
  refine ⟨consistent.reflects, fun owner message ack next mem => ?_⟩
  obtain ⟨k, found⟩ := List.getElem?_of_mem mem
  exact (each k _ found).recordAck

end Threads

/-! ## A run behind a timeout -/

/-- The first run times out, both satellites acknowledge, and in the second run S1 does. -/
def patientTurns : List Nat :=
  List.replicate 8 0 ++ List.replicate 13 1 ++ [5, 5] ++ List.replicate 13 2 ++ [8, 8] ++ List.replicate 7 0 ++
    List.replicate 13 9 ++ [13, 13]

def patientPool : Option (Pool (LifeAction FixedPoint) LifeAction.Response Life) :=
  Machine.turnsWhen (lifeOutcome lateSetting sampleRound fun _ => true) waitsForEarlierRuns
    (lifePool lateSetting sampleComm 2) patientTurns

theorem patientPool_ended : patientPool.any (fun pool => pool.shared.currentRun == 2 &&
    pool.shared.timedOutRuns == [1] && pool.shared.shared.tracking.finished.find? (lit "S1") == some true) = true := by
  decide +kernel

theorem lateSetting_wellFormed : lateSetting.schedule.WellFormed := by
  dsimp only [lateSetting]
  exact sampleSetting_wellFormed

/-- S1 is finished in the second run with the outcomes of this run. -/
theorem acks_reach_their_run_sample : ∃ pool, (lifecycle lateSetting).Reaches (lifePool lateSetting sampleComm 2) pool ∧
    pool.shared.currentRun = 2 ∧ pool.shared.timedOutRuns = [1] ∧
    ∃ outcomes : List Outcome, outcomes.map (·.1) = tasksOf lateSetting.schedule (lit "S1") ∧
      outcomes.Sublist (pool.shared.callsOf 2 (lit "S1")) ∧
      pool.shared.shared.tracking.results.find? (lit "S1") = some (outcomes.all (·.2)) := by
  obtain ⟨pool, reached, ended⟩ := (Option.any_eq_true _ _).1 patientPool_ended
  simp only [Bool.and_eq_true, beq_iff_eq] at ended
  obtain ⟨⟨current, late⟩, finished⟩ := ended
  have reaches := Machine.reachesWhen_of_turns (lifeOutcome_sound lateSetting sampleRound _) (fun _ _ => id) reached
  refine ⟨pool, reaches.reaches, current, late, ?_⟩
  rcases (acks_reach_their_run lateSetting_wellFormed reaches).1.finished _ finished with found | ⟨out, _⟩
  · rw [current] at found
    exact found
  · rw [current, late] at out
    cases List.mem_singleton.1 out

/-- The first run times out before S1 starts with its batch, and the acknowledgement comes when the second run has set up
the maps and sent nothing. -/
def confusedTurns : List Nat := List.replicate 9 0 ++ List.replicate 13 1 ++ [5, 5]

def confusedPool : Option (Pool (LifeAction FixedPoint) LifeAction.Response Life) :=
  Machine.turns (lifeOutcome lateSetting sampleRound fun _ => true) (lifePool lateSetting sampleComm 2) confusedTurns

theorem confusedPool_ended : confusedPool.any (fun pool => pool.shared.currentRun == 2 &&
    pool.shared.timedOutRuns == [1] && pool.shared.shared.tracking.finished.find? (lit "S1") == some true &&
    pool.shared.shared.tracking.results.find? (lit "S1") == some true &&
    (pool.shared.callsOf 2 (lit "S1")).isEmpty) = true := by
  decide +kernel

/-- The second run counts S1 as finished with success, but has executed none of its tasks. -/
theorem acks_reach_other_run : ∃ pool, (lifecycle lateSetting).Reaches (lifePool lateSetting sampleComm 2) pool ∧
    pool.shared.currentRun = 2 ∧ pool.shared.shared.tracking.finished.find? (lit "S1") = some true ∧
    pool.shared.shared.tracking.results.find? (lit "S1") = some true ∧ pool.shared.callsOf 2 (lit "S1") = [] ∧
    ¬Reflects lateSetting.schedule pool.shared := by
  obtain ⟨pool, reached, ended⟩ := (Option.any_eq_true _ _).1 confusedPool_ended
  simp only [Bool.and_eq_true, beq_iff_eq, List.isEmpty_iff] at ended
  obtain ⟨⟨⟨⟨current, late⟩, finished⟩, result⟩, none⟩ := ended
  refine ⟨pool, Machine.reaches_of_turns (lifeOutcome_sound lateSetting sampleRound _) reached, current, finished, result,
    none, fun reflects => ?_⟩
  rcases reflects.finished _ finished with ⟨outcomes, tasks, executed, _⟩ | ⟨out, _⟩
  · rw [current, none, List.sublist_nil] at executed
    rw [executed] at tasks
    have busy : tasksOf lateSetting.schedule (lit "S1") ≠ [] := by decide +kernel
    exact busy tasks.symm
  · rw [current, late] at out
    cases List.mem_singleton.1 out

end Actuator.Coordinator
