import Actuator.Coordinator.Run
import Mathlib.Algebra.Order.BigOperators.Group.List
import Mathlib.Algebra.Order.Group.Nat

/-!
# The roles of a run

An abstract view of a run. For each satellite with tasks there is one token. It
lies with the coordinator before the batch is sent, and then with the thread
that starts with the batch, executes the tasks, or brings the acknowledgement
back. In the end it is the satellite's entry in `satellite_task_finished_`.
Nobody else touches what is recorded about the satellite, so its result is that
of its own tasks (`keeps_inv`).
-/

namespace Actuator.Coordinator

open Actuator.Lib Actuator.Core Actuator.Parser Actuator.Executor

variable {D : Type}

/-- A task with the result of `executeSingleTask`. -/
abbrev Outcome := TaskSegment × Bool

/-- What a thread of a run is about. -/
inductive Role where
  | starting
  | distributing (remaining : List Str)
  | batch (satId : Str) (message : Message)
  | working (satId : Str) (outcomes : List Outcome) (remaining : List TaskSegment)
  | acking (satId : Str) (outcomes : List Outcome) (message : Message)
  | passive (handler : Handler) (message : Message)
  | idle

/-- How many tokens of the satellite the thread has. -/
def Role.tokens (satId : Str) : Role → Nat
  | starting => 1
  | distributing remaining => remaining.count satId
  | batch other _ => if other = satId then 1 else 0
  | working other _ _ => if other = satId then 1 else 0
  | acking other _ _ => if other = satId then 1 else 0
  | passive _ _ => 0
  | idle => 0

/-- The calls of `executeSingleTask` for one satellite. -/
def callsOf (s : Shared) (satId : Str) : List Outcome :=
  (s.calls.filter fun call => call.satId = satId).map fun call => (call.task, call.taskOk)

/-- The acknowledgement of the satellite for these tasks. -/
structure Acknowledges (schedule : MultiSatSchedule) (satId : Str) (outcomes : List Outcome) (message : Message)
    (ack : BatchTaskAssignAck) : Prop where
  source : message.header.sourceNodeId = satId
  satellite : ack.satelliteId = satId
  accepted : ack.accepted = outcomes.all (·.2)
  processed : ack.acceptedTaskIds.length + ack.rejectedTaskIds.length = outcomes.length
  tasks : outcomes.map (·.1) = tasksOf schedule satId

/-- The state has changed in nothing that the roles are about. -/
structure Same (s s' : Shared) : Prop where
  handlers : s'.comm.localHandlers = s.comm.localHandlers
  tracking : s'.tracking = s.tracking
  calls : s'.calls = s.calls
  acks : s'.acks = s.acks

theorem same_refl (s : Shared) : Same s s := ⟨rfl, rfl, rfl, rfl⟩

section Steps

variable (schedule : MultiSatSchedule)

/-- The steps of a role. -/
inductive RoleStep : Action D → Shared → Role → Shared → Role → List Role → Prop
  | start {s : Shared} :
    RoleStep .startTracking s .starting { s with tracking := .start schedule } (.distributing schedule.satelliteIds) []
  | quiet {action : Action D} {s s' : Shared} {g : Role} {new : List Role} (started : g ≠ .starting)
    (working : action ≠ .awaitAcks) (same : Same s s')
    (passive : ∀ g' ∈ new, ∃ handler message, g' = .passive handler message) : RoleStep action s g s' g new
  | dispatch {s s' : Shared} {remaining rest : List Str} {satId dest : Str} {sent message : Message}
    (same : Same s s') (left : satId :: rest <:+ remaining) (listed : satId ∈ schedule.satelliteIds)
    (busy : tasksOf schedule satId ≠ []) :
    RoleStep (.sendMessage dest sent) s (.distributing remaining) s' (.distributing rest) [.batch satId message]
  | begin {s : Shared} {satId : Str} {message : Message} :
    RoleStep .now s (.batch satId message) s (.working satId [] (tasksOf schedule satId)) []
  | execute {s : Shared} {satId : Str} {outcomes : List Outcome} {task : TaskSegment} {remaining : List TaskSegment}
    (taskOk : Bool) :
    RoleStep (.executeSingleTask satId task) s (.working satId outcomes (task :: remaining))
      { s with calls := s.calls ++ [{ satId, task, taskOk }] } (.working satId (outcomes ++ [(task, taskOk)]) remaining) []
  | acknowledge {s s' : Shared} {satId dest : Str} {outcomes : List Outcome} {sent message : Message}
    (same : Same s s') :
    RoleStep (.sendMessage dest sent) s (.working satId outcomes []) s' .idle [.acking satId outcomes message]
  | record {s : Shared} {satId : Str} {outcomes : List Outcome} {message : Message} {ack : BatchTaskAssignAck}
    (acknowledges : Acknowledges schedule satId outcomes message ack) :
    RoleStep (.recordAck message ack) s (.acking satId outcomes message)
      { s with tracking := s.tracking.recordAck ack, acks := s.acks ++ [(message, ack)] } .idle []
  | wait {s : Shared} {remaining : List Str} : RoleStep .awaitAcks s (.distributing remaining) s .idle []

end Steps

/-! ## The invariant -/

/-- What holds for a role as long as its thread is about it. -/
def Role.Valid (schedule : MultiSatSchedule) (s : Shared) : Role → Prop
  | starting => ∀ satId, callsOf s satId = []
  | distributing remaining =>
    (∀ satId ∈ schedule.satelliteIds, tasksOf schedule satId ≠ [] → s.tracking.Tracks schedule satId) ∧
      ∀ satId ∈ remaining, callsOf s satId = []
  | batch satId _ => s.tracking.Tracks schedule satId ∧ callsOf s satId = []
  | working satId outcomes remaining => s.tracking.Tracks schedule satId ∧ callsOf s satId = outcomes ∧
    outcomes.map (·.1) ++ remaining = tasksOf schedule satId
  | acking satId outcomes _ => s.tracking.Tracks schedule satId ∧ callsOf s satId = outcomes
  | passive _ _ => True
  | idle => True

/-- What is recorded about a finished satellite: its tasks were all executed, their outcomes decide its result, and its
own acknowledgement was handled. -/
structure Settled (schedule : MultiSatSchedule) (s : Shared) (satId : Str) : Prop where
  result : s.tracking.results.find? satId = some ((callsOf s satId).all (·.2))
  tasks : (callsOf s satId).map (·.1) = tasksOf schedule satId
  acknowledged : ∃ message ack, (message, ack) ∈ s.acks ∧ message.header.sourceNodeId = satId ∧ ack.satelliteId = satId

/-- The token that lies in `satellite_task_finished_`. -/
def finishedTokens (s : Shared) (satId : Str) : Nat := if s.tracking.finished.find? satId = some true then 1 else 0

/-- A registered handler is the simulator of its id or the coordinator's. -/
def Handlers (coordinatorId : Str) (handlers : OrdMap Str Handler) : Prop :=
  ∀ id handler, handlers.find? id = some handler →
    id ≠ [] ∧ (handler = .satellite id ∨ handler = .coordinator ∧ id = coordinatorId)

structure Inv (schedule : MultiSatSchedule) (coordinatorId : Str) (s : Shared) (roles : List Role) : Prop where
  handlers : Handlers coordinatorId s.comm.localHandlers
  valid : ∀ g ∈ roles, g.Valid schedule s
  tokens : ∀ satId, (roles.map (Role.tokens satId)).sum + finishedTokens s satId ≤ 1
  settled : ∀ satId, s.tracking.finished.find? satId = some true → Settled schedule s satId

section Preservation

variable {schedule : MultiSatSchedule} {coordinatorId : Str} {s s' : Shared} {g g' : Role} {before after new : List Role}

/-- A role that has no token of a satellite is not about it. -/
theorem Role.Valid.frame (valid : g.Valid schedule s)
    (tracks : ∀ satId, s.tracking.Tracks schedule satId → s'.tracking.Tracks schedule satId)
    (calls : ∀ satId, 0 < g.tokens satId → callsOf s' satId = callsOf s satId) : g.Valid schedule s' := by
  cases g with
  | starting =>
    intro satId
    rw [calls satId Nat.one_pos]
    exact valid satId
  | distributing remaining =>
    refine ⟨fun satId listed busy => tracks satId (valid.1 satId listed busy), fun satId mem => ?_⟩
    rw [calls satId (List.count_pos_iff.2 mem)]
    exact valid.2 satId mem
  | batch satId message =>
    refine ⟨tracks satId valid.1, ?_⟩
    rw [calls satId (by simp [Role.tokens])]
    exact valid.2
  | working satId outcomes remaining =>
    refine ⟨tracks satId valid.1, ?_, valid.2.2⟩
    rw [calls satId (by simp [Role.tokens])]
    exact valid.2.1
  | acking satId outcomes message =>
    refine ⟨tracks satId valid.1, ?_⟩
    rw [calls satId (by simp [Role.tokens])]
    exact valid.2
  | passive handler message => trivial
  | idle => trivial

theorem sum_tokens (satId : Str) (before after new : List Role) (g : Role) :
    ((before ++ g :: after ++ new).map (Role.tokens satId)).sum =
      (before.map (Role.tokens satId)).sum + g.tokens satId + (after.map (Role.tokens satId)).sum +
        (new.map (Role.tokens satId)).sum := by
  simp [Nat.add_assoc]

/-- Where one thread has a token of a satellite, no other does. -/
theorem Inv.alone (inv : Inv schedule coordinatorId s (before ++ g :: after)) {h : Role} (other : h ∈ before ++ after)
    {satId : Str} (token : 0 < h.tokens satId) : g.tokens satId = 0 := by
  have bound := inv.tokens satId
  have sum := sum_tokens satId before after [] g
  rw [List.append_nil] at sum
  have part : h.tokens satId ≤ ((before ++ after).map (Role.tokens satId)).sum :=
    List.le_sum_of_mem (List.mem_map_of_mem other)
  rw [List.map_append, List.sum_append] at part
  simp only [List.map_nil, List.sum_nil] at sum
  omega

/-- A step of one role that touches no more than the satellites whose tokens it has. -/
theorem Inv.replace (inv : Inv schedule coordinatorId s (before ++ g :: after))
    (handlers : s'.comm.localHandlers = s.comm.localHandlers)
    (tracks : ∀ satId, s.tracking.Tracks schedule satId → s'.tracking.Tracks schedule satId)
    (others : ∀ satId, g.tokens satId = 0 → callsOf s' satId = callsOf s satId ∧
      s'.tracking.finished.find? satId = s.tracking.finished.find? satId ∧
      s'.tracking.results.find? satId = s.tracking.results.find? satId)
    (acks : ∀ entry ∈ s.acks, entry ∈ s'.acks)
    (tokens : ∀ satId, g'.tokens satId + (new.map (Role.tokens satId)).sum + finishedTokens s' satId ≤
      g.tokens satId + finishedTokens s satId)
    (valid : g'.Valid schedule s') (fresh : ∀ n ∈ new, n.Valid schedule s')
    (settled : ∀ satId, 0 < g.tokens satId → s'.tracking.finished.find? satId = some true →
      Settled schedule s' satId) :
    Inv schedule coordinatorId s' (before ++ g' :: after ++ new) := by
  have rest : ∀ h ∈ before ++ after, h.Valid schedule s' := by
    intro h mem
    have held := inv.valid h (by
      rcases List.mem_append.1 mem with earlier | later
      · exact List.mem_append_left _ earlier
      · exact List.mem_append_right _ (List.mem_cons_of_mem _ later))
    exact held.frame tracks fun satId token => (others satId (inv.alone mem token)).1
  refine ⟨handlers ▸ inv.handlers, fun h mem => ?_, fun satId => ?_, fun satId finished => ?_⟩
  · simp only [List.mem_append, List.mem_cons] at mem
    rcases mem with (earlier | rfl | later) | begun
    · exact rest h (List.mem_append_left _ earlier)
    · exact valid
    · exact rest h (List.mem_append_right _ later)
    · exact fresh h begun
  · have bound := inv.tokens satId
    have sum := sum_tokens satId before after [] g
    rw [List.append_nil] at sum
    simp only [List.map_nil, List.sum_nil] at sum
    have step := tokens satId
    rw [sum_tokens]
    omega
  · by_cases token : g.tokens satId = 0
    · obtain ⟨calls, finishedSame, results⟩ := others satId token
      rw [finishedSame] at finished
      obtain ⟨result, tasks, message, ack, handled, source, own⟩ := inv.settled satId finished
      refine ⟨?_, ?_, message, ack, acks _ handled, source, own⟩
      · rw [results, calls, result]
      · rw [calls, tasks]
    · exact settled satId (Nat.pos_of_ne_zero token) finished

theorem Same.callsOf (same : Same s s') (satId : Str) : callsOf s' satId = callsOf s satId := by
  unfold Coordinator.callsOf
  rw [same.calls]

theorem Same.finishedTokens (same : Same s s') (satId : Str) : finishedTokens s' satId = finishedTokens s satId := by
  unfold Coordinator.finishedTokens
  rw [same.tracking]

/-- A finished satellite has its token in `satellite_task_finished_`. -/
theorem Inv.unfinished (inv : Inv schedule coordinatorId s (before ++ g :: after)) {satId : Str}
    (token : 0 < g.tokens satId) : s.tracking.finished.find? satId ≠ some true := by
  intro finished
  have bound := inv.tokens satId
  have sum := sum_tokens satId before after [] g
  rw [List.append_nil] at sum
  simp only [List.map_nil, List.sum_nil] at sum
  have one : finishedTokens s satId = 1 := if_pos finished
  omega

/-- A step that changes nothing but the roles. -/
theorem Inv.rename (inv : Inv schedule coordinatorId s (before ++ g :: after)) (same : Same s s')
    (tokens : ∀ satId, g'.tokens satId + (new.map (Role.tokens satId)).sum ≤ g.tokens satId)
    (valid : g'.Valid schedule s') (fresh : ∀ n ∈ new, n.Valid schedule s') :
    Inv schedule coordinatorId s' (before ++ g' :: after ++ new) := by
  refine inv.replace same.handlers (by simp [same.tracking]) ?_ (by simp [same.acks]) ?_ valid fresh ?_
  · exact fun satId _ => ⟨same.callsOf satId, by rw [same.tracking], by rw [same.tracking]⟩
  · intro satId
    rw [same.finishedTokens]
    exact Nat.add_le_add_right (tokens satId) _
  · intro satId token finished
    rw [same.tracking] at finished
    exact absurd finished (inv.unfinished token)

theorem start_inv (distinct : schedule.satelliteIds.Nodup)
    (inv : Inv schedule coordinatorId s (before ++ .starting :: after)) :
    Inv schedule coordinatorId { s with tracking := .start schedule }
      (before ++ .distributing schedule.satelliteIds :: after ++ []) := by
  have calls : ∀ satId, callsOf s satId = [] := inv.valid .starting (by simp)
  have none : ∀ satId, ((before ++ after).map (Role.tokens satId)).sum = 0 := by
    intro satId
    have bound := inv.tokens satId
    have sum := sum_tokens satId before after [] .starting
    rw [List.append_nil] at sum
    have one : Role.starting.tokens satId = 1 := rfl
    simp only [List.map_nil, List.sum_nil] at sum
    rw [List.map_append, List.sum_append]
    omega
  have tracked : ∀ satId ∈ schedule.satelliteIds, tasksOf schedule satId ≠ [] →
      (Tracking.start schedule).Tracks schedule satId := fun satId listed busy => Tracking.start_tracks listed busy
  have rest : ∀ h ∈ before ++ after, h.Valid schedule { s with tracking := .start schedule } := by
    intro h mem
    have empty : ∀ satId, h.tokens satId = 0 := by
      intro satId
      have part : h.tokens satId ≤ _ := List.le_sum_of_mem (List.mem_map_of_mem mem)
      rw [none satId] at part
      exact Nat.le_zero.1 part
    cases h with
    | starting => exact absurd (empty []) (by simp [Role.tokens])
    | distributing remaining => exact ⟨tracked, fun satId _ => calls satId⟩
    | batch satId message => exact absurd (empty satId) (by simp [Role.tokens])
    | working satId outcomes remaining => exact absurd (empty satId) (by simp [Role.tokens])
    | acking satId outcomes message => exact absurd (empty satId) (by simp [Role.tokens])
    | passive handler message => trivial
    | idle => trivial
  rw [List.append_nil]
  refine ⟨inv.handlers, fun h mem => ?_, fun satId => ?_, fun satId finished => ?_⟩
  · rw [List.mem_append, List.mem_cons] at mem
    rcases mem with earlier | rfl | later
    · exact rest h (List.mem_append_left _ earlier)
    · exact ⟨tracked, fun satId _ => calls satId⟩
    · exact rest h (List.mem_append_right _ later)
  · have sum := sum_tokens satId before after [] (.distributing schedule.satelliteIds)
    rw [List.append_nil] at sum
    have others := none satId
    rw [List.map_append, List.sum_append] at others
    have once : (Role.distributing schedule.satelliteIds).tokens satId ≤ 1 := List.nodup_iff_count_le_one.1 distinct satId
    have zero : finishedTokens { s with tracking := .start schedule } satId = 0 :=
      if_neg (Tracking.start_unfinished schedule satId)
    simp only [List.map_nil, List.sum_nil] at sum
    omega
  · exact absurd finished (Tracking.start_unfinished schedule satId)

theorem callsOf_append (call : Call) (satId : Str) :
    callsOf { s with calls := s.calls ++ [call] } satId =
      callsOf s satId ++ if call.satId = satId then [(call.task, call.taskOk)] else [] := by
  unfold callsOf
  split
  · rename_i own
    simp [own]
  · rename_i other
    simp [other]

theorem quiet_inv (inv : Inv schedule coordinatorId s (before ++ g :: after)) (same : Same s s')
    (passive : ∀ g' ∈ new, ∃ handler message, g' = .passive handler message) :
    Inv schedule coordinatorId s' (before ++ g :: after ++ new) := by
  have none : ∀ satId, (new.map (Role.tokens satId)).sum = 0 := by
    intro satId
    apply List.sum_eq_zero
    intro n mem
    obtain ⟨role, inside, rfl⟩ := List.mem_map.1 mem
    obtain ⟨handler, message, rfl⟩ := passive role inside
    rfl
  refine inv.rename same (fun satId => by rw [none]; exact le_refl _) ?_ ?_
  · exact (inv.valid g (by simp)).frame (by simp [same.tracking]) fun satId _ => same.callsOf satId
  · intro role mem
    obtain ⟨handler, message, rfl⟩ := passive role mem
    trivial

theorem dispatch_inv {remaining rest : List Str} {satId : Str} {message : Message}
    (inv : Inv schedule coordinatorId s (before ++ .distributing remaining :: after)) (same : Same s s')
    (left : satId :: rest <:+ remaining) (listed : satId ∈ schedule.satelliteIds)
    (busy : tasksOf schedule satId ≠ []) :
    Inv schedule coordinatorId s' (before ++ .distributing rest :: after ++ [.batch satId message]) := by
  obtain ⟨tracked, calls⟩ := inv.valid (.distributing remaining) (by simp)
  refine inv.rename same (fun other => ?_) ⟨?_, fun other mem => ?_⟩ ?_
  · have part := left.sublist.count_le other
    by_cases own : satId = other
    · subst own
      simpa [Role.tokens] using part
    · simpa [Role.tokens, own] using part
  · rw [same.tracking]
    exact tracked
  · rw [same.callsOf]
    exact calls other (left.subset (List.mem_cons_of_mem _ mem))
  · intro role mem
    cases List.mem_singleton.1 mem
    refine ⟨?_, ?_⟩
    · rw [same.tracking]
      exact tracked satId listed busy
    · rw [same.callsOf]
      exact calls satId (left.subset List.mem_cons_self)

theorem begin_inv {satId : Str} {message : Message}
    (inv : Inv schedule coordinatorId s (before ++ .batch satId message :: after)) :
    Inv schedule coordinatorId s (before ++ .working satId [] (tasksOf schedule satId) :: after ++ []) := by
  obtain ⟨tracks, calls⟩ := inv.valid (.batch satId message) (by simp)
  exact inv.rename (same_refl s) (fun other => by simp [Role.tokens]) ⟨tracks, calls, rfl⟩ (by simp)

theorem execute_inv {satId : Str} {outcomes : List Outcome} {task : TaskSegment} {remaining : List TaskSegment}
    (inv : Inv schedule coordinatorId s (before ++ .working satId outcomes (task :: remaining) :: after))
    (taskOk : Bool) :
    Inv schedule coordinatorId { s with calls := s.calls ++ [{ satId, task, taskOk }] }
      (before ++ .working satId (outcomes ++ [(task, taskOk)]) remaining :: after ++ []) := by
  obtain ⟨tracks, calls, tasks⟩ := inv.valid (.working satId outcomes (task :: remaining)) (by simp)
  refine inv.replace rfl (fun _ => id) (fun other token => ⟨?_, rfl, rfl⟩) (fun _ => id) ?_ ⟨tracks, ?_, ?_⟩ (by simp) ?_
  · have different : satId ≠ other := by
      intro own
      simp [Role.tokens, own] at token
    rw [callsOf_append, if_neg different, List.append_nil]
  · exact fun other => le_refl _
  · rw [callsOf_append, if_pos rfl, calls]
  · rw [← tasks]
    simp
  · intro other token finished
    exact absurd finished (inv.unfinished token)

theorem acknowledge_inv {satId : Str} {outcomes : List Outcome} {message : Message}
    (inv : Inv schedule coordinatorId s (before ++ .working satId outcomes [] :: after)) (same : Same s s') :
    Inv schedule coordinatorId s' (before ++ .idle :: after ++ [.acking satId outcomes message]) := by
  obtain ⟨tracks, calls, tasks⟩ := inv.valid (.working satId outcomes []) (by simp)
  refine inv.rename same (fun other => by simp [Role.tokens]) trivial ?_
  intro role mem
  cases List.mem_singleton.1 mem
  refine ⟨?_, ?_⟩
  · rw [same.tracking]
    exact tracks
  · rw [same.callsOf]
    exact calls

/-- The acknowledgement settles its satellite and no other. -/
theorem record_inv {satId : Str} {outcomes : List Outcome} {message : Message} {ack : BatchTaskAssignAck}
    (inv : Inv schedule coordinatorId s (before ++ .acking satId outcomes message :: after))
    (acknowledges : Acknowledges schedule satId outcomes message ack) :
    Inv schedule coordinatorId { s with tracking := s.tracking.recordAck ack, acks := s.acks ++ [(message, ack)] }
      (before ++ .idle :: after ++ []) := by
  obtain ⟨tracks, calls⟩ := inv.valid (.acking satId outcomes message) (by simp)
  obtain ⟨source, satellite, accepted, processed, tasks⟩ := acknowledges
  have length : outcomes.length = (tasksOf schedule satId).length := by rw [← tasks, List.length_map]
  have success : Tracking.succeeds (Int32.ofNat (tasksOf schedule satId).length) ack = outcomes.all (·.2) := by
    rw [Tracking.succeeds_of_length (processed.trans length), accepted]
  have recorded : s.tracking.recordAck ack = { s.tracking with
      finished := s.tracking.finished.insert satId true
      results := s.tracking.results.insert satId (outcomes.all (·.2)) } := by
    unfold Tracking.recordAck
    rw [satellite, tracks.1]
    simp only [success]
  rw [recorded]
  refine inv.replace rfl ?_ (fun other token => ⟨rfl, ?_, ?_⟩) (fun _ => List.mem_append_left _) (fun other => ?_)
    trivial (by simp) ?_
  · intro other tracked
    refine ⟨tracked.1, ?_⟩
    rw [OrdMap.find?_insert]
    split
    · rfl
    · exact tracked.2
  · have different : other ≠ satId := by
      intro own
      simp [Role.tokens, own] at token
    exact OrdMap.find?_insert_of_ne _ _ different
  · have different : other ≠ satId := by
      intro own
      simp [Role.tokens, own] at token
    exact OrdMap.find?_insert_of_ne _ _ different
  · unfold finishedTokens
    simp only [OrdMap.find?_insert]
    by_cases own : other = satId
    · simp [Role.tokens, own]
    · simp [Role.tokens, own, Ne.symm own]
  · intro other token _
    have own : satId = other := by
      by_contra different
      simp [Role.tokens, different] at token
    subst own
    refine ⟨?_, ?_, message, ack, by simp, source, satellite⟩
    · show (s.tracking.results.insert satId (outcomes.all (·.2))).find? satId = some ((callsOf s satId).all (·.2))
      rw [OrdMap.find?_insert_self, calls]
    · show (callsOf s satId).map (·.1) = _
      rw [calls, tasks]

theorem wait_inv {remaining : List Str} (inv : Inv schedule coordinatorId s (before ++ .distributing remaining :: after)) :
    Inv schedule coordinatorId s (before ++ .idle :: after ++ []) :=
  inv.rename (same_refl s) (fun other => by simp [Role.tokens]) trivial (by simp)

/-- Every step of a role keeps the invariant. -/
theorem keeps_inv (distinct : schedule.satelliteIds.Nodup) {action : Action D}
    (inv : Inv schedule coordinatorId s (before ++ g :: after)) (step : RoleStep schedule action s g s' g' new) :
    Inv schedule coordinatorId s' (before ++ g' :: after ++ new) := by
  cases step with
  | start => exact start_inv distinct inv
  | quiet started working same passive => exact quiet_inv inv same passive
  | dispatch same left listed busy => exact dispatch_inv inv same left listed busy
  | begin => exact begin_inv inv
  | execute taskOk => exact execute_inv inv taskOk
  | acknowledge same => exact acknowledge_inv inv same
  | record acknowledges => exact record_inv inv acknowledges
  | wait => exact wait_inv inv

end Preservation

end Actuator.Coordinator
