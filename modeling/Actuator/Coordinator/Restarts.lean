import Actuator.Coordinator.Program
import Mathlib.Data.Finset.Lattice.Fold
import Mathlib.Data.Fintype.EquivFin

/-!
# Starting again

Each socket that an initialization opens is closed by the shutdown of a
coordinator that has run, and by nothing else. One that failed behind `socket`
leaves a socket that nobody uses, and a shutdown without a run leaves one that
still listens: from then on the port is taken (`history_restart_iff`). The
shutdown behind a run ends only if `accept` returns from its closed socket.
-/

namespace Actuator.Coordinator.CoordinatorState

open Actuator.Lib Actuator.Core Actuator.Parser Actuator.Executor

variable {D : Type} [CxxDouble D] (build : Build D)

/-! ## Sockets that are left behind -/

/-- The initialization opens a socket and fails. -/
def opensInVain (s : CoordinatorState D) : Event D → Bool
  | .initializeCoordinator _ given => !s.initialized &&
      !(parseAllSatellites build.json given.scheduleText).satellites.isEmpty && given.answers.socketFd.isSome &&
      !given.answers.succeed
  | _ => false

/-- The coordinator is shut down without a run. -/
def abandons (s : CoordinatorState D) : Event D → Bool
  | .shutdown _ => !s.blocked && s.initialized && !s.comm.any (·.running)
  | _ => false

/-- The coordinator is shut down behind a run, and `accept` does not return. -/
def stalls (s : CoordinatorState D) : Event D → Bool
  | .shutdown acceptReturns => !s.blocked && s.initialized && s.comm.any (·.running) && !acceptReturns
  | _ => false

/-- How many calls of a history are of a kind. -/
def countCalls (kind : CoordinatorState D → Event D → Bool) : CoordinatorState D → List (Event D) → Nat
  | _, [] => 0
  | s, event :: rest => (if kind s event then 1 else 0) + countCalls kind (s.perform build event) rest

/-- The operating system answers each initialization with what it has. -/
def AllPossible : CoordinatorState D → List (Event D) → Prop
  | _, [] => True
  | s, event :: rest => (∀ path given, event = .initializeCoordinator path given → s.initialized = false →
      given.answers.Possible s.sockets) ∧ AllPossible (s.perform build event) rest

/-- Where the sockets are, after so many calls that left one behind, and so many that did not return. -/
structure Accounted (s : CoordinatorState D) (vain abandoned stalled : Nat) : Prop where
  noStray : s.sockets.strayClose = false
  count : s.sockets.opened.length = vain + abandoned + if s.initialized && !s.blocked then 1 else 0
  blocked : s.blocked = true ↔ 0 < stalled
  /-- The module listens on the socket that was opened last, and nobody else does. -/
  up : s.initialized = true → s.blocked = false → ∃ comm fd others, s.comm = some comm ∧ comm.initialized = true ∧
    comm.listenSocket = some fd ∧ s.sockets.opened = { fd, listening := true } :: others ∧
    (∀ socket ∈ others, socket.listening = false) ∧ abandoned = 0
  down : s.initialized = false → (s.sockets.Free ↔ abandoned = 0)

variable {build} {s : CoordinatorState D} {vain abandoned stalled : Nat}

/-! ## One call -/

theorem Accounted.initializeCoordinator (accounted : s.Accounted vain abandoned stalled) (sound : s.Sound build)
    {path : Str} {given : Circumstances} (initialized : s.initialized = false)
    (possible : given.answers.Possible s.sockets) :
    (s.initializeCoordinator build path given).2.Accounted
      (vain + if opensInVain build s (.initializeCoordinator path given) then 1 else 0) abandoned stalled := by
  have down := sound.down initialized
  have outcome := initializeCoordinator_outcome build path given initialized down
  have waiting := accounted.blocked
  rcases result : s.initializeCoordinator build path given with ⟨ok, s'⟩
  rw [result] at outcome
  dsimp only at outcome ⊢
  cases outcome with
  | empty undescribed registry =>
    have quiet : opensInVain build s (.initializeCoordinator path given) = false := by
      simp [opensInVain, undescribed]
    rw [quiet]
    exact ⟨accounted.noStray, accounted.count, waiting, fun up => (nomatch initialized.symm.trans up), accounted.down⟩
  | unbound described failed registry =>
    have free := accounted.down initialized
    have counted := accounted.count
    rw [initialized] at counted
    cases assigned : given.answers.socketFd with
    | none =>
      have kept : given.answers.leave s.sockets = s.sockets := by
        unfold SocketAnswers.leave
        rw [assigned]
      have quiet : opensInVain build s (.initializeCoordinator path given) = false := by
        simp [opensInVain, assigned]
      rw [quiet, kept]
      exact ⟨accounted.noStray, accounted.count, waiting, fun up => (nomatch initialized.symm.trans up), accounted.down⟩
    | some fd =>
      have lost : opensInVain build s (.initializeCoordinator path given) = true := by
        simp [opensInVain, initialized, described, assigned, failed]
      rw [lost, possible.leave_opened assigned, failed]
      refine ⟨accounted.noStray, ?_, waiting, fun up => (nomatch initialized.symm.trans up), fun _ => ?_⟩
      · show s.sockets.opened.length + 1 = _
        rw [counted, if_pos rfl, initialized]
        simp only [Bool.false_and, Bool.false_eq_true, if_false]
        omega
      · rw [← free]
        exact ⟨fun all socket mem => all socket (List.mem_cons_of_mem _ mem),
          fun all socket mem => (List.mem_cons.1 mem).elim (fun own => by rw [own]) (all socket)⟩
  | up described succeeded =>
    obtain ⟨⟨fd, assigned⟩, bound, _⟩ := given.answers.succeed_iff.1 succeeded
    have free := possible.exclusive bound
    have counted := accounted.count
    rw [initialized] at counted
    have found : opensInVain build s (.initializeCoordinator path given) = false := by
      simp [opensInVain, succeeded]
    rw [down.returned] at waiting
    rw [found, possible.leave_opened assigned, succeeded]
    refine ⟨accounted.noStray, ?_, waiting, fun _ _ => ?_, fun down => (nomatch down)⟩
    · show s.sockets.opened.length + 1 = _
      rw [counted]
      simp
    · exact ⟨_, fd, _, rfl, rfl, assigned, rfl, free, (accounted.down initialized).1 free⟩

omit [CxxDouble D] in
theorem Accounted.shutdown (accounted : s.Accounted vain abandoned stalled) (initialized : s.initialized = true)
    (returned : s.blocked = false) (acceptReturns : Bool) :
    (s.shutdown acceptReturns).Accounted vain
      (abandoned + if abandons s (.shutdown acceptReturns : Event D) then 1 else 0)
      (stalled + if stalls s (.shutdown acceptReturns : Event D) then 1 else 0) := by
  obtain ⟨comm, fd, others, held, ready, listens, opened, free, none⟩ := accounted.up initialized returned
  have counted := accounted.count
  have waiting := accounted.blocked
  have before : s.sockets = ⟨{ fd, listening := true } :: others, s.sockets.strayClose⟩ := by
    rw [← opened]
  have closing : (comm.closeListen s.sockets).2 = ⟨others, s.sockets.strayClose⟩ := by
    unfold CommLife.closeListen
    rw [listens, before]
    exact Sockets.closesocket_head
  rw [initialized, returned, opened] at counted
  rw [returned] at waiting
  have outcome := shutdown_outcome initialized held acceptReturns
  generalize s.shutdown acceptReturns = s' at outcome ⊢
  cases outcome with
  | unused resting =>
    have idle : abandons s (.shutdown acceptReturns : Event D) = true := by
      simp [abandons, initialized, returned, held, resting]
    have quick : stalls s (.shutdown acceptReturns : Event D) = false := by
      simp [stalls, held, resting]
    rw [idle, quick]
    refine ⟨accounted.noStray, ?_, waiting, fun up => (nomatch up), fun _ => ?_⟩
    · rw [opened]
      simpa [Nat.add_assoc] using counted
    · refine iff_of_false (fun all => ?_) (by simp)
      have listening := all { fd, listening := true } (by rw [opened]; exact List.mem_cons_self)
      cases listening
  | closed running returns =>
    have ran : abandons s (.shutdown acceptReturns : Event D) = false := by
      simp [abandons, held, running]
    have quick : stalls s (.shutdown acceptReturns : Event D) = false := by
      simp [stalls, returns]
    rw [ran, quick, closing]
    refine ⟨accounted.noStray, ?_, waiting, fun up => (nomatch up), fun _ => ?_⟩
    · simpa using counted
    · exact iff_of_true free (by simpa using none)
  | stalled running stays =>
    have ran : abandons s (.shutdown acceptReturns : Event D) = false := by
      simp [abandons, held, running]
    have waits : stalls s (.shutdown acceptReturns : Event D) = true := by
      simp [stalls, initialized, returned, held, running, stays]
    rw [ran, waits, closing]
    refine ⟨accounted.noStray, ?_, ?_, fun _ none => (nomatch none), fun down => (nomatch initialized.symm.trans down)⟩
    · simpa using counted
    · exact iff_of_true rfl (Nat.succ_pos _)

theorem Accounted.call (accounted : s.Accounted vain abandoned stalled) (sound : s.Sound build)
    (returned : s.blocked = false) {event : Event D}
    (possible : ∀ path given, event = .initializeCoordinator path given → s.initialized = false →
      given.answers.Possible s.sockets) :
    (s.call build event).Accounted (vain + if opensInVain build s event then 1 else 0)
      (abandoned + if abandons s event then 1 else 0) (stalled + if stalls s event then 1 else 0) := by
  cases initialized : s.initialized with
  | false =>
    cases event with
    | initializeCoordinator path given =>
      exact accounted.initializeCoordinator sound initialized (possible path given rfl initialized)
    | run answers executed =>
      show (s.run answers executed).Accounted vain abandoned stalled
      unfold run
      rw [if_neg (by simp [initialized])]
      exact accounted
    | shutdown acceptReturns =>
      have quiet : abandons s (.shutdown acceptReturns : Event D) = false := by
        simp [abandons, initialized]
      have quick : stalls s (.shutdown acceptReturns : Event D) = false := by
        simp [stalls, initialized]
      rw [quiet, quick]
      show (s.shutdown acceptReturns).Accounted vain abandoned stalled
      unfold CoordinatorState.shutdown
      rw [if_neg (by simp [initialized])]
      exact accounted
  | true =>
    cases event with
    | initializeCoordinator path given =>
      have quiet : opensInVain build s (.initializeCoordinator path given) = false := by
        simp [opensInVain, initialized]
      rw [quiet]
      show (s.initializeCoordinator build path given).2.Accounted vain abandoned stalled
      unfold CoordinatorState.initializeCoordinator
      rw [if_pos initialized]
      exact accounted
    | run answers executed =>
      obtain ⟨comm, fd, others, held, ready, listens, rest⟩ := accounted.up initialized returned
      show (s.run answers executed).Accounted vain abandoned stalled
      rw [run_eq initialized held ready]
      exact ⟨accounted.noStray, accounted.count, accounted.blocked, fun _ _ => ⟨_, fd, others, rfl, ready, listens, rest⟩,
        fun down => (nomatch initialized.symm.trans down)⟩
    | shutdown acceptReturns => exact accounted.shutdown initialized returned acceptReturns

/-- Behind a call that does not return nothing is counted. -/
theorem Accounted.perform (accounted : s.Accounted vain abandoned stalled) (sound : s.Sound build) {event : Event D}
    (possible : ∀ path given, event = .initializeCoordinator path given → s.initialized = false →
      given.answers.Possible s.sockets) :
    (s.perform build event).Accounted (vain + if opensInVain build s event then 1 else 0)
      (abandoned + if abandons s event then 1 else 0) (stalled + if stalls s event then 1 else 0) := by
  unfold CoordinatorState.perform
  cases returned : s.blocked with
  | false => exact accounted.call sound returned possible
  | true =>
    have busy : s.initialized = true := by
      by_contra idle
      cases returned.symm.trans (sound.down (Bool.eq_false_iff.2 idle)).returned
    have none : opensInVain build s event = false ∧ abandons s event = false ∧ stalls s event = false := by
      cases event <;> simp [opensInVain, abandons, stalls, returned, busy]
    rw [none.1, none.2.1, none.2.2]
    exact accounted

/-! ## All calls -/

theorem Accounted.foldl (accounted : s.Accounted vain abandoned stalled) (sound : s.Sound build)
    {events : List (Event D)} (possible : AllPossible build s events) :
    (events.foldl (CoordinatorState.perform build) s).Accounted (vain + countCalls build (opensInVain build) s events)
      (abandoned + countCalls build abandons s events) (stalled + countCalls build stalls s events) := by
  induction events generalizing s vain abandoned stalled with
  | nil => exact accounted
  | cons event rest ih =>
    have later := ih (accounted.perform sound possible.1) (perform_sound sound event) possible.2
    unfold countCalls
    rw [← Nat.add_assoc, ← Nat.add_assoc, ← Nat.add_assoc]
    exact later

/-- Behind a run the shutdown waits for `accept`. -/
example : (CoordinatorState.perform sampleBuild (CoordinatorState.perform sampleBuild secondStart.2
    (.run { socketFd := none, bound := false, listening := false } fun _ vm => vm)) (.shutdown false)).blocked = true := by
  decide +kernel

/-! ## A shutdown without a run -/

end Actuator.Coordinator.CoordinatorState
