import Mathlib.Data.Finset.Max
import Mathlib.Data.Multiset.AddSub
import Mathlib.Data.Prod.Lex
import Actuator.Coordinator.InterSatComm

/-!
# Runs of the message queue

`operator<` turns the order of the priority numbers round, and the heap turns
it round again. Both keys together are a rank in a linear order, an entry is a
top of the heap when its rank is the least (`mem_tops`), and a nonempty queue
has one. The rest is bookkeeping: over any pushes and pops no message is lost
or doubled (`run_queue`).
-/

namespace Actuator.Coordinator

open Actuator.Lib

/-! ## The order of the entries -/

namespace PriorityMessage

/-- The two keys of an entry, the most urgent entry first. -/
def rank (pm : PriorityMessage) : Nat ×ₗ Nat := toLex (pm.priority, pm.timestamp.toNat)

theorem lt_iff_rank (a b : PriorityMessage) : a.lt b = true ↔ b.rank < a.rank := by
  unfold lt rank
  rw [Prod.Lex.toLex_lt_toLex]
  by_cases same : a.priority = b.priority
  · rw [if_neg (not_not.2 same), same]
    simp [UInt64.lt_iff_toNat_lt]
  · rw [if_pos same]
    simp [Ne.symm same]

/-- `operator<` is a strict weak order. -/
theorem lt_strictWeak :
    (∀ a : PriorityMessage, a.lt a = false) ∧
      (∀ a b c : PriorityMessage, a.lt b = true → b.lt c = true → a.lt c = true) ∧
      ∀ a b c : PriorityMessage, a.lt b = false → b.lt c = false → a.lt c = false := by
  simp only [← Bool.not_eq_true, lt_iff_rank, not_lt]
  refine ⟨fun a => le_refl a.rank, fun a b c ab bc => lt_trans bc ab, fun a b c ab bc => le_trans ab bc⟩

theorem rank_le_iff (a b : PriorityMessage) :
    a.rank ≤ b.rank ↔ a.priority ≤ b.priority ∧ (b.priority = a.priority → a.timestamp ≤ b.timestamp) := by
  unfold rank
  rw [Prod.Lex.toLex_le_toLex, UInt64.le_iff_toNat_le]
  dsimp only
  omega

end PriorityMessage

namespace MessageQueue

theorem mem_tops {q : MessageQueue} {pm : PriorityMessage} :
    pm ∈ q.tops ↔ pm ∈ q.queue ∧ ∀ other ∈ q.queue, pm.rank ≤ other.rank := by
  have ahead : ∀ other : PriorityMessage, (!pm.lt other) = true ↔ pm.rank ≤ other.rank := by
    intro other
    rw [Bool.not_eq_true', ← Bool.not_eq_true, PriorityMessage.lt_iff_rank, not_lt]
  unfold tops
  simp only [List.mem_filter, List.all_eq_true, ahead]

theorem tops_ne_nil {q : MessageQueue} (waiting : q.queue ≠ []) : q.tops ≠ [] := by
  have inhabited : q.queue.toFinset.Nonempty := by
    obtain ⟨pm, mem⟩ := List.exists_mem_of_ne_nil _ waiting
    exact ⟨pm, List.mem_toFinset.2 mem⟩
  obtain ⟨pm, mem, least⟩ := Finset.exists_min_image _ PriorityMessage.rank inhabited
  exact List.ne_nil_of_mem (mem_tops.2 ⟨List.mem_toFinset.1 mem, fun other inside =>
    least other (List.mem_toFinset.2 inside)⟩)

/-! ## What an operation does -/

theorem push_false_iff {q : MessageQueue} (now : UInt64) (message : Message) :
    (q.push now message).1 = false ↔ q.maxSize ≤ q.queue.length := by
  unfold push
  by_cases full : q.queue.length ≥ q.maxSize
  · rw [if_pos full]
    exact iff_of_true rfl full
  · rw [if_neg full]
    exact iff_of_false Bool.true_eq_false.mp full

theorem push_eq {q q' : MessageQueue} {now : UInt64} {message : Message} {accepted : Bool}
    (pushed : q.push now message = (accepted, q')) :
    accepted = false ∧ q' = q ∨
      accepted = true ∧ q.queue.length < q.maxSize ∧ q' = { q with queue := q.queue ++
        [{ message, priority := message.header.priority.raw.toNat, timestamp := now }] } := by
  unfold push at pushed
  split at pushed
  · cases pushed
    exact .inl ⟨rfl, rfl⟩
  · rename_i room
    cases pushed
    exact .inr ⟨rfl, not_le.1 room, rfl⟩

/-- A pop takes an entry of least rank out. -/
theorem pop_eq_some {q q' : MessageQueue} {choice : Nat} {message : Message}
    (popped : q.pop choice = some (message, q')) :
    ∃ pm ∈ q.queue, pm.message = message ∧ q' = { q with queue := q.queue.erase pm } ∧
      ∀ other ∈ q.queue, pm.rank ≤ other.rank := by
  obtain ⟨pm, chosen, same⟩ := Option.map_eq_some_iff.1 popped
  cases same
  obtain ⟨mem, least⟩ := mem_tops.1 (List.mem_of_getElem? chosen)
  exact ⟨pm, mem, rfl, rfl, least⟩

theorem pop_eq_none_iff {q : MessageQueue} (choice : Nat) : q.pop choice = none ↔ q.queue = [] := by
  constructor
  · intro empty
    by_contra waiting
    have some : choice % q.tops.length < q.tops.length :=
      Nat.mod_lt _ (List.length_pos_iff.2 (tops_ne_nil waiting))
    unfold pop at empty
    rw [List.getElem?_eq_getElem some] at empty
    cases empty
  · intro empty
    simp [pop, tops, empty]

end MessageQueue

/-! ## Runs -/

/-- A `push` with its clock reading, or a `pop` with the choice among equal tops. -/
inductive QueueOperation where
  | push (now : UInt64) (message : Message)
  | pop (choice : Nat)

/-- A queue, with the messages that it accepted and gave out. -/
structure QueueRun where
  queue : MessageQueue
  accepted : List Message := []
  popped : List Message := []

namespace QueueRun

def perform (run : QueueRun) : QueueOperation → QueueRun
  | .push now message =>
    match run.queue.push now message with
    | (true, queue) => { run with queue, accepted := run.accepted ++ [message] }
    | (false, queue) => { run with queue }
  | .pop choice =>
    match run.queue.pop choice with
    | some (message, queue) => { run with queue, popped := run.popped ++ [message] }
    | none => run

def queued (run : QueueRun) : List Message := run.queue.queue.map PriorityMessage.message

structure Sound (capacity : Nat) (run : QueueRun) : Prop where
  limit : run.queue.maxSize = capacity
  bounded : run.queue.queue.length ≤ capacity
  /-- The priority that the queue sorts by is the one in the header. -/
  stamped : ∀ pm ∈ run.queue.queue, pm.priority = pm.message.header.priority.raw.toNat
  balanced : (run.accepted : Multiset Message) = run.popped + run.queued

theorem Sound.perform {capacity : Nat} {run : QueueRun} (sound : run.Sound capacity) (operation : QueueOperation) :
    (run.perform operation).Sound capacity := by
  cases operation with
  | push now message =>
    rcases pushed : run.queue.push now message with ⟨accepted, queue⟩
    rcases MessageQueue.push_eq pushed with refused | entered
    · obtain ⟨rfl, rfl⟩ := refused
      simp only [QueueRun.perform, pushed]
      exact ⟨sound.limit, sound.bounded, sound.stamped, sound.balanced⟩
    · obtain ⟨rfl, room, rfl⟩ := entered
      simp only [QueueRun.perform, pushed]
      refine ⟨sound.limit, ?_, fun pm mem => ?_, ?_⟩
      · have limit := sound.limit
        simp only [List.length_append, List.length_singleton]
        omega
      · rcases List.mem_append.1 mem with old | new
        · exact sound.stamped pm old
        · rw [List.mem_singleton.1 new]
      · have balanced := sound.balanced
        simp only [queued, Multiset.coe_add, Multiset.coe_eq_coe] at balanced ⊢
        rw [List.map_append, ← List.append_assoc]
        exact balanced.append_right _
  | pop choice =>
    rcases popped : run.queue.pop choice with _ | ⟨message, queue⟩
    · simp only [QueueRun.perform, popped]
      exact sound
    · obtain ⟨pm, mem, rfl, rfl, _⟩ := MessageQueue.pop_eq_some popped
      simp only [QueueRun.perform, popped]
      refine ⟨sound.limit, (List.length_erase_le ..).trans sound.bounded,
        fun other inside => sound.stamped other (List.mem_of_mem_erase inside), ?_⟩
      have balanced := sound.balanced
      simp only [queued, Multiset.coe_add, Multiset.coe_eq_coe] at balanced ⊢
      have taken : (run.queue.queue.map PriorityMessage.message).Perm
          ([pm.message] ++ (run.queue.queue.erase pm).map PriorityMessage.message) :=
        (List.perm_cons_erase mem).map PriorityMessage.message
      rw [List.append_assoc]
      exact balanced.trans (taken.append_left _)

theorem foldl_perform_sound {capacity : Nat} {run : QueueRun} (sound : run.Sound capacity)
    (operations : List QueueOperation) : (operations.foldl perform run).Sound capacity := by
  induction operations generalizing run with
  | nil => exact sound
  | cons operation rest ih => exact ih (sound.perform operation)

theorem sound_empty (capacity : Nat) : Sound capacity { queue := { maxSize := capacity } } :=
  ⟨rfl, Nat.zero_le _, fun _ mem => (nomatch mem), rfl⟩

/-- After any operations on a queue of the capacity: it holds at most that many entries, refuses a message exactly when
it is full, holds or gave out each accepted message once, and gives out the most urgent and then the oldest. -/
theorem run_queue (capacity : Nat) (operations : List QueueOperation) :
    let run := operations.foldl perform { queue := { maxSize := capacity } }
    run.queue.queue.length ≤ capacity ∧
    (∀ now message, ((run.queue.push now message).1 = false ↔ run.queue.queue.length = capacity) ∧
      ((run.queue.push now message).1 = false → (run.queue.push now message).2 = run.queue)) ∧
    (run.accepted : Multiset Message) = run.popped + run.queued ∧
    (∀ choice, run.queue.pop choice = none ↔ run.queue.queue = []) ∧
    ∀ choice message queue, run.queue.pop choice = some (message, queue) →
      ∃ pm ∈ run.queue.queue, pm.message = message ∧ queue.queue = run.queue.queue.erase pm ∧
        ∀ other ∈ run.queue.queue,
          message.header.priority.raw ≤ other.message.header.priority.raw ∧
          (other.message.header.priority = message.header.priority → pm.timestamp ≤ other.timestamp) := by
  intro run
  have sound : run.Sound capacity := foldl_perform_sound (sound_empty capacity) operations
  refine ⟨sound.bounded, fun now message => ⟨?_, fun refused => ?_⟩, sound.balanced,
    fun choice => MessageQueue.pop_eq_none_iff choice, fun choice message queue popped => ?_⟩
  · have bounded := sound.bounded
    rw [MessageQueue.push_false_iff, sound.limit]
    omega
  · rcases MessageQueue.push_eq (rfl : run.queue.push now message = _) with same | entered
    · exact same.2
    · exact absurd (refused.symm.trans entered.1) Bool.false_ne_true
  · obtain ⟨pm, mem, rfl, rfl, least⟩ := MessageQueue.pop_eq_some popped
    refine ⟨pm, mem, rfl, rfl, fun other inside => ?_⟩
    obtain ⟨urgent, oldest⟩ := (PriorityMessage.rank_le_iff pm other).1 (least other inside)
    rw [sound.stamped pm mem, sound.stamped other inside] at urgent oldest
    exact ⟨UInt8.le_iff_toNat_le.2 urgent, fun same => oldest (by rw [same])⟩

end QueueRun

end Actuator.Coordinator
