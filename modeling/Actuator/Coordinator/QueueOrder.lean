import Actuator.Coordinator.QueueRuns
import Actuator.Lib.Events

/-!
# The order inside one priority

Among the messages of one priority the queue gives out one with the least stamp,
a reading of the wall clock in milliseconds. As long as each message is stamped
later than those of its priority that still wait, they come out in the order in
which they went in (`popped_in_order`).
-/

namespace Actuator.Coordinator

open Actuator.Lib

namespace QueueRun

/-- The messages of a priority. -/
def ofPriority (priority : Priority) (messages : List Message) : List Message :=
  messages.filter fun message => message.header.priority = priority

/-- The entries of a priority, in the order in which they were pushed. -/
def waiting (run : QueueRun) (priority : Priority) : List PriorityMessage :=
  run.queue.queue.filter fun pm => pm.message.header.priority = priority

/-- A message that is accepted gets a later stamp than those of its priority that wait. -/
def stampsLater : QueueOperation → QueueRun → Bool
  | .push now message, run =>
    run.queue.maxSize ≤ run.queue.queue.length ||
      (run.waiting message.header.priority).all fun pm => pm.timestamp < now
  | .pop _, _ => true

/-- What was accepted and not given out waits, the older entries in front. -/
structure Ordered (run : QueueRun) : Prop where
  accepted : ∀ priority, ofPriority priority run.accepted =
    ofPriority priority run.popped ++ (run.waiting priority).map PriorityMessage.message
  sorted : ∀ priority, (run.waiting priority).Pairwise fun older newer => older.timestamp < newer.timestamp
  /-- The priority that the queue sorts by is the one in the header. -/
  stamped : ∀ pm ∈ run.queue.queue, pm.priority = pm.message.header.priority.raw.toNat

/-! ## What a step keeps -/

theorem ordered_empty (capacity : Nat) : Ordered { queue := { maxSize := capacity } } :=
  ⟨fun _ => rfl, fun _ => List.Pairwise.nil, fun _ mem => nomatch mem⟩

/-- The last element of a list is kept if it has the property. -/
theorem filter_concat {α : Type} (P : α → Prop) [DecidablePred P] (l : List α) (a : α) :
    (l ++ [a]).filter (fun b => P b) = l.filter (fun b => P b) ++ if P a then [a] else [] := by
  rw [List.filter_append, List.filter_singleton]
  by_cases holds : P a
  · rw [if_pos holds, decide_eq_true holds]
    rfl
  · rw [if_neg holds, decide_eq_false holds]
    rfl

theorem ofPriority_concat (priority : Priority) (messages : List Message) (message : Message) :
    ofPriority priority (messages ++ [message]) =
      ofPriority priority messages ++ if message.header.priority = priority then [message] else [] :=
  filter_concat (fun message : Message => message.header.priority = priority) messages message

theorem Ordered.push {run : QueueRun} (ordered : run.Ordered) {now : UInt64} {message : Message}
    (later : stampsLater (.push now message) run = true) : (run.perform (.push now message)).Ordered := by
  rcases pushed : run.queue.push now message with ⟨accepted, queue⟩
  rcases MessageQueue.push_eq pushed with refused | entered
  · obtain ⟨rfl, rfl⟩ := refused
    simp only [QueueRun.perform, pushed]
    exact ⟨ordered.accepted, ordered.sorted, ordered.stamped⟩
  · obtain ⟨rfl, room, rfl⟩ := entered
    let entry : PriorityMessage := { message, priority := message.header.priority.raw.toNat, timestamp := now }
    have newest : ∀ pm ∈ run.waiting message.header.priority, pm.timestamp < now := by
      unfold stampsLater at later
      rw [Bool.or_eq_true] at later
      rcases later with full | all
      · exact absurd (of_decide_eq_true full) (not_le.2 room)
      · intro pm mem
        exact of_decide_eq_true (List.all_eq_true.1 all pm mem)
    simp only [QueueRun.perform, pushed]
    have waits : ∀ priority, QueueRun.waiting { run with
        queue := { run.queue with queue := run.queue.queue ++ [entry] }, accepted := run.accepted ++ [message] } priority =
        run.waiting priority ++ if message.header.priority = priority then [entry] else [] := fun priority =>
      filter_concat (fun pm : PriorityMessage => pm.message.header.priority = priority) run.queue.queue entry
    refine ⟨fun priority => ?_, fun priority => ?_, fun pm mem => ?_⟩
    · rw [waits, List.map_append, ← List.append_assoc, ← ordered.accepted, ofPriority_concat]
      by_cases own : message.header.priority = priority
      · rw [if_pos own, if_pos own]
        rfl
      · rw [if_neg own, if_neg own]
        rfl
    · rw [waits]
      by_cases own : message.header.priority = priority
      · rw [if_pos own]
        refine List.pairwise_append.2 ⟨ordered.sorted priority, List.pairwise_singleton _ _, fun pm mem last only => ?_⟩
        rw [List.mem_singleton.1 only]
        exact newest pm (own ▸ mem)
      · rw [if_neg own, List.append_nil]
        exact ordered.sorted priority
    · rcases List.mem_append.1 mem with old | new
      · exact ordered.stamped pm old
      · rw [List.mem_singleton.1 new]

/-- An entry with the least stamp of its priority is the first that waits. -/
theorem waiting_eq_cons {run : QueueRun} (ordered : run.Ordered) {pm : PriorityMessage} (mem : pm ∈ run.queue.queue)
    (least : ∀ other ∈ run.queue.queue, pm.rank ≤ other.rank) :
    run.waiting pm.message.header.priority = pm :: (run.waiting pm.message.header.priority).erase pm := by
  have sorted := ordered.sorted pm.message.header.priority
  have inside : pm ∈ run.waiting pm.message.header.priority := List.mem_filter.2 ⟨mem, by simp⟩
  cases entries : run.waiting pm.message.header.priority with
  | nil =>
    rw [entries] at inside
    cases inside
  | cons first rest =>
    rw [entries] at sorted inside
    rcases List.mem_cons.1 inside with rfl | behind
    · rw [List.erase_cons_head]
    · have among : first ∈ run.waiting pm.message.header.priority := by
        rw [entries]
        exact List.mem_cons_self
      obtain ⟨queued, same⟩ := List.mem_filter.1 among
      have priority : first.priority = pm.priority := by
        rw [ordered.stamped first queued, ordered.stamped pm mem, of_decide_eq_true same]
      have oldest := ((PriorityMessage.rank_le_iff pm first).1 (least first queued)).2 priority
      have newer := (List.pairwise_cons.1 sorted).1 pm behind
      exact absurd newer (UInt64.not_lt.2 oldest)

theorem Ordered.pop {run : QueueRun} (ordered : run.Ordered) (choice : Nat) : (run.perform (.pop choice)).Ordered := by
  rcases popped : run.queue.pop choice with _ | ⟨message, queue⟩
  · simp only [QueueRun.perform, popped]
    exact ordered
  · obtain ⟨pm, mem, rfl, rfl, least⟩ := MessageQueue.pop_eq_some popped
    simp only [QueueRun.perform, popped]
    have first := waiting_eq_cons ordered mem least
    have waits : ∀ priority, QueueRun.waiting { run with
        queue := { run.queue with queue := run.queue.queue.erase pm }, popped := run.popped ++ [pm.message] } priority =
        (run.waiting priority).erase pm := fun priority => List.erase_filter.symm
    refine ⟨fun priority => ?_, fun priority => ?_, fun other inside => ?_⟩
    · rw [waits, ofPriority_concat, ordered.accepted]
      by_cases own : pm.message.header.priority = priority
      · subst own
        rw [if_pos rfl, List.append_assoc]
        refine congrArg (ofPriority _ run.popped ++ ·) ?_
        conv => lhs; rw [first]
        rfl
      · have absent : pm ∉ run.waiting priority := fun inside => own (of_decide_eq_true (List.mem_filter.1 inside).2)
        rw [if_neg own, List.append_nil, List.erase_of_not_mem absent]
    · rw [waits]
      exact (ordered.sorted priority).sublist List.erase_sublist
    · exact ordered.stamped other (List.mem_of_mem_erase inside)

/-! ## Runs -/

/-- The runs in which each push finds its stamp later. -/
abbrev ReachesLater (run run' : QueueRun) : Prop :=
  Events.Reaches (fun operation run => some (run.perform operation)) (fun operation run => stampsLater operation run = true)
    run run'

/-- In every state that a queue reaches while each message is stamped later than those of its priority that wait, what was
given out of a priority is what was accepted of it first, in the same order. -/
theorem popped_in_order {capacity : Nat} {run : QueueRun} (reaches : ReachesLater { queue := { maxSize := capacity } } run)
    (priority : Priority) : ofPriority priority run.popped <+: ofPriority priority run.accepted := by
  have ordered : run.Ordered := by
    refine reaches.keeps (fun operation before after held later performed => ?_) (ordered_empty capacity)
    cases performed
    cases operation with
    | push now message => exact held.push later
    | pop choice => exact held.pop choice
  rw [ordered.accepted]
  exact List.prefix_append _ _

/-! ## Equal stamps, and a clock that steps back -/

/-- A message of the usual priority. -/
def numbered (n : UInt8) : Message where
  header := { priority := .normal }
  payload := [n]

/-- What becomes of an empty queue of the usual capacity. -/
def behind (operations : List QueueOperation) : QueueRun := operations.foldl perform { queue := { maxSize := 1000 } }

theorem popped_in_order_sample :
    let run := behind [.push 5 (numbered 1), .push 6 (numbered 2), .pop 0]
    ofPriority .normal run.popped <+: ofPriority .normal run.accepted := by
  intro run
  have ran : Events.run (fun operation run => some (QueueRun.perform run operation)) stampsLater
      { queue := { maxSize := 1000 } } [.push 5 (numbered 1), .push 6 (numbered 2), .pop 0] = some run := rfl
  exact popped_in_order (Events.reaches_of_run (fun _ _ later => later) ran) .normal

/-- Four messages within one millisecond. -/
def burst : List QueueOperation :=
  [.push 5 (numbered 1), .push 5 (numbered 2), .push 5 (numbered 3), .push 5 (numbered 4)]

/-- Once the first message of the burst is taken out, a heap may have the third at its top. And of two messages between
which the clock steps back, the second is the only top. -/
theorem popped_out_of_order :
    ofPriority .normal (behind (burst ++ [.pop 0, .pop 1])).accepted = [1, 2, 3, 4].map numbered ∧
      ofPriority .normal (behind (burst ++ [.pop 0, .pop 1])).popped = [1, 3].map numbered ∧
      ¬ [1, 3].map numbered <+: [1, 2, 3, 4].map numbered ∧
      ∀ choice, ofPriority .normal (behind [.push 5 (numbered 1), .push 4 (numbered 2), .pop choice]).popped =
        [numbered 2] := by
  refine ⟨by decide, by decide, by decide, fun choice => ?_⟩
  let run := behind [.push 5 (numbered 1), .push 4 (numbered 2)]
  let older : PriorityMessage := { message := numbered 2, priority := 3, timestamp := 4 }
  have tops : run.queue.tops = [older] := by decide
  have popped : run.queue.pop choice = some (numbered 2, { run.queue with queue := run.queue.queue.erase older }) := by
    unfold MessageQueue.pop
    rw [tops, List.length_singleton, Nat.mod_one]
    rfl
  show ofPriority .normal (run.perform (.pop choice)).popped = _
  simp only [QueueRun.perform, popped]
  decide

end QueueRun

end Actuator.Coordinator
