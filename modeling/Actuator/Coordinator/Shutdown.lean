import Actuator.Coordinator.Lifecycle

/-!
# Shutdown under running handlers

`shutdown` unregisters the handlers and resets what the simulators use, without
waiting for the detached threads. As long as each of these steps finds no thread
that is still to start, or is inside, the handler concerned, no handler starts
late and none finds its `comm_` gone (`shutdown_spares_handlers`). A thread in
`sendMessage` that has found a handler is still to start it.
-/

namespace Actuator.Coordinator

open Actuator.Lib Actuator.Core Actuator.Parser Actuator.Executor

variable {D : Type}

/-- A handler is unregistered only when no thread has found it and is about to start it, in `sendMessage` or detached, and
a simulator's `comm_` is reset only when no thread is inside its handler. -/
def waitsForHandlers : LifeAction D → LifeThread D Unit → Bool
  | .unregisterLocalHandler id, .act (.detach _ found) _ => found.id ≠ id
  | .unregisterLocalHandler id, .act (.enter other _ _) _ => other ≠ id
  | .resetComm satId, .act (.of owner _) _ => owner.handler ≠ some (.satellite satId)
  | .resetComm satId, .act (.detach owner _) _ => owner.handler ≠ some (.satellite satId)
  | _, _ => true

/-- If the thread sends next, its `comm_` is set, and if it starts a handler next, the handler is not unregistered. -/
structure Spared (s : Life) (thread : LifeThread D Unit) : Prop where
  sends : ∀ owner dest message next, thread = .act (.of owner (.sendMessage dest message)) next → s.CommSet owner
  starts : ∀ id owner message next, thread = .act (.enter id owner message) next → id ∉ s.unregistered

/-! ## What the threads rely on -/

section Reliance

variable (setting : Setting D)

/-- The rest of the thread that calls `run` and `shutdown`, when it has just found this handler and these ids were
unregistered: a `comm_` is only reset behind all unregistrations. -/
def Orderly : Option Found → List Str → LifeThread D Unit → Prop
  | _, _, .done _ => True
  | _, gone, .act (.of owner _) next => owner.handler = none ∧ ∀ r, Orderly r.2 gone (next r)
  | found, gone, .act (.detach _ f) next => found = some f ∧ ∀ r, Orderly none gone (next r)
  | _, _, .act (.enter _ _ _) _ => False
  | _, gone, .act (.unregisterLocalHandler id) next => ∀ r, Orderly none (gone ++ [id]) (next r)
  | _, gone, .act .stop next => ∀ r, Orderly none gone (next r)
  | _, gone, .act (.resetExecutor _) next => ∀ r, Orderly none gone (next r)
  | _, gone, .act (.resetComm _) next =>
    (∀ id ∈ handledIds setting, id ∈ gone) ∧ ∀ r, Orderly none gone (next r)

variable {setting}

theorem Orderly.mono {found : Option Found} {gone more : List Str} {thread : LifeThread D Unit}
    (orderly : Orderly setting found gone thread) (among : ∀ id ∈ gone, id ∈ more) :
    Orderly setting found more thread := by
  induction thread generalizing found gone more with
  | done => trivial
  | act action next ih =>
    cases action with
    | of owner action => exact ⟨orderly.1, fun r => ih r (orderly.2 r) among⟩
    | detach owner f => exact ⟨orderly.1, fun r => ih r (orderly.2 r) among⟩
    | enter => exact orderly
    | unregisterLocalHandler id =>
      refine fun r => ih r (orderly r) fun other mem => ?_
      rcases List.mem_append.1 mem with before | last
      · exact List.mem_append_left _ (among other before)
      · exact List.mem_append_right _ last
    | stop => exact fun r => ih r (orderly r) among
    | resetExecutor => exact fun r => ih r (orderly r) among
    | resetComm =>
      exact ⟨fun id mem => among id (orderly.1 id mem), fun r => ih r (orderly.2 r) among⟩

/-- A thread that detaches nothing at once may have found anything. -/
theorem orderly_starting {owner : Owner} {found : Option Found} {gone : List Str} {rest : LifeThread D Unit}
    (orderly : ∀ found, Orderly setting found gone rest) : Orderly setting found gone (starting owner found rest) := by
  cases found with
  | none => exact orderly none
  | some f => exact ⟨rfl, fun _ => orderly none⟩

theorem orderly_owned {α : Type} {gone : List Str} {owner : Owner} (main : owner.handler = none) (x : Thread D α)
    {k : α → LifeThread D Unit} (rest : ∀ found a, Orderly setting found gone (k a)) (found : Option Found) :
    Orderly setting found gone (owned owner x >>= k) := by
  induction x generalizing found with
  | done a => exact rest found a
  | act action next ih =>
    rw [owned_act_bind]
    exact ⟨main, fun r => orderly_starting (ih r.1)⟩

theorem orderly_unregisterAll {gone ids : List Str} {k : Unit → LifeThread D Unit}
    (rest : ∀ found, Orderly setting found (gone ++ ids) (k ())) (found : Option Found) :
    Orderly setting found gone (unregisterAll ids >>= k) := by
  induction ids generalizing gone found with
  | nil =>
    rw [List.append_nil] at rest
    exact rest found
  | cons id ids ih =>
    intro r
    refine ih (fun found => ?_) none
    rw [List.append_assoc]
    exact rest found

theorem orderly_shutdownAll {gone : List Str} (all : ∀ id ∈ handledIds setting, id ∈ gone) (satIds : List Str)
    (found : Option Found) : Orderly setting found gone (shutdownAll satIds) := by
  induction satIds generalizing found with
  | nil => trivial
  | cons satId satIds ih =>
    intro _
    exact ⟨all, fun _ => ih none⟩

theorem orderly_runsThenShutdown [CxxDouble D] (n run : Nat) (found : Option Found) :
    Orderly setting found [] (runsThenShutdown setting n run) := by
  induction n generalizing run found with
  | zero =>
    refine orderly_unregisterAll (fun _ => ?_) found
    exact fun _ => orderly_shutdownAll (fun _ => id) _ none
  | succ n ih => exact orderly_owned rfl _ (fun found _ => ih (run + 1) found) found

variable (setting) [CxxDouble D]

/-- The handler with this id was registered, and is not unregistered. -/
structure Live (s : Life) (id : Str) : Prop where
  stays : id ∉ s.unregistered
  known : id ∈ handledIds setting

/-- What a thread relies on in this state. -/
inductive Relies (s : Life) (thread : LifeThread D Unit) : Prop
  /-- Inside a handler, as long as there is something to do, at times before the start of another. -/
  | inside (owner : Owner) (found : Option Found) (rest : Thread D Unit)
    (is : thread = starting owner found (owned owner rest)) (live : ∀ f ∈ found, Live setting s f.id)
    (comm : ∀ action next, rest = .act action next → s.CommSet owner)
  /-- Before the start of a handler. -/
  | before (run : Nat) (found : Found) (is : thread = detached setting run found) (live : Live setting s found.id)
  | main (found : Option Found) (orderly : Orderly setting found s.unregistered thread)
    (live : ∀ owner f next, thread = .act (.detach owner f) next → Live setting s f.id)

structure Closing (s : Life) : Prop where
  handlers : ∀ id handler, s.shared.comm.localHandlers.find? id = some handler → Live setting s id
  order : ∀ satId ∈ s.withoutComm, ∀ id ∈ handledIds setting, id ∈ s.unregistered

variable {setting}

omit [CxxDouble D] in
theorem Live.frame {s s' : Life} {id : Str} (live : Live setting s id) (same : s'.unregistered = s.unregistered) :
    Live setting s' id := ⟨same ▸ live.stays, live.known⟩

theorem Relies.spared {s : Life} {thread : LifeThread D Unit} (relies : Relies setting s thread) : Spared s thread := by
  refine ⟨fun owner dest message next is => ?_, fun id owner message next is => ?_⟩
  · subst is
    cases relies with
    | inside own found rest same live comm =>
      cases found with
      | some f => cases same
      | none =>
        cases rest with
        | done => cases same
        | act action next =>
          cases same
          exact comm _ _ rfl
    | before run found same => cases same
    | main found orderly =>
      intro satId inside
      rw [orderly.1] at inside
      cases inside
  · subst is
    cases relies with
    | inside own found rest same live comm =>
      cases found with
      | some f => cases same
      | none => cases rest <;> cases same
    | before run found same live =>
      cases same
      exact live.stays
    | main found orderly => exact orderly.elim

/-- A step of an owner keeps the order, and what it has found is live. -/
theorem Closing.ownerStep {s s' : Life} {owner : Owner} {action : Action D} {r : action.Response}
    {found : Option Found} (closing : Closing setting s) (acts : ownerPerforms setting owner action s r s' found) :
    Closing setting s' ∧ ∀ f ∈ found, Live setting s' f.id := by
  have frame := ownerPerforms_frame acts
  refine ⟨⟨fun id handler held => ?_, ?_⟩, fun f mem => ?_⟩
  · rw [frame.handlers] at held
    exact (closing.handlers id handler held).frame frame.unregistered
  · rw [frame.withoutComm, frame.unregistered]
    exact closing.order
  · exact (closing.handlers f.id f.handler ((ownerPerforms_base acts).2 f mem)).frame frame.unregistered

omit [CxxDouble D] in
/-- Only behind a step that has found a handler, the thread that calls `run` and `shutdown` starts one. -/
theorem Orderly.live {s : Life} {found : Option Found} {gone : List Str} {thread : LifeThread D Unit}
    (orderly : Orderly setting found gone thread) (live : ∀ f ∈ found, Live setting s f.id) :
    ∀ owner f next, thread = .act (.detach owner f) next → Live setting s f.id := by
  rintro owner f next rfl
  exact live f orderly.1

/-- A step of the thread that calls `run` and `shutdown`. -/
theorem Orderly.step {s s' : Life} {a : LifeAction D} {next : a.Response → LifeThread D Unit} {r : a.Response}
    {started : List (LifeThread D Unit)} {found : Option Found}
    (orderly : Orderly setting found s.unregistered (.act a next)) (closing : Closing setting s)
    (live : ∀ owner f rest, Program.act a next = .act (.detach owner f) rest → Live setting s f.id)
    (acts : lifePerforms setting a s r s' started) :
    Closing setting s' ∧ Relies setting s' (next r) ∧ ∀ thread ∈ started, Relies setting s' thread := by
  have nothing {s' : Life} {rest : LifeThread D Unit} (orderly : Orderly setting none s'.unregistered rest) :
      Relies setting s' rest := .main none orderly (orderly.live nofun)
  cases a with
  | of owner action =>
    obtain ⟨acts, rfl⟩ := acts
    obtain ⟨closing', found⟩ := closing.ownerStep acts
    have rest := orderly.2 r
    rw [← (ownerPerforms_frame acts).unregistered] at rest
    exact ⟨closing', .main r.2 rest (rest.live found), by simp⟩
  | detach owner f =>
    obtain ⟨rfl, rfl⟩ := acts
    refine ⟨closing, nothing (orderly.2 r), fun thread mem => ?_⟩
    exact .before owner.run f (List.mem_singleton.1 mem) (live owner f next rfl)
  | enter => exact orderly.elim
  | unregisterLocalHandler id =>
    obtain ⟨rfl, rfl⟩ := acts
    refine ⟨⟨fun other handler held => ?_, fun satId gone other known => ?_⟩, nothing (orderly r), by simp⟩
    · change (s.shared.comm.localHandlers.erase id).find? other = some handler at held
      rw [OrdMap.find?_erase] at held
      split at held
      · cases held
      · rename_i different
        have live := closing.handlers other handler held
        exact ⟨by simp [live.stays, different], live.known⟩
    · exact List.mem_append_left _ (closing.order satId gone other known)
  | stop =>
    obtain ⟨rfl, rfl⟩ := acts
    exact ⟨⟨fun other handler found => (nomatch found), closing.order⟩, nothing (orderly r), by simp⟩
  | resetExecutor satId =>
    obtain ⟨rfl, rfl⟩ := acts
    exact ⟨⟨fun id handler held => (closing.handlers id handler held).frame rfl, closing.order⟩, nothing (orderly r),
      by simp⟩
  | resetComm satId =>
    obtain ⟨rfl, rfl⟩ := acts
    refine ⟨⟨fun id handler held => ?_, fun other gone id known => ?_⟩, nothing (orderly.2 r), by simp⟩
    · exact (closing.handlers id handler held).frame rfl
    · rcases List.mem_append.1 gone with earlier | _
      · exact closing.order other earlier id known
      · exact orderly.1 id known

/-- The own steps of a thread. -/
theorem relies_own (_ : Nat) (s : Life) (a : LifeAction D) (next : a.Response → LifeThread D Unit) (r : a.Response)
    (s' : Life) (started : List (LifeThread D Unit)) (closing : Closing setting s) (relies : Relies setting s (.act a next))
    (acts : (lifecycle setting).performs a s r s' started) :
    Closing setting s' ∧ Relies setting s' (next r) ∧ ∀ thread ∈ started, ∀ _ : Nat, Relies setting s' thread := by
  suffices kept : Closing setting s' ∧ Relies setting s' (next r) ∧ ∀ thread ∈ started, Relies setting s' thread from
    ⟨kept.1, kept.2.1, fun thread mem _ => kept.2.2 thread mem⟩
  cases relies with
  | inside owner found rest is live comm =>
    cases found with
    | some f =>
      cases is
      obtain ⟨rfl, rfl⟩ := acts
      refine ⟨closing, .inside owner none rest rfl nofun comm, fun thread mem => ?_⟩
      exact .before owner.run f (List.mem_singleton.1 mem) (live f rfl)
    | none =>
      cases rest with
      | done => cases is
      | act action rest =>
        cases is
        obtain ⟨acts, rfl⟩ := acts
        obtain ⟨closing', found⟩ := closing.ownerStep acts
        refine ⟨closing', .inside owner r.2 (rest r.1) rfl found fun _ _ _ => ?_, by simp⟩
        unfold Life.CommSet
        rw [(ownerPerforms_frame acts).withoutComm]
        exact comm action rest rfl
  | before run found is live =>
    cases is
    obtain ⟨rfl, rfl⟩ := acts
    refine ⟨closing, .inside _ none _ rfl nofun fun _ _ _ satId _ gone => ?_, by simp⟩
    exact live.stays (closing.order satId gone found.id live.known)
  | main found orderly live => exact orderly.step closing live acts

/-- Only the steps of `shutdown` take something away. -/
theorem lifePerforms_gone {a : LifeAction D} {s s' : Life} {r : a.Response} {started : List (LifeThread D Unit)}
    (acts : lifePerforms setting a s r s' started) :
    (∀ id ∈ s.unregistered, id ∈ s'.unregistered) ∧
      (∀ id ∈ s'.unregistered, id ∈ s.unregistered ∨ a = .unregisterLocalHandler id) ∧
      ∀ satId ∈ s'.withoutComm, satId ∈ s.withoutComm ∨ a = .resetComm satId := by
  cases a with
  | of owner action =>
    have frame := ownerPerforms_frame acts.1
    rw [frame.unregistered, frame.withoutComm]
    exact ⟨fun _ => id, fun _ => .inl, fun _ => .inl⟩
  | detach | enter =>
    obtain ⟨rfl, _⟩ := acts
    exact ⟨fun _ => id, fun _ => .inl, fun _ => .inl⟩
  | unregisterLocalHandler id =>
    obtain ⟨_, rfl⟩ := acts
    refine ⟨fun _ => List.mem_append_left _, fun other gone => ?_, fun _ => .inl⟩
    rcases List.mem_append.1 gone with earlier | last
    · exact .inl earlier
    · exact .inr (congrArg _ (List.mem_singleton.1 last).symm)
  | stop =>
    obtain ⟨_, rfl⟩ := acts
    exact ⟨fun _ => id, fun _ => .inl, fun _ => .inl⟩
  | resetExecutor =>
    obtain ⟨_, rfl⟩ := acts
    exact ⟨fun _ => id, fun _ => .inl, fun _ => .inl⟩
  | resetComm satId =>
    obtain ⟨_, rfl⟩ := acts
    refine ⟨fun _ => id, fun _ => .inl, fun other gone => ?_⟩
    rcases List.mem_append.1 gone with earlier | last
    · exact .inl earlier
    · exact .inr (congrArg _ (List.mem_singleton.1 last).symm)

/-- A handler that no step unregisters stays live. -/
theorem Live.kept {a : LifeAction D} {s s' : Life} {r : a.Response} {started : List (LifeThread D Unit)} {id : Str}
    (live : Live setting s id) (acts : lifePerforms setting a s r s' started) (other : a ≠ .unregisterLocalHandler id) :
    Live setting s' id := by
  obtain ⟨_, unregistered, _⟩ := lifePerforms_gone acts
  exact ⟨fun gone => (unregistered id gone).elim live.stays other, live.known⟩

/-- The steps of the other threads. -/
theorem relies_others (n k : Nat) (s : Life) (a : LifeAction D) (next : a.Response → LifeThread D Unit) (r : a.Response)
    (s' : Life) (started : List (LifeThread D Unit)) (thread : LifeThread D Unit) (_ : n ≠ k) (_ : Closing setting s)
    (_ : Relies setting s (.act a next)) (acts : (lifecycle setting).performs a s r s' started)
    (waits : waitsForHandlers a thread = true) (relies : Relies setting s thread) : Relies setting s' thread := by
  obtain ⟨kept, _, withoutComm⟩ := lifePerforms_gone acts
  cases relies with
  | inside owner found rest is live comm =>
    refine .inside owner found rest is (fun f mem => (live f mem).kept acts ?_) fun action next here satId own gone => ?_
    · rintro rfl
      cases mem
      subst is
      exact absurd rfl (of_decide_eq_true waits)
    · rcases withoutComm satId gone with earlier | rfl
      · exact comm action next here satId own earlier
      · subst is here
        cases found <;> exact absurd own (of_decide_eq_true waits)
  | before run found is live =>
    refine .before run found is (live.kept acts ?_)
    rintro rfl
    subst is
    exact absurd rfl (of_decide_eq_true waits)
  | main found orderly live =>
    refine .main found (orderly.mono kept) fun owner f next is => (live owner f next is).kept acts ?_
    rintro rfl
    subst is
    exact absurd rfl (of_decide_eq_true waits)

omit [CxxDouble D] in
/-- Every handler is registered under an id that `shutdown` goes through. -/
theorem registered_handledIds {comm : InterSatComm Handler} (none : comm.localHandlers = OrdMap.empty) {id : Str}
    {handler : Handler} (found : (registerLocalMessageHandlers setting comm).localHandlers.find? id = some handler) :
    id ∈ handledIds setting := by
  rcases (find?_registerLocalMessageHandlers none found).2 with ⟨_, listed⟩ | ⟨_, rfl⟩
  · exact List.mem_cons_of_mem _ listed
  · exact List.mem_cons_self

/-- In every run, however often and however long the coordinator runs before its shutdown, and in whatever order the
threads act: as long as `shutdown` finds no thread about to start a handler that it unregisters, and none inside the
handler of a simulator whose `comm_` it resets, no handler starts behind its unregistration, and none sends through a
`comm_` that was reset. -/
theorem shutdown_spares_handlers {comm : InterSatComm Handler} {n : Nat}
    {pool : Pool (LifeAction D) LifeAction.Response Life}
    (reaches : (lifecycle setting).ReachesWhen (fun a thread => waitsForHandlers a thread = true)
      (lifePool setting comm n) pool) : ∀ thread ∈ pool.threads, Spared pool.shared thread := by
  have initially : Closing setting (lifePool setting comm n).shared ∧
      ∀ (k : Nat) thread, (lifePool setting comm n).threads[k]? = some thread →
        Relies setting (lifePool setting comm n).shared thread := by
    refine ⟨⟨fun id handler found => ⟨List.not_mem_nil, registered_handledIds rfl found⟩, ?_⟩, ?_⟩
    · intro satId gone
      cases gone
    · intro k thread found
      cases List.mem_singleton.1 (List.mem_of_getElem? found)
      have orderly : Orderly setting none [] (runsThenShutdown setting n 1) := orderly_runsThenShutdown n 1 none
      exact .main none orderly (orderly.live nofun)
  have held : Closing setting pool.shared ∧ ∀ (k : Nat) thread, pool.threads[k]? = some thread →
      Relies setting pool.shared thread :=
    reaches.holds relies_own relies_others initially
  intro thread mem
  obtain ⟨k, found⟩ := List.getElem?_of_mem mem
  exact (held.2 k thread found).spared

end Reliance

/-! ## A timeout with a satellite still working -/

/-- The thread of this satellite's handler sends next. -/
def sendsFor (satId : Str) : LifeThread D Unit → Bool
  | .act (.of owner (.sendMessage _ _)) _ => owner.handler = some (.satellite satId)
  | _ => false

/-- The thread starts the handler with this id next. -/
def startsFor (id : Str) : LifeThread D Unit → Bool
  | .act (.enter other _ _) _ => other = id
  | _ => false

theorem Spared.sendsFor {s : Life} {thread : LifeThread D Unit} (spared : Spared s thread) {satId : Str}
    (sends : Coordinator.sendsFor satId thread = true) : satId ∉ s.withoutComm := by
  unfold Coordinator.sendsFor at sends
  split at sends
  · rename_i owner dest message next
    exact spared.sends owner dest message next rfl satId (of_decide_eq_true sends)
  · cases sends

theorem Spared.startsFor {s : Life} {thread : LifeThread D Unit} (spared : Spared s thread) {id : Str}
    (starts : Coordinator.startsFor id thread = true) : id ∉ s.unregistered := by
  unfold Coordinator.startsFor at starts
  split at starts
  · rename_i other owner message next
    cases of_decide_eq_true starts
    exact spared.starts _ owner message next rfl
  · cases starts

/-- S1 acknowledges, S2 has read its batch, the wait times out, and the shutdown gets as far as the simulator of S1. -/
def orderlyTurns : List Nat :=
  List.replicate 7 0 ++ List.replicate 13 1 ++ [3, 4, 5, 5, 2, 2, 2, 2] ++ List.replicate 7 0

def orderlyPool : Option (Pool (LifeAction FixedPoint) LifeAction.Response Life) :=
  Machine.turnsWhen (lifeOutcome lateSetting sampleRound fun _ => true) waitsForHandlers
    (lifePool lateSetting sampleComm 1) orderlyTurns

theorem orderlyPool_ended : orderlyPool.any (fun pool => pool.threads.any (sendsFor (lit "S2")) &&
    pool.shared.withoutComm == [lit "S1"]) = true := by decide +kernel

theorem shutdown_spares_handlers_sample : ∃ pool thread,
    (lifecycle lateSetting).Reaches (lifePool lateSetting sampleComm 1) pool ∧ thread ∈ pool.threads ∧
      sendsFor (lit "S2") thread = true ∧ pool.shared.withoutComm = [lit "S1"] ∧ Spared pool.shared thread := by
  obtain ⟨pool, reached, ended⟩ := (Option.any_eq_true _ _).1 orderlyPool_ended
  rw [Bool.and_eq_true, List.any_eq_true, beq_iff_eq] at ended
  obtain ⟨⟨thread, mem, sends⟩, reset⟩ := ended
  have reaches := Machine.reachesWhen_of_turns (lifeOutcome_sound lateSetting sampleRound _) (fun _ _ => id) reached
  exact ⟨pool, thread, reaches.reaches, mem, sends, reset,
    shutdown_spares_handlers reaches thread mem⟩

/-- S1 has read its batch and S2 has not started when the wait times out and the shutdown goes on. -/
def hastyTurns : List Nat := List.replicate 7 0 ++ [1, 1, 1, 1] ++ List.replicate 7 0

def hastyPool : Option (Pool (LifeAction FixedPoint) LifeAction.Response Life) :=
  Machine.turns (lifeOutcome lateSetting sampleRound fun _ => true) (lifePool lateSetting sampleComm 1) hastyTurns

theorem hastyPool_ended : hastyPool.any (fun pool => pool.threads.any (sendsFor (lit "S1")) &&
    pool.shared.withoutComm.contains (lit "S1") && pool.threads.any (startsFor (lit "S2")) &&
    pool.shared.unregistered.contains (lit "S2")) = true := by decide +kernel

/-- The handler of S1 is about to send through the `comm_` that was reset, and that of S2 to start after it was
unregistered. -/
theorem shutdown_overtakes_handlers : ∃ pool, (lifecycle lateSetting).Reaches (lifePool lateSetting sampleComm 1) pool ∧
    (∃ thread ∈ pool.threads, sendsFor (lit "S1") thread = true ∧ ¬ Spared pool.shared thread) ∧
    ∃ thread ∈ pool.threads, startsFor (lit "S2") thread = true ∧ ¬ Spared pool.shared thread := by
  obtain ⟨pool, reached, ended⟩ := (Option.any_eq_true _ _).1 hastyPool_ended
  simp only [Bool.and_eq_true, List.any_eq_true, List.contains_iff_mem] at ended
  obtain ⟨⟨⟨⟨one, first, sends⟩, reset⟩, two, second, starts⟩, gone⟩ := ended
  refine ⟨pool, Machine.reaches_of_turns (lifeOutcome_sound lateSetting sampleRound _) reached, ⟨one, first, sends, ?_⟩,
    two, second, starts, ?_⟩
  · exact fun spared => spared.sendsFor sends reset
  · exact fun spared => spared.startsFor starts gone

end Actuator.Coordinator
