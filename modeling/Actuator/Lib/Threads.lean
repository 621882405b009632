import Mathlib.Data.List.Forall2
import Mathlib.Logic.Relation

/-!
# Threads on a shared state

A thread is a program that performs one action after the other on a state it
shares with other threads, and goes on with what each action returned. An
action is atomic and may start threads; which thread acts next is open.

The proof rule is a simulation by roles. Every thread plays a role, `Follows`
says that its actions are steps its role may take, and an invariant over the
state and the roles that these steps keep holds in every pool that is reached
(`reaches_inv`). Where steps are only taken while the other threads allow them,
it is enough that each thread's own assumption is kept (`ReachesWhen.holds`).
-/

namespace Actuator.Lib

/-- A program over actions `A`, where `a` returns an `R a`. -/
inductive Program (A : Type) (R : A → Type) (α : Type) where
  | done (a : α)
  | act (a : A) (next : R a → Program A R α)

namespace Program

variable {A : Type} {R : A → Type} {α β : Type}

protected def bind : Program A R α → (α → Program A R β) → Program A R β
  | done a, k => k a
  | act a next, k => act a fun r => (next r).bind k

instance programMonad : Monad (Program A R) where
  pure := done
  bind := Program.bind

def perform (a : A) : Program A R (R a) := act a done

end Program

open Program

/-- What an action may do: the state before it, its response, the state after it and the threads it starts. -/
structure Machine (A : Type) (R : A → Type) (S : Type) where
  performs : (a : A) → S → R a → S → List (Program A R Unit) → Prop

structure Pool (A : Type) (R : A → Type) (S : Type) where
  shared : S
  threads : List (Program A R Unit)

namespace Machine

variable {A : Type} {R : A → Type} {S : Type} (m : Machine A R S)

/-- One thread performs its next action. -/
inductive Step : Pool A R S → Pool A R S → Prop
  | act {before after started : List (Program A R Unit)} {a : A} {next : R a → Program A R Unit} {s s' : S} {r : R a}
      (acts : m.performs a s r s' started) :
      Step ⟨s, before ++ act a next :: after⟩ ⟨s', before ++ next r :: after ++ started⟩

/-- Some threads perform some of their actions, in any order. -/
def Reaches : Pool A R S → Pool A R S → Prop := Relation.ReflTransGen m.Step

/-! ## Taking turns -/

variable (outcome : (a : A) → S → Option (R a × S × List (Program A R Unit)))

/-- The thread with this number performs its next action, when an outcome of the action is known. -/
def turn (pool : Pool A R S) (n : Nat) : Option (Pool A R S) :=
  match pool.threads[n]? with
  | some (act a next) =>
    (outcome a pool.shared).map fun out => ⟨out.2.1, pool.threads.set n (next out.1) ++ out.2.2⟩
  | _ => none

/-- The threads take turns in the given order. -/
def turns : Pool A R S → List Nat → Option (Pool A R S)
  | pool, [] => some pool
  | pool, n :: order => (turn outcome pool n).bind fun pool' => turns pool' order

variable {m outcome}

theorem eq_around {T : Type} {threads : List T} {n : Nat} {t : T} (found : threads[n]? = some t) :
    threads = threads.take n ++ t :: threads.drop (n + 1) := by
  obtain ⟨bound, rfl⟩ := List.getElem?_eq_some_iff.1 found
  rw [List.getElem_cons_drop, List.take_append_drop]

theorem step_of_turn (sound : ∀ a s out, outcome a s = some out → m.performs a s out.1 out.2.1 out.2.2)
    {pool pool' : Pool A R S} {n : Nat} (turned : turn outcome pool n = some pool') : m.Step pool pool' := by
  unfold turn at turned
  split at turned
  · rename_i a next found
    obtain ⟨out, known, rfl⟩ := Option.map_eq_some_iff.1 turned
    obtain ⟨bound, _⟩ := List.getElem?_eq_some_iff.1 found
    have placed : pool.threads.set n (next out.1) = pool.threads.take n ++ next out.1 :: pool.threads.drop (n + 1) :=
      List.set_eq_take_append_cons_drop.trans (if_pos bound)
    have step : m.Step ⟨pool.shared, pool.threads.take n ++ act a next :: pool.threads.drop (n + 1)⟩
        ⟨out.2.1, pool.threads.take n ++ next out.1 :: pool.threads.drop (n + 1) ++ out.2.2⟩ :=
      .act (sound a pool.shared out known)
    rw [← eq_around found, ← placed] at step
    exact step
  · cases turned

/-- What is reached by taking turns is reached. -/
theorem reaches_of_turns (sound : ∀ a s out, outcome a s = some out → m.performs a s out.1 out.2.1 out.2.2)
    {pool pool' : Pool A R S} {order : List Nat} (turned : turns outcome pool order = some pool') :
    m.Reaches pool pool' := by
  induction order generalizing pool with
  | nil =>
    cases turned
    exact .refl
  | cons n order ih =>
    obtain ⟨between, first, rest⟩ := Option.bind_eq_some_iff.1 turned
    exact .head (step_of_turn sound first) (ih rest)

/-! ## What every action keeps -/

theorem Reaches.keeps {inv : S → Prop} (keeps : ∀ a s r s' started, m.performs a s r s' started → inv s → inv s')
    {pool pool' : Pool A R S} (reaches : m.Reaches pool pool') (initially : inv pool.shared) : inv pool'.shared := by
  induction reaches with
  | refl => exact initially
  | tail _ step ih =>
    cases step with
    | act acts => exact keeps _ _ _ _ _ acts ih

/-- A machine on a richer state, whose actions are actions of the other machine on a part of it. -/
theorem Reaches.project {S' : Type} {m' : Machine A R S'} (part : S' → S)
    (acts : ∀ a s r s' started, m'.performs a s r s' started → m.performs a (part s) r (part s') started)
    {pool pool' : Pool A R S'} (reaches : m'.Reaches pool pool') :
    m.Reaches ⟨part pool.shared, pool.threads⟩ ⟨part pool'.shared, pool'.threads⟩ := by
  induction reaches with
  | refl => exact .refl
  | tail _ step ih =>
    cases step with
    | act performs => exact ih.tail (.act (acts _ _ _ _ _ performs))

/-- Threads that are all done perform nothing. -/
theorem not_step_of_done {pool : Pool A R S} (ended : ∀ thread ∈ pool.threads, thread = done ()) :
    ¬∃ next, m.Step pool next := by
  rintro ⟨next, step⟩
  cases step with
  | act _ => cases ended _ (List.mem_append_right _ List.mem_cons_self)

/-! ## A thread alone -/

theorem not_step_done {s : S} {pool : Pool A R S} : ¬ m.Step ⟨s, [done ()]⟩ pool := by
  intro step
  generalize eq : (⟨s, [done ()]⟩ : Pool A R S) = start at step
  cases step with
  | @act before after =>
    have threads := congrArg Pool.threads eq
    cases before with
    | nil => cases threads
    | cons first before =>
      obtain ⟨_, rest⟩ := List.cons.inj threads
      cases before <;> cases rest

theorem step_alone {s : S} {a : A} {next : R a → Program A R Unit} {pool : Pool A R S}
    (step : m.Step ⟨s, [act a next]⟩ pool) :
    ∃ r s' started, m.performs a s r s' started ∧ pool = ⟨s', next r :: started⟩ := by
  generalize eq : (⟨s, [act a next]⟩ : Pool A R S) = start at step
  cases step with
  | @act before after started a' next' s₀ s₁ r acts =>
    cases before with
    | cons first before =>
      obtain ⟨_, rest⟩ := List.cons.inj (congrArg Pool.threads eq)
      cases before <;> cases rest
    | nil =>
      cases eq
      exact ⟨r, s₁, started, acts, rfl⟩

/-- A thread with one action that starts no other ends behind this action. -/
theorem reaches_last_iff {a : A} {next : R a → Program A R Unit} (ends : ∀ r, next r = done ()) {s s' : S}
    (alone : ∀ r s₁ started, m.performs a s r s₁ started → started = []) :
    m.Reaches ⟨s, [act a next]⟩ ⟨s', [done ()]⟩ ↔ ∃ r, m.performs a s r s' [] := by
  constructor
  · intro reaches
    rcases Relation.ReflTransGen.cases_head reaches with same | ⟨pool, step, rest⟩
    · cases same
    generalize eq : (⟨s, [act a next]⟩ : Pool A R S) = start at step
    cases step with
    | @act before after started a' next' s₀ s₁ r acts =>
      cases before with
      | cons first before =>
        obtain ⟨_, rest⟩ := List.cons.inj (congrArg Pool.threads eq)
        cases before <;> cases rest
      | nil =>
        cases eq
        obtain rfl := alone r s₁ started acts
        rw [ends r] at rest
        rcases Relation.ReflTransGen.cases_head rest with same | ⟨_, step, _⟩
        · cases same
          exact ⟨r, acts⟩
        · exact absurd step not_step_done
  · intro acted
    obtain ⟨r, acts⟩ := acted
    have step : m.Step ⟨s, [] ++ act a next :: []⟩ ⟨s', [] ++ next r :: [] ++ []⟩ := .act acts
    rw [ends r] at step
    exact .single step

/-! ## Steps that the other threads allow -/

section Guarded

variable (m) (clear : A → Program A R Unit → Prop) (clears : A → Program A R Unit → Bool) (outcome)

/-- One thread performs its next action while all others are clear of it. -/
inductive StepWhen : Pool A R S → Pool A R S → Prop
  | act {before after started : List (Program A R Unit)} {a : A} {next : R a → Program A R Unit} {s s' : S} {r : R a}
      (allowed : ∀ t ∈ before ++ after, clear a t) (acts : m.performs a s r s' started) :
      StepWhen ⟨s, before ++ act a next :: after⟩ ⟨s', before ++ next r :: after ++ started⟩

def ReachesWhen : Pool A R S → Pool A R S → Prop := Relation.ReflTransGen (m.StepWhen clear)

/-- The thread with this number takes its turn if the others are clear of its action. -/
def turnWhen (pool : Pool A R S) (n : Nat) : Option (Pool A R S) :=
  match pool.threads[n]? with
  | some (act a next) =>
    if (pool.threads.take n ++ pool.threads.drop (n + 1)).all (clears a) then
      (outcome a pool.shared).map fun out => ⟨out.2.1, pool.threads.take n ++ next out.1 :: pool.threads.drop (n + 1) ++
        out.2.2⟩
    else none
  | _ => none

def turnsWhen : Pool A R S → List Nat → Option (Pool A R S)
  | pool, [] => some pool
  | pool, n :: order => (turnWhen outcome clears pool n).bind fun pool' => turnsWhen pool' order

variable {m clear clears outcome}

theorem StepWhen.step {pool pool' : Pool A R S} (step : m.StepWhen clear pool pool') : m.Step pool pool' := by
  cases step with
  | act allowed acts => exact .act acts

theorem ReachesWhen.reaches {pool pool' : Pool A R S} (reaches : m.ReachesWhen clear pool pool') :
    m.Reaches pool pool' := by
  induction reaches with
  | refl => exact .refl
  | tail _ step ih => exact ih.tail step.step

theorem reachesWhen_of_turns (sound : ∀ a s out, outcome a s = some out → m.performs a s out.1 out.2.1 out.2.2)
    (allows : ∀ a t, clears a t = true → clear a t) {pool pool' : Pool A R S} {order : List Nat}
    (turned : turnsWhen outcome clears pool order = some pool') : m.ReachesWhen clear pool pool' := by
  induction order generalizing pool with
  | nil =>
    cases turned
    exact .refl
  | cons n order ih =>
    obtain ⟨between, first, rest⟩ := Option.bind_eq_some_iff.1 turned
    refine .head ?_ (ih rest)
    unfold turnWhen at first
    split at first
    · rename_i a next found
      split at first
      · rename_i all
        obtain ⟨out, known, rfl⟩ := Option.map_eq_some_iff.1 first
        have step : m.StepWhen clear ⟨pool.shared, pool.threads.take n ++ act a next :: pool.threads.drop (n + 1)⟩ _ :=
          .act (fun t mem => allows a t (List.all_eq_true.1 all t mem)) (sound a pool.shared out known)
        rw [← eq_around found] at step
        exact step
      · cases first
    · cases first

/-- What the thread with a number relies on is kept by its own actions, and by those of the others as far as it is clear
of them. So it holds of every thread in every pool that is reached. No new thread has the number zero. -/
theorem ReachesWhen.holds {inv : S → Prop} {good : Nat → S → Program A R Unit → Prop}
    (own : ∀ n s a next r s' started, inv s → good n s (act a next) → m.performs a s r s' started →
      inv s' ∧ good n s' (next r) ∧ ∀ t ∈ started, ∀ k, good (k + 1) s' t)
    (others : ∀ n k s a next r s' started t, n ≠ k → inv s → good n s (act a next) → m.performs a s r s' started →
      clear a t → good k s t → good k s' t)
    {pool pool' : Pool A R S} (reaches : m.ReachesWhen clear pool pool')
    (initially : inv pool.shared ∧ ∀ n t, pool.threads[n]? = some t → good n pool.shared t) :
    inv pool'.shared ∧ ∀ n t, pool'.threads[n]? = some t → good n pool'.shared t := by
  induction reaches with
  | refl => exact initially
  | tail _ step ih =>
    obtain ⟨holds, each⟩ := ih
    cases step with
    | @act before after started a next s s' r allowed acts =>
      have acting : good before.length s (act a next) := each _ _ (by simp)
      obtain ⟨kept, goes, begun⟩ := own _ s a next r s' started holds acting acts
      refine ⟨kept, fun n t found => ?_⟩
      rw [List.append_assoc, List.cons_append] at found
      rcases Nat.lt_trichotomy n before.length with earlier | rfl | later
      · rw [List.getElem?_append_left earlier] at found
        have stood : (before ++ act a next :: after)[n]? = some t := by rw [List.getElem?_append_left earlier, found]
        exact others _ n s a next r s' started t (by omega) holds acting acts
          (allowed t (List.mem_append_left _ (List.mem_of_getElem? found))) (each n t stood)
      · rw [List.getElem?_append_right (Nat.le_refl _), Nat.sub_self, List.getElem?_cons_zero] at found
        cases found
        exact goes
      · obtain ⟨k, rfl⟩ := Nat.exists_eq_add_of_lt later
        rw [List.getElem?_append_right (by omega), show before.length + k + 1 - before.length = k + 1 by omega,
          List.getElem?_cons_succ] at found
        by_cases place : k < after.length
        · rw [List.getElem?_append_left place] at found
          have stood : (before ++ act a next :: after)[before.length + k + 1]? = some t := by
            rw [List.getElem?_append_right (by omega), show before.length + k + 1 - before.length = k + 1 by omega,
              List.getElem?_cons_succ, found]
          exact others _ _ s a next r s' started t (by omega) holds acting acts
            (allowed t (List.mem_append_right _ (List.mem_of_getElem? found))) (each _ t stood)
        · rw [List.getElem?_append_right (by omega)] at found
          exact begun t (List.mem_of_getElem? found) (before.length + k)

end Guarded

end Machine

/-! ## Roles -/

/-- The roles of threads: how each is played from its start on, which roles a new thread may have, the states in which
roles are played, and the steps a role may take with an action, which may bring in the roles of new threads. -/
structure Protocol (A : Type) (R : A → Type) (S G : Type) where
  thread : G → Program A R Unit
  startable : G → Prop
  ok : S → Prop
  step : A → S → G → S → G → List G → Prop

namespace Protocol

variable {A : Type} {R : A → Type} {S G : Type} {α β : Type} (m : Machine A R S) (p : Protocol A R S G)

/-- Played in role `g`, each action of the program is a step of its role, and it returns with what `post` says. -/
def Follows : Program A R α → G → (G → α → Prop) → Prop
  | done a, g, post => post g a
  | act a next, g, post => ∀ s r s' started, p.ok s → m.performs a s r s' started →
      ∃ g' new, p.step a s g s' g' new ∧ (∀ g ∈ new, p.startable g) ∧ started = new.map p.thread ∧
        Follows (next r) g' post

variable {m p}

theorem Follows.bind {x : Program A R α} {k : α → Program A R β} {g : G} {post : G → β → Prop}
    (follows : p.Follows m x g fun g' a => p.Follows m (k a) g' post) : p.Follows m (x >>= k) g post := by
  induction x generalizing g with
  | done a => exact follows
  | act a next ih =>
    intro s r s' started ok acts
    obtain ⟨g', new, step, fresh, threads, rest⟩ := follows s r s' started ok acts
    exact ⟨g', new, step, fresh, threads, ih r rest⟩

theorem Follows.mono {x : Program A R α} {g : G} {post post' : G → α → Prop} (follows : p.Follows m x g post)
    (weaker : ∀ g' a, post g' a → post' g' a) : p.Follows m x g post' := by
  induction x generalizing g with
  | done a => exact weaker g a follows
  | act a next ih =>
    intro s r s' started ok acts
    obtain ⟨g', new, step, fresh, threads, rest⟩ := follows s r s' started ok acts
    exact ⟨g', new, step, fresh, threads, ih r rest⟩

/-- An action that starts no thread. -/
theorem follows_perform {a : A} {g : G} {post : G → R a → Prop}
    (acts : ∀ s r s' started, p.ok s → m.performs a s r s' started →
      ∃ g', p.step a s g s' g' [] ∧ started = [] ∧ post g' r) : p.Follows m (perform a) g post := by
  intro s r s' started ok performs
  obtain ⟨g', step, none, ends⟩ := acts s r s' started ok performs
  exact ⟨g', [], step, by simp, none, ends⟩

/-- The roles of a pool: the state and the roles satisfy the invariant, and each thread plays its role. -/
def Plays (m : Machine A R S) (p : Protocol A R S G) (inv : S → List G → Prop) (pool : Pool A R S) (roles : List G) :
    Prop :=
  inv pool.shared roles ∧ List.Forall₂ (fun g thread => p.Follows m thread g fun _ _ => True) roles pool.threads

theorem Plays.role {inv : S → List G → Prop} {pool : Pool A R S} {roles : List G} (plays : Plays m p inv pool roles)
    {thread : Program A R Unit} (mem : thread ∈ pool.threads) : ∃ g ∈ roles, p.Follows m thread g fun _ _ => True := by
  have each := plays.2
  clear plays
  generalize pool.threads = threads at each mem
  induction each with
  | nil => cases mem
  | cons follows _ ih =>
    rcases List.mem_cons.1 mem with rfl | later
    · exact ⟨_, List.mem_cons_self, follows⟩
    · obtain ⟨g, among, goes⟩ := ih later
      exact ⟨g, List.mem_cons_of_mem _ among, goes⟩

section Rule

variable {inv : S → List G → Prop}
  (starts : ∀ g, p.startable g → p.Follows m (p.thread g) g fun _ _ => True)
  (ok : ∀ s roles, inv s roles → p.ok s)
  (keeps : ∀ a s g s' g' before after new, inv s (before ++ g :: after) → p.step a s g s' g' new →
    (∀ g ∈ new, p.startable g) → inv s' (before ++ g' :: after ++ new))
include starts ok keeps

theorem step_plays {pool pool' : Pool A R S} {roles : List G} (plays : Plays m p inv pool roles)
    (step : m.Step pool pool') : ∃ roles', Plays m p inv pool' roles' := by
  obtain ⟨holds, each⟩ := plays
  cases step with
  | @act before after started a next s s' r acts =>
    have earlier := List.forall₂_take_append roles before (act a next :: after) each
    have later := List.forall₂_drop_append roles before (act a next :: after) each
    obtain ⟨g, others, follows, rest, acting⟩ := List.forall₂_cons_right_iff.1 later
    rw [← List.take_append_drop before.length roles, acting] at holds
    obtain ⟨g', new, taken, fresh, threads, goes⟩ := follows s r s' started (ok _ _ holds) acts
    refine ⟨roles.take before.length ++ g' :: others ++ new, keeps _ _ _ _ _ _ _ _ holds taken fresh, ?_⟩
    have begun : List.Forall₂ (fun g thread => p.Follows m thread g fun _ _ => True) new started := by
      rw [threads, List.forall₂_map_right_iff]
      exact List.forall₂_same.2 fun g mem => starts g (fresh g mem)
    exact List.rel_append (List.rel_append earlier (.cons goes rest)) begun

/-- The invariant holds in every pool that is reached. -/
theorem reaches_inv {pool pool' : Pool A R S} (initially : ∃ roles, Plays m p inv pool roles)
    (reaches : m.Reaches pool pool') : ∃ roles, Plays m p inv pool' roles := by
  induction reaches with
  | refl => exact initially
  | tail _ step ih =>
    obtain ⟨roles, plays⟩ := ih
    exact step_plays starts ok keeps plays step

end Rule

end Protocol

end Actuator.Lib
