import Actuator.Lib.Threads

/-!
# Runs that end

The proof rule for the end of a run of threads. Every thread keeps an account of
how many actions it and the threads it starts have still to perform, and of the
facts they have still to bring about. An action takes one off the account, and
leaves to its thread or to the threads it starts what it does not bring about
itself. An action may wait for facts, but then its own thread owes none.

In a pool whose accounts balance every order of turns has the same length, and
until its end there is always a thread that can act (`Balanced.completes`).
-/

namespace Actuator.Lib

open Program

variable {A : Type} {R : A → Type} {S F : Type} {α β : Type}

structure Account (F : Type) where
  actions : Nat
  duties : List F

namespace Account

/-- Nothing is left to do. -/
def closed : Account F := ⟨0, []⟩

def total : List (Account F) → Nat
  | [] => 0
  | account :: accounts => account.actions + total accounts

@[simp] theorem total_nil : total ([] : List (Account F)) = 0 := rfl

@[simp] theorem total_cons (account : Account F) (accounts : List (Account F)) :
    total (account :: accounts) = account.actions + total accounts := rfl

@[simp] theorem total_append (accounts more : List (Account F)) :
    total (accounts ++ more) = total accounts + total more := by
  induction accounts with
  | nil => rw [List.nil_append, total_nil, Nat.zero_add]
  | cons account accounts ih => rw [List.cons_append, total_cons, total_cons, ih, Nat.add_assoc]

theorem total_eq_zero {accounts : List (Account F)} (none : ∀ account ∈ accounts, account.actions = 0) :
    total accounts = 0 := by
  induction accounts with
  | nil => rfl
  | cons account accounts ih =>
    obtain ⟨first, later⟩ := List.forall_mem_cons.1 none
    rw [total_cons, first, ih later]

end Account

/-- How accounts are kept: in which states, about which facts, which actions may have to wait, and what account a
new thread has. -/
structure Ledger (A : Type) (R : A → Type) (S F : Type) where
  ok : S → Prop
  holds : F → S → Prop
  waits : A → Prop
  opens : Program A R Unit → Account F → Prop

/-- A fact is settled, or someone still owes it. -/
def Ledger.Covered (l : Ledger A R S F) (f : F) (s : S) (accounts : List (Account F)) : Prop :=
  l.holds f s ∨ ∃ account ∈ accounts, f ∈ account.duties

/-- What a performed action has to leave behind, where its thread goes on with the account `account'`. -/
structure Ledger.Settles (l : Ledger A R S F) (account account' : Account F) (s s' : S)
    (started : List (Program A R Unit)) (new : List (Account F)) : Prop where
  ok : l.ok s'
  keeps : ∀ f, l.holds f s → l.holds f s'
  actions : account.actions = account'.actions + Account.total new + 1
  duties : ∀ f ∈ account.duties, l.Covered f s' (account' :: new)
  opens : List.Forall₂ l.opens started new

variable (m : Machine A R S) (l : Ledger A R S F)

/-- The program keeps to its account, and returns with an account as `post` says. -/
def Ledger.Pays : Program A R α → Account F → (α → Account F → Prop) → Prop
  | done a, account, post => post a account
  | act a next, account, post =>
    (∀ s, l.ok s → (∃ r s' started, m.performs a s r s' started) ∨ l.waits a ∧ account.duties = []) ∧
      ∀ s r s' started, l.ok s → m.performs a s r s' started →
        ∃ account' new, l.Settles account account' s s' started new ∧ Ledger.Pays (next r) account' post

/-- Every thread of the pool pays all that it owes, together `n` actions, and each of the facts is covered. -/
structure Ledger.Balanced (facts : List F) (pool : Pool A R S) (n : Nat) : Prop where
  ok : l.ok pool.shared
  accounts : ∃ accounts, List.Forall₂ (fun t account => l.Pays m t account fun _ rest => rest = .closed) pool.threads
      accounts ∧ Account.total accounts = n ∧ ∀ f ∈ facts, l.Covered f pool.shared accounts

namespace Machine

/-- So many steps lead from the one pool to the other. -/
inductive Steps : Nat → Pool A R S → Pool A R S → Prop
  | refl (pool : Pool A R S) : Steps 0 pool pool
  | tail {n : Nat} {pool between pool' : Pool A R S} (before : Steps n pool between) (step : m.Step between pool') :
    Steps (n + 1) pool pool'

variable {m}

theorem Steps.reaches {n : Nat} {pool pool' : Pool A R S} (steps : m.Steps n pool pool') : m.Reaches pool pool' := by
  induction steps with
  | refl => exact .refl
  | tail _ step ih => exact ih.tail step

theorem steps_of_reaches {pool pool' : Pool A R S} (reaches : m.Reaches pool pool') : ∃ n, m.Steps n pool pool' := by
  induction reaches with
  | refl => exact ⟨0, .refl _⟩
  | tail _ step ih =>
    obtain ⟨n, steps⟩ := ih
    exact ⟨n + 1, steps.tail step⟩

/-- The first step of a run that takes any. -/
theorem Steps.head {n : Nat} {pool pool' : Pool A R S} (steps : m.Steps (n + 1) pool pool') :
    ∃ between, m.Step pool between ∧ m.Steps n between pool' := by
  induction n generalizing pool' with
  | zero =>
    cases steps with
    | tail before step =>
      cases before
      exact ⟨_, step, .refl _⟩
  | succ n ih =>
    cases steps with
    | tail before step =>
      obtain ⟨between, first, rest⟩ := ih before
      exact ⟨between, first, rest.tail step⟩

theorem Steps.cons {n : Nat} {pool between pool' : Pool A R S} (first : m.Step pool between)
    (steps : m.Steps n between pool') : m.Steps (n + 1) pool pool' := by
  induction steps with
  | refl => exact (Steps.refl _).tail first
  | tail _ last ih => exact (ih first).tail last

/-- Each turn of the order is a step. -/
theorem steps_of_turns {outcome : (a : A) → S → Option (R a × S × List (Program A R Unit))}
    (sound : ∀ a s out, outcome a s = some out → m.performs a s out.1 out.2.1 out.2.2) {pool pool' : Pool A R S}
    {order : List Nat} (turned : turns outcome pool order = some pool') : m.Steps order.length pool pool' := by
  induction order generalizing pool with
  | nil =>
    cases turned
    exact .refl _
  | cons n order ih =>
    obtain ⟨between, first, rest⟩ := Option.bind_eq_some_iff.1 turned
    exact (ih rest).cons (step_of_turn sound first)

end Machine

namespace Ledger

variable {m l}

/-! ## Programs -/

theorem Pays.bind {x : Program A R α} {k : α → Program A R β} {account : Account F} {post : β → Account F → Prop}
    (pays : l.Pays m x account fun a rest => l.Pays m (k a) rest post) : l.Pays m (x >>= k) account post := by
  induction x generalizing account with
  | done a => exact pays
  | act a next ih =>
    refine ⟨pays.1, fun s r s' started ok acts => ?_⟩
    obtain ⟨account', new, settles, rest⟩ := pays.2 s r s' started ok acts
    exact ⟨account', new, settles, ih r rest⟩

/-- An action that is always possible. -/
theorem pays_perform {a : A} {account : Account F} {post : R a → Account F → Prop}
    (possible : ∀ s, l.ok s → ∃ r s' started, m.performs a s r s' started)
    (acts : ∀ s r s' started, l.ok s → m.performs a s r s' started →
      ∃ account' new, l.Settles account account' s s' started new ∧ post r account') :
    l.Pays m (perform a) account post :=
  ⟨fun s ok => .inl (possible s ok), acts⟩

/-- An action that is always possible, leaves the facts alone and starts no thread. -/
theorem pays_quiet {a : A} {n : Nat} {duties : List F} {post : R a → Account F → Prop}
    (possible : ∀ s, l.ok s → ∃ r s' started, m.performs a s r s' started)
    (quiet : ∀ s r s' started, l.ok s → m.performs a s r s' started →
      l.ok s' ∧ (∀ f, l.holds f s → l.holds f s') ∧ started = [])
    (ends : ∀ r, post r ⟨n, duties⟩) : l.Pays m (perform a) ⟨n + 1, duties⟩ post := by
  refine pays_perform possible fun s r s' started ok acts => ?_
  obtain ⟨ok', keeps, rfl⟩ := quiet s r s' started ok acts
  refine ⟨⟨n, duties⟩, [], ⟨ok', keeps, rfl, fun f owed => .inr ⟨_, List.mem_cons_self, owed⟩, .nil⟩, ends r⟩

/-! ## Pools -/

theorem Covered.mono {f : F} {s s' : S} {accounts accounts' : List (Account F)} (covered : l.Covered f s accounts)
    (keeps : l.holds f s → l.holds f s') (passes : ∀ account ∈ accounts, f ∈ account.duties → l.Covered f s' accounts') :
    l.Covered f s' accounts' := by
  rcases covered with held | ⟨account, among, owed⟩
  · exact .inl (keeps held)
  · exact passes account among owed

section Rule

variable {facts : List F} {pool pool' : Pool A R S} {n : Nat}

/-- One step takes one action off the balance. -/
theorem Balanced.step (opened : ∀ t account, l.opens t account → l.Pays m t account fun _ rest => rest = .closed)
    (balanced : l.Balanced m facts pool n) (step : m.Step pool pool') : ∃ k, n = k + 1 ∧ l.Balanced m facts pool' k := by
  obtain ⟨ok, accounts, each, sum, covered⟩ := balanced
  cases step with
  | @act before after started a next s s' r acts =>
    have earlier := List.forall₂_take_append _ _ _ each.flip
    have later := List.forall₂_drop_append _ _ _ each.flip
    obtain ⟨account, others, pays, rest, acting⟩ := List.forall₂_cons_right_iff.1 later
    obtain ⟨account', new, settles, goes⟩ := pays.2 s r s' started ok acts
    have parts : accounts = accounts.take before.length ++ account :: others := by
      rw [← acting, List.take_append_drop]
    generalize accounts.take before.length = front at earlier parts
    subst parts
    refine ⟨Account.total (front ++ account' :: others ++ new), ?_, settles.ok, _, ?_, rfl, fun f mem => ?_⟩
    · have paid := settles.actions
      simp only [Account.total_append, Account.total_cons] at sum ⊢
      omega
    · have begun : List.Forall₂ (fun t account => l.Pays m t account fun _ rest => rest = .closed) started new :=
        settles.opens.imp fun t account => opened t account
      exact List.rel_append (List.rel_append earlier.flip (.cons goes rest.flip)) begun
    · refine (covered f mem).mono (settles.keeps f) fun owing among owed => ?_
      have keptBy : ∀ other, other ∈ front ∨ other ∈ others → other ∈ front ++ account' :: others ++ new := by
        intro other place
        simp only [List.mem_append, List.mem_cons]
        exact .inl (place.imp_right Or.inr)
      rcases List.mem_append.1 among with first | second
      · exact .inr ⟨owing, keptBy _ (.inl first), owed⟩
      · rcases List.mem_cons.1 second with rfl | last
        · refine (settles.duties f owed).imp_right fun ⟨other, place, duty⟩ => ⟨other, ?_, duty⟩
          rcases List.mem_cons.1 place with rfl | begun
          · simp
          · exact List.mem_append_right _ begun
        · exact .inr ⟨owing, keptBy _ (.inr last), owed⟩

theorem Balanced.steps (opened : ∀ t account, l.opens t account → l.Pays m t account fun _ rest => rest = .closed)
    (balanced : l.Balanced m facts pool n) {k : Nat} (steps : m.Steps k pool pool') :
    ∃ rest, n = rest + k ∧ l.Balanced m facts pool' rest := by
  induction steps with
  | refl => exact ⟨n, rfl, balanced⟩
  | tail _ last ih =>
    obtain ⟨rest, sum, between⟩ := ih balanced
    obtain ⟨k', less, behind⟩ := between.step opened last
    exact ⟨k', by omega, behind⟩

/-- A thread that cannot act owes no fact. -/
theorem Pays.stuck {t : Program A R Unit} {account : Account F} (pays : l.Pays m t account fun _ rest => rest = .closed)
    {s : S} (ok : l.ok s) (stuck : ∀ a next, t = act a next → ¬∃ r s' started, m.performs a s r s' started) :
    account.duties = [] ∧ (t = done () ∧ account = .closed ∨ ∃ a next, t = act a next ∧ l.waits a) := by
  cases t with
  | done u =>
    cases u
    cases pays
    exact ⟨rfl, .inl ⟨rfl, rfl⟩⟩
  | act a next =>
    obtain ⟨waits, none⟩ := (pays.1 s ok).resolve_left (stuck a next rfl)
    exact ⟨none, .inr ⟨a, next, rfl, waits⟩⟩

theorem exists_left {P : α → β → Prop} {xs : List α} {ys : List β} (both : List.Forall₂ P xs ys) {y : β} (mem : y ∈ ys) :
    ∃ x ∈ xs, P x y := by
  induction both with
  | nil => cases mem
  | cons first _ ih =>
    rcases List.mem_cons.1 mem with rfl | later
    · exact ⟨_, List.mem_cons_self, first⟩
    · obtain ⟨x, among, holds⟩ := ih later
      exact ⟨x, List.mem_cons_of_mem _ among, holds⟩

theorem exists_right {P : α → β → Prop} {xs : List α} {ys : List β} (both : List.Forall₂ P xs ys) {x : α} (mem : x ∈ xs) :
    ∃ y ∈ ys, P x y :=
  exists_left both.flip mem

theorem step_of_mem {a : A} {next : R a → Program A R Unit} (mem : act a next ∈ pool.threads)
    (possible : ∃ r s' started, m.performs a pool.shared r s' started) : ∃ pool', m.Step pool pool' := by
  obtain ⟨before, after, threads⟩ := List.append_of_mem mem
  obtain ⟨r, s', started, acts⟩ := possible
  obtain ⟨shared, _⟩ := pool
  subst threads
  exact ⟨_, .act acts⟩

variable (possible : ∀ a s, l.waits a → l.ok s → (∀ f ∈ facts, l.holds f s) → ∃ r s' started, m.performs a s r s' started)
include possible

/-- Where no thread can act, all facts hold and all threads are done: nobody is left who could owe a fact, so nobody is
left to wait. -/
theorem Balanced.stuck (balanced : l.Balanced m facts pool n) (stuck : ¬∃ pool', m.Step pool pool') :
    n = 0 ∧ (∀ t ∈ pool.threads, t = done ()) ∧ ∀ f ∈ facts, l.holds f pool.shared := by
  obtain ⟨ok, accounts, each, sum, covered⟩ := balanced
  have idle : ∀ t ∈ pool.threads, ∀ a next, t = act a next →
      ¬∃ r s' started, m.performs a pool.shared r s' started := by
    rintro t mem a next rfl acts
    exact stuck (step_of_mem mem acts)
  have settled : ∀ f ∈ facts, l.holds f pool.shared := by
    intro f mem
    rcases covered f mem with held | ⟨account, among, owed⟩
    · exact held
    · obtain ⟨t, place, pays⟩ := exists_left each among
      rw [(pays.stuck ok (idle t place)).1] at owed
      cases owed
  have ended : ∀ t account, t ∈ pool.threads → l.Pays m t account (fun _ rest => rest = .closed) →
      t = done () ∧ account = .closed := by
    intro t account place pays
    rcases (pays.stuck ok (idle t place)).2 with ends | ⟨a, next, rfl, waits⟩
    · exact ends
    · exact absurd (possible a _ waits ok settled) (idle _ place a next rfl)
  refine ⟨?_, fun t place => ?_, settled⟩
  · rw [← sum]
    refine Account.total_eq_zero fun account among => ?_
    obtain ⟨t, place, pays⟩ := exists_left each among
    rw [(ended t account place pays).2]
    rfl
  · obtain ⟨account, _, pays⟩ := exists_right each place
    exact (ended t account place pays).1

/-- A run with balanced accounts goes on for exactly `n` steps, whichever thread takes each of them, and brings about
all facts. -/
theorem Balanced.completes (opened : ∀ t account, l.opens t account → l.Pays m t account fun _ rest => rest = .closed)
    (balanced : l.Balanced m facts pool n) {k : Nat} (steps : m.Steps k pool pool') :
    k ≤ n ∧ (k < n ↔ ∃ next, m.Step pool' next) ∧
      (k = n ↔ ∀ t ∈ pool'.threads, t = done ()) ∧ (k = n → ∀ f ∈ facts, l.holds f pool'.shared) := by
  obtain ⟨rest, rfl, behind⟩ := balanced.steps opened steps
  have moves : rest ≠ 0 ↔ ∃ next, m.Step pool' next := by
    constructor
    · intro some
      by_contra none
      exact some (behind.stuck possible none).1
    · rintro ⟨next, step⟩ rfl
      obtain ⟨k', zero, _⟩ := behind.step opened step
      cases zero
  have ends : rest = 0 → (∀ t ∈ pool'.threads, t = done ()) ∧ ∀ f ∈ facts, l.holds f pool'.shared := by
    intro zero
    exact (behind.stuck possible fun step => moves.2 step zero).2
  refine ⟨by omega, ?_, ⟨fun same => (ends (by omega)).1, fun all => ?_⟩, fun same => (ends (by omega)).2⟩
  · rw [← moves]
    omega
  · have zero : rest = 0 := by
      by_contra some
      obtain ⟨next, step⟩ := moves.1 some
      cases step with
      | act acts =>
        have act_done := all _ (List.mem_append_right _ List.mem_cons_self)
        cases act_done
    omega

end Rule

end Ledger

end Actuator.Lib
