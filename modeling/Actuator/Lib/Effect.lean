import Mathlib.Order.Defs.Unbundled

/-!
# Computations with state and exceptions

A step of the program reads and writes a state and may throw. As in C++, what
was written before a throw stays written: an exception carries no undo. `Keeps`
says that a computation relates the states before and after it by a preorder,
however it ends, and has one rule for each way of building a computation.
-/

namespace Actuator.Lib

theorem except_bind_eq_ok {E α β : Type} {x : Except E α} {k : α → Except E β} {b : β} (run : (x >>= k) = .ok b) :
    ∃ a, x = .ok a ∧ k a = .ok b := by
  cases x with
  | error e => cases run
  | ok a => exact ⟨a, rfl, run⟩

theorem except_ok_bind {E α β : Type} (a : α) (k : α → Except E β) : ((.ok a : Except E α) >>= k) = k a := rfl

/-- A computation on the state `S` that returns a value or throws. -/
def Effect (S E α : Type) := S → Except E α × S

namespace Effect

variable {S E F α β : Type}

protected def pure (a : α) : Effect S E α := fun s => (.ok a, s)

protected def bind (x : Effect S E α) (k : α → Effect S E β) : Effect S E β := fun s =>
  match x s with
  | (.ok a, s) => k a s
  | (.error e, s) => (.error e, s)

instance effectMonad : Monad (Effect S E) where
  pure := Effect.pure
  bind := Effect.bind

def throw (e : E) : Effect S E α := fun s => (.error e, s)

/-- What a function reads off the state. -/
def read (f : S → α) : Effect S E α := fun s => (.ok (f s), s)

def modify (f : S → S) : Effect S E Unit := fun s => (.ok (), f s)

/-- The value of a function of the state that may throw. -/
def readThrowing (f : S → Except E α) : Effect S E α := fun s => (f s, s)

/-- The outcome of a computation, its exception caught. -/
def attempt (x : Effect S E α) : Effect S F (Except E α) := fun s => (.ok (x s).1, (x s).2)

/-! ## Running -/

theorem pure_run (a : α) (s : S) : (pure a : Effect S E α) s = (.ok a, s) := rfl

theorem bind_run_ok {x : Effect S E α} {k : α → Effect S E β} {s s' : S} {a : α} (first : x s = (.ok a, s')) :
    (x >>= k) s = k a s' := by
  show Effect.bind x k s = _
  unfold Effect.bind
  rw [first]

theorem bind_run_error {x : Effect S E α} {k : α → Effect S E β} {s s' : S} {e : E} (first : x s = (.error e, s')) :
    (x >>= k) s = (.error e, s') := by
  show Effect.bind x k s = _
  unfold Effect.bind
  rw [first]

theorem pure_bind (a : α) (k : α → Effect S E β) : (pure a >>= k) = k a := rfl

theorem bind_pure (x : Effect S E α) : (x >>= pure) = x := by
  funext s
  rcases ran : x s with ⟨out, s₁⟩
  cases out with
  | ok a => exact bind_run_ok ran
  | error e => exact bind_run_error ran

theorem bind_assoc {γ : Type} (x : Effect S E α) (k : α → Effect S E β) (l : β → Effect S E γ) :
    (x >>= k >>= l) = (x >>= fun a => k a >>= l) := by
  funext s
  rcases ran : x s with ⟨out, s₁⟩
  cases out with
  | ok a =>
    rw [bind_run_ok ran]
    show Effect.bind (x >>= k) l s = Effect.bind (k a) l s₁
    unfold Effect.bind
    rw [bind_run_ok ran]
  | error e =>
    rw [bind_run_error ran, bind_run_error (bind_run_error ran)]

theorem bind_eq_ok {x : Effect S E α} {k : α → Effect S E β} {s s' : S} {b : β} (run : (x >>= k) s = (.ok b, s')) :
    ∃ a s₁, x s = (.ok a, s₁) ∧ k a s₁ = (.ok b, s') := by
  rcases first : x s with ⟨out, s₁⟩
  cases out with
  | ok a => exact ⟨a, s₁, rfl, by rw [← run, bind_run_ok first]⟩
  | error e =>
    rw [bind_run_error first] at run
    cases run

/-! ## What a computation throws -/

/-- Every exception the computation can throw has the property. -/
def ThrowsOnly (P : E → Prop) (x : Effect S E α) : Prop := ∀ s e s', x s = (.error e, s') → P e

section Throws

variable {P : E → Prop}

theorem throwsOnly_pure (a : α) : ThrowsOnly P (pure a : Effect S E α) := fun s e s' run => by cases run

theorem throwsOnly_read (f : S → α) : ThrowsOnly P (read f : Effect S E α) := fun s e s' run => by cases run

theorem throwsOnly_modify (f : S → S) : ThrowsOnly P (modify f : Effect S E Unit) := fun s e s' run => by cases run

theorem ThrowsOnly.bind {x : Effect S E α} {k : α → Effect S E β} (first : ThrowsOnly P x)
    (next : ∀ a, ThrowsOnly P (k a)) : ThrowsOnly P (x >>= k) := by
  intro s e s' run
  rcases ran : x s with ⟨out, s₁⟩
  cases out with
  | ok a =>
    rw [bind_run_ok ran] at run
    exact next a s₁ e s' run
  | error thrown =>
    rw [bind_run_error ran] at run
    cases run
    exact first s _ _ ran

end Throws

/-! ## Computations against each other -/

/-- From related states the two computations return or throw the same, and end in related states. -/
def Matches (R : S → S → Prop) (x y : Effect S E α) : Prop := ∀ s t, R s t → (x s).1 = (y t).1 ∧ R (x s).2 (y t).2

theorem Matches.bind {R : S → S → Prop} {x y : Effect S E α} {k l : α → Effect S E β} (first : Matches R x y)
    (next : ∀ a, Matches R (k a) (l a)) : Matches R (x >>= k) (y >>= l) := by
  intro s t related
  obtain ⟨same, after⟩ := first s t related
  rcases ranS : x s with ⟨out, s₁⟩
  rcases ranT : y t with ⟨out', t₁⟩
  rw [ranS, ranT] at same after
  change out = out' at same
  subst same
  cases out with
  | ok a =>
    rw [bind_run_ok ranS, bind_run_ok ranT]
    exact next a s₁ t₁ after
  | error e =>
    rw [bind_run_error ranS, bind_run_error ranT]
    exact ⟨rfl, after⟩

/-! ## What a computation looks at -/

/-- From related states the computation returns or throws the same, and ends in related states. -/
def Respects (R : S → S → Prop) (x : Effect S E α) : Prop := ∀ s t, R s t → (x s).1 = (x t).1 ∧ R (x s).2 (x t).2

section Respects

variable {R : S → S → Prop}

theorem Respects.matches {x : Effect S E α} (respects : Respects R x) : Matches R x x := respects

theorem respects_pure (a : α) : Respects R (pure a : Effect S E α) := fun _ _ related => ⟨rfl, related⟩

theorem respects_read {f : S → α} (same : ∀ s t, R s t → f s = f t) : Respects R (read f : Effect S E α) :=
  fun s t related => ⟨congrArg Except.ok (same s t related), related⟩

theorem respects_readThrowing {f : S → Except E α} (same : ∀ s t, R s t → f s = f t) : Respects R (readThrowing f) :=
  fun s t related => ⟨same s t related, related⟩

theorem Respects.bind {x : Effect S E α} {k : α → Effect S E β} (first : Respects R x) (next : ∀ a, Respects R (k a)) :
    Respects R (x >>= k) :=
  Matches.bind first next

end Respects

/-! ## What a computation keeps -/

/-- The states before and after are related, whether it returns or throws. -/
def Keeps (R : S → S → Prop) (x : Effect S E α) : Prop := ∀ s, R s (x s).2

/-- A part of the state is as it was. -/
def SameOn (part : S → α) (s s' : S) : Prop := part s' = part s

instance sameOnPreorder (part : S → α) : IsPreorder S (SameOn part) where
  refl _ := rfl
  trans _ _ _ first second := second.trans first

/-- What holds before holds after. -/
def Maintains (I : S → Prop) (s s' : S) : Prop := I s → I s'

instance maintainsPreorder (I : S → Prop) : IsPreorder S (Maintains I) where
  refl _ := id
  trans _ _ _ first second := second ∘ first

section Rules

variable {R : S → S → Prop}

theorem keeps_modify {f : S → S} (keeps : ∀ s, R s (f s)) : Keeps R (modify (E := E) f) := keeps

theorem Keeps.ite {c : Prop} [Decidable c] {x y : Effect S E α} (yes : c → Keeps R x) (no : ¬c → Keeps R y) :
    Keeps R (if c then x else y) := by
  split
  · exact yes ‹c›
  · exact no ‹¬c›

variable [IsPreorder S R]

theorem keeps_pure (a : α) : Keeps R (pure a : Effect S E α) := fun s => refl s

theorem keeps_read (f : S → α) : Keeps R (read f : Effect S E α) := fun s => refl s

theorem keeps_readThrowing (f : S → Except E α) : Keeps R (readThrowing f) := fun s => refl s

theorem Keeps.bind {x : Effect S E α} {k : α → Effect S E β} (first : Keeps R x) (next : ∀ a, Keeps R (k a)) :
    Keeps R (x >>= k) := by
  intro s
  have before := first s
  rcases run : x s with ⟨out, s₁⟩
  rw [run] at before
  cases out with
  | ok a =>
    rw [bind_run_ok run]
    exact IsTrans.trans _ _ _ before (next a s₁)
  | error e =>
    rw [bind_run_error run]
    exact before

/-- Behind a read, only the values it can return matter. -/
theorem Keeps.bind_value {x : Except E α} {k : α → Effect S E β} (next : ∀ a, x = .ok a → Keeps R (k a)) :
    Keeps R (readThrowing (fun _ => x) >>= k) := by
  intro s
  cases x with
  | ok a => exact next a rfl s
  | error e => exact refl s

end Rules

/-! ## What a computation appends to a log -/

/-- From every state the computation returns, with `post` for the value and for what it has appended to the log. -/
def Appends {L : Type} (log : S → List L) (x : Effect S E α) (post : α → List L → Prop) : Prop :=
  ∀ s, ∃ a s' events, x s = (.ok a, s') ∧ log s' = log s ++ events ∧ post a events

section Appends

variable {L : Type} {log : S → List L}

theorem appends_pure (a : α) {post : α → List L → Prop} (ends : post a []) :
    Appends log (pure a : Effect S E α) post :=
  fun s => ⟨a, s, [], rfl, (List.append_nil _).symm, ends⟩

theorem Appends.mono {x : Effect S E α} {post post' : α → List L → Prop} (appends : Appends log x post)
    (weaker : ∀ a events, post a events → post' a events) : Appends log x post' := by
  intro s
  obtain ⟨a, s', events, run, logged, ends⟩ := appends s
  exact ⟨a, s', events, run, logged, weaker a events ends⟩

/-- The log of the second part continues that of the first. -/
theorem Appends.bind {x : Effect S E α} {k : α → Effect S E β} {mid : α → List L → Prop} {post : β → List L → Prop}
    (first : Appends log x mid)
    (next : ∀ a events, mid a events → Appends log (k a) fun b events' => post b (events ++ events')) :
    Appends log (x >>= k) post := by
  intro s
  obtain ⟨a, s₁, events, run, logged, ends⟩ := first s
  obtain ⟨b, s₂, events', run', logged', ends'⟩ := next a events ends s₁
  refine ⟨b, s₂, events ++ events', (bind_run_ok run).trans run', ?_, ends'⟩
  rw [logged', logged, List.append_assoc]

end Appends

/-- What is logged behind a computation that returns, in the state it leaves. -/
def behind {L : Type} (x : Effect S E α) (later : α → S → List L) (s : S) : List L :=
  match x s with
  | (.ok a, s') => later a s'
  | (.error _, _) => []

theorem behind_ok {L : Type} {x : Effect S E α} {later : α → S → List L} {s s' : S} {a : α} (run : x s = (.ok a, s')) :
    behind x later s = later a s' := by
  unfold behind
  rw [run]

theorem behind_error {L : Type} {x : Effect S E α} {later : α → S → List L} {s s' : S} {e : E}
    (run : x s = (.error e, s')) : behind x later s = [] := by
  unfold behind
  rw [run]

end Effect

end Actuator.Lib
