import Mathlib.Data.List.Basic
import Mathlib.Data.Nat.Basic
import Actuator.Lib.Effect

/-!
# Recursive descent over indexed input

A parser holds a position in a fixed list of items, and its functions call each
other and loop. A `Walker` does that and records what it does with the position:
each move, each item it reads, each call and each completed round of a loop. A
step is sound when it stays inside the list and brings the end nearer: a call is
made behind the place where the caller was entered or goes to a lower level, and
a round consumes something. `Walks` is the specification of a walker from a
position, with a rule for each way of building one.
-/

namespace Actuator.Lib

/-- Why a walk stops without a value. -/
inductive Halt (X : Type) where
  | thrown (what : X)
  | outOfFuel
  | outOfRange
deriving DecidableEq

/-- A step of a walk whose functions are named by `F`. -/
inductive Step (F : Type) where
  | move (start stop : Nat)
  | look (pos : Nat)
  | call (caller : F) (entered : Nat) (callee : F) (pos : Nat)
  | round (start stop : Nat)
deriving DecidableEq

/-- The step stays inside the items and brings their end nearer. -/
def Step.Sound {F : Type} (level : F → Nat) (size : Nat) : Step F → Prop
  | move start stop => start ≤ stop ∧ stop ≤ size
  | look pos => pos < size
  | call caller entered callee pos => entered ≤ pos ∧ pos ≤ size ∧ (entered < pos ∨ level callee < level caller)
  | round start stop => start < stop

/-- Where the step is taken. -/
def Step.origin {F : Type} : Step F → Nat
  | move start _ => start
  | look pos => pos
  | call _ _ _ pos => pos
  | round _ stop => stop

/-- Where it leads. -/
def Step.target {F : Type} : Step F → Nat
  | move _ stop => stop
  | step => step.origin

/-- The steps lead from one position to another, each from where the one before it led. -/
def Path {F : Type} (p : Nat) : List (Step F) → Nat → Prop
  | [], q => p = q
  | step :: steps, q => step.origin = p ∧ Path step.target steps q

theorem Path.append {F : Type} {p q r : Nat} {steps steps' : List (Step F)} (first : Path p steps q)
    (second : Path q steps' r) : Path p (steps ++ steps') r := by
  induction steps generalizing p with
  | nil =>
    obtain rfl : p = q := first
    exact second
  | cons step steps ih => exact ⟨first.1, ih first.2⟩

/-- The position, and the steps up to it. -/
structure Walk (F : Type) where
  pos : Nat
  steps : List (Step F)

/-- A computation on a walk that returns a value or halts. -/
abbrev Walker (F X α : Type) := Effect (Walk F) (Halt X) α

namespace Walker

variable {F X A α β : Type}

/-! ## Steps -/

def halt (why : Halt X) : Walker F X α := Effect.throw why

def fail (what : X) : Walker F X α := halt (.thrown what)

/-- The value of something that may throw. -/
def value : Except X α → Walker F X α
  | .ok a => pure a
  | .error what => fail what

def position : Walker F X Nat := Effect.read Walk.pos

def record (step : Step F) : Walker F X Unit := Effect.modify fun w => { w with steps := w.steps ++ [step] }

/-- The position is increased. -/
def advance (n : Nat) : Walker F X Unit :=
  Effect.modify fun w => { pos := w.pos + n, steps := w.steps ++ [.move w.pos (w.pos + n)] }

/-- The item at the position. -/
def look (items : List A) : Walker F X A := do
  let pos ← position
  record (.look pos)
  match items[pos]? with
  | some a => pure a
  | none => halt .outOfRange

/-- A call of one function by another, which was entered at the given position. -/
def call (caller : F) (entered : Nat) (callee : F) (body : Walker F X α) : Walker F X α := do
  record (.call caller entered callee (← position))
  body

/-- A loop comes back to its head, where it was at the given position. -/
def again (start : Nat) : Walker F X Unit := do record (.round start (← position))

/-- Whether the position is inside the items, at one that has the property. -/
def sees (items : List A) (p : A → Bool) : Walker F X Bool := do
  if (← position) < items.length then return p (← look items)
  else return false

/-- The loop that passes the items with the property. -/
def passLoop (items : List A) (p : A → Bool) : Nat → Walker F X Unit
  | 0 => halt .outOfFuel
  | fuel + 1 => do
    let start ← position
    if ← sees items p then do
      advance 1
      again start
      passLoop items p fuel
    else pure ()

def pass (items : List A) (p : A → Bool) : Walker F X Unit := passLoop items p (items.length + 1)

/-! ## Specifications -/

/-- From the position `p` the walker takes sound steps only, does not go back, and ends with `post` for what it returns
and where. -/
def Walks (level : F → Nat) (size p : Nat) (x : Walker F X α) (post : Except (Halt X) α → Nat → Prop) : Prop :=
  ∀ steps, ∃ out q more, x ⟨p, steps⟩ = (out, ⟨q, steps ++ more⟩) ∧ Path p more q ∧
    (∀ step ∈ more, step.Sound level size) ∧ p ≤ q ∧ q ≤ size ∧ post out q

/-- The walker returns `a` at the position `n`. -/
def Returns (a : α) (n : Nat) (out : Except (Halt X) α) (q : Nat) : Prop := out = .ok a ∧ q = n

/-- The item at a position, and the rest behind it. -/
theorem drop_eq_cons {items : List A} {p : Nat} {a : A} {rest : List A} (here : items.drop p = a :: rest) :
    p < items.length ∧ items[p]? = some a ∧ items.drop (p + 1) = rest := by
  have inside : p < items.length := by
    have long := congrArg List.length here
    rw [List.length_drop, List.length_cons] at long
    omega
  rw [List.drop_eq_getElem_cons inside] at here
  obtain ⟨rfl, rfl⟩ := List.cons.inj here
  exact ⟨inside, List.getElem?_eq_getElem inside, rfl⟩

theorem drop_ne_cons {items : List A} {p : Nat} {a b : A} {rest : List A} (here : items.drop p = a :: rest) (ne : a ≠ b)
    (rest' : List A) : items.drop p ≠ b :: rest' := by
  intro same
  rw [here] at same
  exact ne (List.cons.inj same).1

/-- Behind the items in front that have a property. -/
theorem drop_length_takeWhile (test : A → Bool) (l : List A) : l.drop (l.takeWhile test).length = l.dropWhile test :=
  calc l.drop (l.takeWhile test).length
      = (l.takeWhile test ++ l.dropWhile test).drop (l.takeWhile test).length := by rw [List.takeWhile_append_dropWhile]
    _ = l.dropWhile test := List.drop_left

theorem take_length_takeWhile (test : A → Bool) (l : List A) : l.take (l.takeWhile test).length = l.takeWhile test :=
  calc l.take (l.takeWhile test).length
      = (l.takeWhile test ++ l.dropWhile test).take (l.takeWhile test).length := by rw [List.takeWhile_append_dropWhile]
    _ = l.takeWhile test := List.take_left

section Rules

variable {level : F → Nat} {size p : Nat}

/-- What is known of a whole walk, from the first item. -/
theorem Walks.whole {x : Walker F X α} {post : Except (Halt X) α → Nat → Prop} (walks : Walks level size 0 x post) :
    Path 0 (x ⟨0, []⟩).2.steps (x ⟨0, []⟩).2.pos ∧ (∀ step ∈ (x ⟨0, []⟩).2.steps, step.Sound level size) ∧
      post (x ⟨0, []⟩).1 (x ⟨0, []⟩).2.pos := by
  obtain ⟨out, q, more, ran, path, sound, -, -, ends⟩ := walks []
  rw [ran]
  exact ⟨path, sound, ends⟩

theorem walks_pure (le : p ≤ size) {a : α} {post : Except (Halt X) α → Nat → Prop} (ends : post (.ok a) p) :
    Walks level size p (pure a : Walker F X α) post :=
  fun steps => ⟨.ok a, p, [], by rw [List.append_nil]; rfl, rfl, nofun, le_refl p, le, ends⟩

theorem walks_halt (le : p ≤ size) {why : Halt X} {post : Except (Halt X) α → Nat → Prop} (ends : post (.error why) p) :
    Walks level size p (halt why : Walker F X α) post :=
  fun steps => ⟨.error why, p, [], by rw [List.append_nil]; rfl, rfl, nofun, le_refl p, le, ends⟩

theorem Walks.mono {x : Walker F X α} {post post' : Except (Halt X) α → Nat → Prop} (walks : Walks level size p x post)
    (weaker : ∀ out q, p ≤ q → q ≤ size → post out q → post' out q) : Walks level size p x post' := by
  intro steps
  obtain ⟨out, q, more, ran, path, sound, forward, inside, ends⟩ := walks steps
  exact ⟨out, q, more, ran, path, sound, forward, inside, weaker out q forward inside ends⟩

/-- The second part goes on where the first one ended. -/
theorem Walks.bind {x : Walker F X α} {k : α → Walker F X β} {mid : Except (Halt X) α → Nat → Prop}
    {post : Except (Halt X) β → Nat → Prop} (first : Walks level size p x mid)
    (next : ∀ a q, p ≤ q → q ≤ size → mid (.ok a) q → Walks level size q (k a) post)
    (halts : ∀ why q, mid (.error why) q → post (.error why) q) : Walks level size p (x >>= k) post := by
  intro steps
  obtain ⟨out, q, more, ran, path, sound, forward, inside, ends⟩ := first steps
  cases out with
  | error why => exact ⟨.error why, q, more, Effect.bind_run_error ran, path, sound, forward, inside, halts why q ends⟩
  | ok a =>
    obtain ⟨out', q', more', ran', path', sound', forward', inside', ends'⟩ :=
      next a q forward inside ends (steps ++ more)
    refine ⟨out', q', more ++ more', ?_, path.append path', ?_, Nat.le_trans forward forward', inside', ends'⟩
    · rw [Effect.bind_run_ok ran, ran', List.append_assoc]
    · intro step mem
      rcases List.mem_append.1 mem with mem | mem
      · exact sound step mem
      · exact sound' step mem

/-- Behind a part that returns a known value at a known place. -/
theorem Walks.after {x : Walker F X α} {k : α → Walker F X β} {a : α} {n : Nat}
    {post : Except (Halt X) β → Nat → Prop} (first : Walks level size p x (Returns a n))
    (next : p ≤ n → n ≤ size → Walks level size n (k a) post) : Walks level size p (x >>= k) post := by
  refine first.bind ?_ ?_
  · rintro _ q forward inside ⟨same, rfl⟩
    cases same
    exact next forward inside
  · rintro why q ⟨same, -⟩
    cases same

theorem walks_position (le : p ≤ size) : Walks level size p (position : Walker F X Nat) (Returns p p) :=
  fun steps => ⟨.ok p, p, [], by rw [List.append_nil]; rfl, rfl, nofun, le_refl p, le, rfl, rfl⟩

theorem walks_record (le : p ≤ size) (step : Step F) (here : step.origin = p) (stays : step.target = p)
    (sound : step.Sound level size) : Walks level size p (record step : Walker F X Unit) (Returns () p) :=
  fun _ => ⟨.ok (), p, [step], rfl, ⟨here, stays⟩, List.forall_mem_singleton.2 sound, le_refl p, le, rfl, rfl⟩

theorem walks_advance {n : Nat} (le : p + n ≤ size) :
    Walks level size p (advance n : Walker F X Unit) (Returns () (p + n)) :=
  fun _ => ⟨.ok (), p + n, [.move p (p + n)], rfl, ⟨rfl, rfl⟩,
    List.forall_mem_singleton.2 ⟨Nat.le_add_right p n, le⟩, Nat.le_add_right p n, le, rfl, rfl⟩

theorem walks_look {items : List A} {a : A} {rest : List A} (here : items.drop p = a :: rest) :
    Walks level items.length p (look items : Walker F X A) (Returns a p) := by
  obtain ⟨inside, item, -⟩ := drop_eq_cons here
  refine (walks_position (Nat.le_of_lt inside)).after fun _ _ => ?_
  refine (walks_record (Nat.le_of_lt inside) (.look p) rfl rfl inside).after fun _ _ => ?_
  rw [item]
  exact walks_pure (Nat.le_of_lt inside) ⟨rfl, rfl⟩

theorem walks_again {start : Nat} (le : p ≤ size) (further : start < p) :
    Walks level size p (again start : Walker F X Unit) (Returns () p) :=
  (walks_position le).after fun _ _ => walks_record le (.round start p) rfl rfl further

/-- A call that descends takes the steps of what is called. -/
theorem walks_call {caller callee : F} {entered : Nat} {body : Walker F X α} {post : Except (Halt X) α → Nat → Prop}
    (le : p ≤ size) (behind : entered ≤ p) (descends : entered < p ∨ level callee < level caller)
    (walks : Walks level size p body post) : Walks level size p (call caller entered callee body) post :=
  (walks_position le).after fun _ _ =>
    (walks_record le (.call caller entered callee p) rfl rfl ⟨behind, le, descends⟩).after fun _ _ => walks

theorem walks_sees {items : List A} (le : p ≤ items.length) (test : A → Bool) :
    Walks level items.length p (sees items test : Walker F X Bool) (Returns ((items.drop p).head?.any test) p) := by
  refine (walks_position le).after fun _ _ => ?_
  cases rest : items.drop p with
  | nil =>
    rw [if_neg (by have none := List.drop_eq_nil_iff.1 rest; omega)]
    exact walks_pure le ⟨rfl, rfl⟩
  | cons a rest' =>
    rw [if_pos (drop_eq_cons rest).1]
    exact (walks_look rest).after fun _ _ => walks_pure le ⟨rfl, rfl⟩

/-- The branch taken when the position is at the given item. -/
theorem walks_if_sees_yes [DecidableEq A] {items : List A} {a : A} {rest : List A} (here : items.drop p = a :: rest)
    {yes no : Walker F X α} {post : Except (Halt X) α → Nat → Prop} (walks : Walks level items.length p yes post) :
    Walks level items.length p (sees items (· = a) >>= fun seen => if seen = true then yes else no) post := by
  refine (walks_sees (Nat.le_of_lt (drop_eq_cons here).1) _).after fun _ _ => ?_
  rw [here, List.head?_cons, Option.any_some, decide_eq_true rfl, if_pos rfl]
  exact walks

/-- The branch taken when it is not. -/
theorem walks_if_sees_no [DecidableEq A] {items : List A} {a : A} (le : p ≤ items.length)
    (other : ∀ rest, items.drop p ≠ a :: rest) {yes no : Walker F X α} {post : Except (Halt X) α → Nat → Prop}
    (walks : Walks level items.length p no post) :
    Walks level items.length p (sees items (· = a) >>= fun seen => if seen = true then yes else no) post := by
  refine (walks_sees le _).after fun _ _ => ?_
  rw [if_neg]
  · exact walks
  · intro seen
    cases rest : items.drop p with
    | nil => simp [rest] at seen
    | cons b rest' =>
      have same : b = a := by simpa [rest] using seen
      exact other rest' (by rw [rest, same])

theorem walks_passLoop {items : List A} (test : A → Bool) {fuel : Nat} (le : p ≤ items.length)
    (enough : items.length - p < fuel) : Walks level items.length p (passLoop items test fuel : Walker F X Unit)
      (Returns () (p + ((items.drop p).takeWhile test).length)) := by
  induction fuel generalizing p with
  | zero => omega
  | succ fuel ih =>
    refine (walks_position le).after fun _ _ => ?_
    refine (walks_sees le test).after fun _ _ => ?_
    cases rest : items.drop p with
    | nil => exact walks_pure le ⟨rfl, rfl⟩
    | cons a rest' =>
      obtain ⟨inside, -, behind⟩ := drop_eq_cons rest
      rw [List.head?_cons, Option.any_some]
      by_cases holds : test a = true
      · rw [if_pos holds, List.takeWhile_cons_of_pos holds, List.length_cons]
        refine (walks_advance (by omega)).after fun _ _ => ?_
        refine (walks_again (by omega) (by omega)).after fun _ _ => ?_
        refine (ih (by omega) (by omega)).mono fun out q _ _ returns => ?_
        rw [behind] at returns
        exact ⟨returns.1, returns.2.trans (by omega)⟩
      · rw [if_neg holds, List.takeWhile_cons_of_neg holds]
        exact walks_pure le ⟨rfl, rfl⟩

/-- The loop never runs out of fuel, and ends behind the items with the property. -/
theorem walks_pass {items : List A} (test : A → Bool) (le : p ≤ items.length) :
    Walks level items.length p (pass items test : Walker F X Unit)
      (Returns () (p + ((items.drop p).takeWhile test).length)) :=
  walks_passLoop test le (by omega)

end Rules

/-! ## Agreement with a parser of rests -/

section Agreement

variable {level : F → Nat} {p : Nat} {E : Type}

/-- The walk ends as the parse does that is given the rest of the items and returns what it leaves. -/
def Agrees (items : List A) (why : E → Halt X) (parse : Except E (α × List A)) (out : Except (Halt X) α) (q : Nat) : Prop :=
  match parse with
  | .ok (a, rest) => out = .ok a ∧ rest = items.drop q
  | .error e => out = .error (why e)

variable {items : List A} {why : E → Halt X}

theorem Walks.agree {x : Walker F X α} {k : α → Walker F X β} {parse : Except E (α × List A)}
    {next : α × List A → Except E (β × List A)} (first : Walks level items.length p x (Agrees items why parse))
    (later : ∀ a q, p ≤ q → q ≤ items.length →
      Walks level items.length q (k a) (Agrees items why (next (a, items.drop q)))) :
    Walks level items.length p (x >>= k) (Agrees items why (parse >>= next)) := by
  refine first.bind ?_ ?_
  · intro a q forward inside agrees
    cases parse with
    | error e => cases agrees
    | ok result =>
      obtain ⟨b, rest⟩ := result
      obtain ⟨same, rfl⟩ := agrees
      cases same
      exact later a q forward inside
  · intro halted q agrees
    cases parse with
    | error e =>
      change Except.error halted = Except.error (why e) at agrees
      cases agrees
      exact rfl
    | ok result => cases agrees.1

theorem walks_agree_pure (le : p ≤ items.length) (a : α) {rest : List A} (left : items.drop p = rest) :
    Walks level items.length p (pure a : Walker F X α) (Agrees items why (.ok (a, rest))) :=
  walks_pure le ⟨rfl, left.symm⟩

end Agreement

end Walker

end Actuator.Lib
