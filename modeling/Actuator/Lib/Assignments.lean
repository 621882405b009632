import Mathlib.Data.List.Perm.Basic
import Actuator.Lib.Effect

/-!
# Assignments carried out one after the other

A list of assignments `k := t` is a system of equations, and carrying it out in
some order is one way to look for a solution. Where the equations depend on one
another without a cycle there is at most one solution (`Solves.unique`), and the
order of the dependencies finds it (`run_eq_ok_iff`). Any other order finds it
if and only if no right-hand side notices that some of the names still have
their old values (`run_solves_iff`).
-/

namespace Actuator.Lib.Assignments

/-- Stores with values under names, determined by these and by a rest that setting leaves alone. -/
structure Store (S K V F : Type) [DecidableEq K] where
  get : S → K → Option V
  set : S → K → V → S
  frame : S → F
  get_set : ∀ s k k' v, get (set s k v) k' = if k' = k then some v else get s k'
  frame_set : ∀ s k v, frame (set s k v) = frame s
  ext : ∀ s s', frame s = frame s' → (∀ k, get s k = get s' k) → s = s'

variable {S K V F T E : Type} [DecidableEq K] (store : Store S K V F) (eval : S → T → Except E V)

/-- Carry the assignments out from left to right. -/
def run : List (K × T) → S → Except E S
  | [], s => .ok s
  | (k, t) :: rest, s => do
    let v ← eval s t
    run rest (store.set s k v)

/-- The value of the term does not depend on the name. -/
def Independent (t : T) (k : K) : Prop := ∀ s v, eval (store.set s k v) t = eval s t

/-- No term depends on its own name or on a later one, and no name is assigned twice. -/
structure Acyclic (order : List (K × T)) : Prop where
  own : ∀ e ∈ order, Independent store eval e.2 e.1
  later : order.Pairwise fun a b => Independent store eval a.2 b.1
  distinct : (order.map Prod.fst).Nodup

/-- Each name has the value of its term. -/
def Solves (equations : List (K × T)) (s : S) : Prop :=
  ∀ e ∈ equations, ∃ v, store.get s e.1 = some v ∧ eval s e.2 = .ok v

/-- The names with their values from the other store, as far as it has any. -/
def overwrite (solved : S) (names : List K) (s : S) : S :=
  names.foldl (fun s k => match store.get solved k with
    | some v => store.set s k v
    | none => s) s

/-- The stores differ in these names only. -/
structure AgreesOff (names : List K) (s s' : S) : Prop where
  frame : store.frame s = store.frame s'
  get : ∀ k, k ∉ names → store.get s k = store.get s' k

variable {store eval}

theorem Acyclic.tail {e : K × T} {rest : List (K × T)} (acyclic : Acyclic store eval (e :: rest)) :
    Acyclic store eval rest :=
  ⟨fun e mem => acyclic.own e (List.mem_cons_of_mem _ mem), (List.pairwise_cons.1 acyclic.later).2,
    (List.nodup_cons.1 acyclic.distinct).2⟩

/-- The first term depends on none of the names. -/
theorem Acyclic.head {e : K × T} {rest : List (K × T)} (acyclic : Acyclic store eval (e :: rest)) :
    ∀ k ∈ (e :: rest).map Prod.fst, Independent store eval e.2 k := by
  intro k mem
  rcases List.mem_cons.1 mem with rfl | behind
  · exact acyclic.own e List.mem_cons_self
  · obtain ⟨later, inside, rfl⟩ := List.mem_map.1 behind
    exact (List.pairwise_cons.1 acyclic.later).1 later inside

/-- A term has the same value in stores that differ in names that it does not depend on. -/
theorem eval_eq_of_agreesOff {t : T} {names : List K} (independent : ∀ k ∈ names, Independent store eval t k) {s s' : S}
    (agrees : AgreesOff store names s s') (defined : ∀ k ∈ names, ∃ v, store.get s' k = some v) :
    eval s t = eval s' t := by
  induction names generalizing s with
  | nil => rw [store.ext s s' agrees.frame fun k => agrees.get k List.not_mem_nil]
  | cons k names ih =>
    obtain ⟨v, held⟩ := defined k List.mem_cons_self
    rw [← independent k List.mem_cons_self s v]
    refine ih (fun k mem => independent k (List.mem_cons_of_mem _ mem)) ⟨?_, fun k' other => ?_⟩
      (fun k mem => defined k (List.mem_cons_of_mem _ mem))
    · rw [store.frame_set]
      exact agrees.frame
    · rw [store.get_set]
      by_cases same : k' = k
      · rw [if_pos same, same, held]
      · rw [if_neg same]
        exact agrees.get k' (List.mem_cons.not.2 (not_or.2 ⟨same, other⟩))

theorem Solves.defined {equations : List (K × T)} {s : S} (solves : Solves store eval equations s) :
    ∀ k ∈ equations.map Prod.fst, ∃ v, store.get s k = some v := by
  intro k mem
  obtain ⟨e, inside, rfl⟩ := List.mem_map.1 mem
  obtain ⟨v, held, _⟩ := solves e inside
  exact ⟨v, held⟩

theorem Solves.perm {equations equations' : List (K × T)} {s : S} (solves : Solves store eval equations s)
    (permuted : equations'.Perm equations) : Solves store eval equations' s :=
  fun e mem => solves e (permuted.subset mem)

/-- Acyclic equations have one solution for the given rest. -/
theorem Solves.unique {order : List (K × T)} (acyclic : Acyclic store eval order) {s s' : S}
    (solves : Solves store eval order s) (solves' : Solves store eval order s')
    (agrees : AgreesOff store (order.map Prod.fst) s s') : s = s' := by
  induction order with
  | nil => exact store.ext s s' agrees.frame fun k => agrees.get k List.not_mem_nil
  | cons e rest ih =>
    have same : eval s e.2 = eval s' e.2 := eval_eq_of_agreesOff acyclic.head agrees solves'.defined
    obtain ⟨v, held, value⟩ := solves e List.mem_cons_self
    obtain ⟨v', held', value'⟩ := solves' e List.mem_cons_self
    refine ih acyclic.tail (fun e mem => solves e (List.mem_cons_of_mem _ mem))
      (fun e mem => solves' e (List.mem_cons_of_mem _ mem)) ⟨agrees.frame, fun k other => ?_⟩
    by_cases first : k = e.1
    · rw [value, value'] at same
      cases same
      rw [first, held, held']
    · exact agrees.get k (List.mem_cons.not.2 (not_or.2 ⟨first, other⟩))

/-! ## Runs -/

theorem run_cons_eq_ok {k : K} {t : T} {rest : List (K × T)} {s s' : S}
    (ran : run store eval ((k, t) :: rest) s = .ok s') :
    ∃ v, eval s t = .ok v ∧ run store eval rest (store.set s k v) = .ok s' :=
  except_bind_eq_ok ran

theorem run_append {before after : List (K × T)} {s : S} :
    run store eval (before ++ after) s = run store eval before s >>= run store eval after := by
  induction before generalizing s with
  | nil => rfl
  | cons e before ih =>
    obtain ⟨k, t⟩ := e
    show (eval s t >>= fun v => run store eval (before ++ after) (store.set s k v)) =
      (eval s t >>= fun v => run store eval before (store.set s k v)) >>= _
    cases eval s t with
    | error e => rfl
    | ok v => exact ih

/-- A run changes the assigned names only. -/
theorem run_agreesOff {equations : List (K × T)} {s s' : S} (ran : run store eval equations s = .ok s') :
    AgreesOff store (equations.map Prod.fst) s' s := by
  induction equations generalizing s with
  | nil =>
    cases ran
    exact ⟨rfl, fun _ _ => rfl⟩
  | cons e rest ih =>
    obtain ⟨k, t⟩ := e
    obtain ⟨v, _, later⟩ := run_cons_eq_ok ran
    obtain ⟨frame, get⟩ := ih later
    refine ⟨frame.trans (store.frame_set s k v), fun k' other => ?_⟩
    obtain ⟨first, behind⟩ := not_or.1 (List.mem_cons.not.1 other)
    rw [get k' behind, store.get_set, if_neg first]

/-- In an order of the dependencies the run is exactly the search for the solution. -/
theorem run_eq_ok_iff {order : List (K × T)} (acyclic : Acyclic store eval order) {s s' : S} :
    run store eval order s = .ok s' ↔
      Solves store eval order s' ∧ AgreesOff store (order.map Prod.fst) s s' := by
  induction order generalizing s with
  | nil =>
    constructor
    · intro ran
      cases ran
      exact ⟨fun _ mem => (nomatch mem), ⟨rfl, fun _ _ => rfl⟩⟩
    · intro both
      exact congrArg Except.ok (store.ext s s' both.2.frame fun k => both.2.get k List.not_mem_nil)
  | cons e rest ih =>
    obtain ⟨k, t⟩ := e
    obtain ⟨fresh, _⟩ := List.nodup_cons.1 acyclic.distinct
    have behind : ∀ v, AgreesOff store (rest.map Prod.fst) (store.set s k v) s' ↔
        AgreesOff store (((k, t) :: rest).map Prod.fst) s s' ∧ store.get s' k = some v := by
      intro v
      constructor
      · intro agrees
        have own := agrees.get k fresh
        rw [store.get_set, if_pos rfl] at own
        refine ⟨⟨(store.frame_set s k v).symm.trans agrees.frame, fun k' other => ?_⟩, own.symm⟩
        obtain ⟨first, later⟩ := not_or.1 (List.mem_cons.not.1 other)
        rw [← agrees.get k' later, store.get_set, if_neg first]
      · intro both
        obtain ⟨agrees, own⟩ := both
        refine ⟨(store.frame_set s k v).trans agrees.frame, fun k' other => ?_⟩
        rw [store.get_set]
        by_cases first : k' = k
        · rw [if_pos first, first, own]
        · rw [if_neg first]
          exact agrees.get k' (List.mem_cons.not.2 (not_or.2 ⟨first, other⟩))
    constructor
    · intro ran
      obtain ⟨v, value, later⟩ := run_cons_eq_ok ran
      obtain ⟨solves, agrees⟩ := (ih acyclic.tail).1 later
      obtain ⟨off, own⟩ := (behind v).1 agrees
      have defined : ∀ name ∈ ((k, t) :: rest).map Prod.fst, ∃ v, store.get s' name = some v := by
        intro name mem
        rcases List.mem_cons.1 mem with rfl | inside
        · exact ⟨v, own⟩
        · exact solves.defined name inside
      refine ⟨fun e mem => ?_, off⟩
      rcases List.mem_cons.1 mem with rfl | inside
      · exact ⟨v, own, (eval_eq_of_agreesOff acyclic.head off defined).symm.trans value⟩
      · exact solves e inside
    · intro both
      obtain ⟨solves, off⟩ := both
      obtain ⟨v, own, value⟩ := solves (k, t) List.mem_cons_self
      have here : eval s t = .ok v := (eval_eq_of_agreesOff acyclic.head off solves.defined).trans value
      show (eval s t >>= fun v => run store eval rest (store.set s k v)) = _
      rw [here]
      exact (ih acyclic.tail).2 ⟨fun e mem => solves e (List.mem_cons_of_mem _ mem), (behind v).2 ⟨off, own⟩⟩

/-! ## Other orders -/

theorem get_overwrite (solved : S) {names : List K} (defined : ∀ k ∈ names, ∃ v, store.get solved k = some v) (s : S)
    (k : K) : store.get (overwrite store solved names s) k = if k ∈ names then store.get solved k else store.get s k := by
  unfold overwrite
  induction names generalizing s with
  | nil => rw [if_neg List.not_mem_nil]; rfl
  | cons name names ih =>
    obtain ⟨v, held⟩ := defined name List.mem_cons_self
    rw [List.foldl_cons, ih fun k mem => defined k (List.mem_cons_of_mem _ mem)]
    simp only [held]
    by_cases later : k ∈ names
    · rw [if_pos later, if_pos (List.mem_cons_of_mem _ later)]
    · rw [if_neg later, store.get_set]
      by_cases first : k = name
      · rw [if_pos first, if_pos (List.mem_cons.2 (.inl first)), first, held]
      · rw [if_neg first, if_neg (List.mem_cons.not.2 (not_or.2 ⟨first, later⟩))]

theorem frame_overwrite (solved : S) (names : List K) (s : S) :
    store.frame (overwrite store solved names s) = store.frame s := by
  unfold overwrite
  induction names generalizing s with
  | nil => rfl
  | cons name names ih =>
    rw [List.foldl_cons, ih]
    split
    · exact store.frame_set _ _ _
    · rfl

/-- What a run has made of the store, when it comes to a given point on the way to the solution. -/
theorem run_eq_overwrite {before : List (K × T)} {s s' solved : S} (ran : run store eval before s = .ok s')
    (reached : ∀ k ∈ before.map Prod.fst, ∃ v, store.get solved k = some v ∧ store.get s' k = some v) :
    s' = overwrite store solved (before.map Prod.fst) s := by
  obtain ⟨frame, get⟩ := run_agreesOff ran
  refine store.ext _ _ (frame.trans (frame_overwrite _ _ _).symm) fun k => ?_
  rw [get_overwrite solved fun k mem => by
    obtain ⟨v, held, _⟩ := reached k mem
    exact ⟨v, held⟩]
  by_cases mem : k ∈ before.map Prod.fst
  · obtain ⟨v, held, held'⟩ := reached k mem
    rw [if_pos mem, held, held']
  · rw [if_neg mem]
    exact get k mem

theorem overwrite_eq_self {solved : S} {names : List K} (defined : ∀ k ∈ names, ∃ v, store.get solved k = some v) {s : S}
    (agrees : AgreesOff store names s solved) : overwrite store solved names s = solved := by
  refine store.ext _ _ ((frame_overwrite _ _ _).trans agrees.frame) fun k => ?_
  rw [get_overwrite solved defined]
  by_cases mem : k ∈ names
  · rw [if_pos mem]
  · rw [if_neg mem]
    exact agrees.get k mem

/-- In a run that finds the solution each term had its value there when its turn came. -/
theorem eval_overwrite_of_run {before after : List (K × T)} {k : K} {t : T} {s s' : S}
    (distinct : ((before ++ (k, t) :: after).map Prod.fst).Nodup)
    (ran : run store eval (before ++ (k, t) :: after) s = .ok s')
    (solves : Solves store eval (before ++ (k, t) :: after) s') :
    eval (overwrite store s' (before.map Prod.fst) s) t = eval s' t := by
  rw [List.map_append, List.map_cons] at distinct
  obtain ⟨_, behind, apart⟩ := List.nodup_append.1 distinct
  rw [run_append] at ran
  obtain ⟨s₁, first, rest⟩ := except_bind_eq_ok ran
  obtain ⟨v, value, later⟩ := run_cons_eq_ok rest
  have reached : s₁ = overwrite store s' (before.map Prod.fst) s := by
    refine run_eq_overwrite first fun name mem => ?_
    obtain ⟨w, held⟩ := solves.defined name (by rw [List.map_append]; exact List.mem_append_left _ mem)
    -- What was assigned up to here is not assigned again.
    have settled := (run_agreesOff rest).get name fun again => apart name mem name again rfl
    exact ⟨w, held, settled.symm.trans held⟩
  have own : store.get s' k = some v := by
    rw [(run_agreesOff later).get k (List.nodup_cons.1 behind).1, store.get_set, if_pos rfl]
  obtain ⟨w, held, final⟩ := solves (k, t) (by simp)
  rw [← reached, value, final]
  rw [own] at held
  exact congrArg Except.ok (Option.some.inj held)

/-- When each term has its value in the solution already, the run only fills the solution in. -/
theorem run_eq_ok_overwrite {equations : List (K × T)} {s solved : S} (solves : Solves store eval equations solved)
    (same : ∀ before k t after, equations = before ++ (k, t) :: after →
      eval (overwrite store solved (before.map Prod.fst) s) t = eval solved t) :
    run store eval equations s = .ok (overwrite store solved (equations.map Prod.fst) s) := by
  have step : ∀ after before, equations = before ++ after →
      run store eval after (overwrite store solved (before.map Prod.fst) s) =
        .ok (overwrite store solved (equations.map Prod.fst) s) := by
    intro after
    induction after with
    | nil =>
      intro before split
      rw [split, List.append_nil]
      rfl
    | cons e after ih =>
      intro before split
      obtain ⟨k, t⟩ := e
      obtain ⟨v, held, value⟩ := solves (k, t) (by rw [split]; simp)
      have here := (same before k t after split).trans value
      have next := ih (before ++ [(k, t)]) (by rw [split]; simp)
      show (eval _ t >>= fun v => run store eval after (store.set _ k v)) = _
      rw [here, ← next]
      unfold overwrite
      rw [List.map_append, List.foldl_append]
      simp only [List.map_cons, List.map_nil, List.foldl_cons, List.foldl_nil, held]
      rfl
  exact step equations [] rfl

/-- Carried out in any order, acyclic assignments find their solution if and only if each term has its value there
already when only the names before it have theirs. -/
theorem run_solves_iff {order equations : List (K × T)} (permuted : order.Perm equations)
    (acyclic : Acyclic store eval order) {s : S} :
    (∃ s', run store eval equations s = .ok s' ∧ Solves store eval equations s') ↔
      ∃ solved, run store eval order s = .ok solved ∧ ∀ before k t after, equations = before ++ (k, t) :: after →
        eval (overwrite store solved (before.map Prod.fst) s) t = eval solved t := by
  have names : ∀ k, k ∈ equations.map Prod.fst ↔ k ∈ order.map Prod.fst := fun k =>
    ((permuted.map Prod.fst).mem_iff).symm
  have distinct : (equations.map Prod.fst).Nodup := (permuted.map Prod.fst).nodup_iff.1 acyclic.distinct
  constructor
  · intro found
    obtain ⟨s', ran, solves⟩ := found
    have off := run_agreesOff ran
    refine ⟨s', ?_, ?_⟩
    · refine (run_eq_ok_iff acyclic).2 ⟨solves.perm permuted, ⟨off.frame.symm, fun k other => ?_⟩⟩
      exact (off.get k fun mem => other ((names k).1 mem)).symm
    · intro before k t after split
      subst split
      exact eval_overwrite_of_run distinct ran solves
  · intro condition
    obtain ⟨solved, ran, same⟩ := condition
    obtain ⟨solves, off⟩ := (run_eq_ok_iff acyclic).1 ran
    have solves' : Solves store eval equations solved := solves.perm permuted.symm
    have agrees : AgreesOff store (equations.map Prod.fst) s solved :=
      ⟨off.frame, fun k other => off.get k fun inside => other ((names k).2 inside)⟩
    have filled := run_eq_ok_overwrite solves' same
    rw [overwrite_eq_self solves'.defined agrees] at filled
    exact ⟨solved, filled, solves'⟩

end Actuator.Lib.Assignments
