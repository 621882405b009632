import Mathlib.Data.List.Perm.Basic

/-!
# Operations in another order

A list of operations is performed one after the other. Operations that are
pairwise independent lead to the same state, up to an equivalence, in whatever
order they are performed (`Commuting.foldl_perm`): by induction on how the one
order is turned into the other, with one exchange of neighbours at a time.
-/

namespace Actuator.Lib

variable {A S : Type}

/-- Operations that respect an equivalence of states, and commute up to it where they are independent. -/
structure Commuting (perform : S → A → S) (same : S → S → Prop) (calm : A → Prop) (independent : A → A → Prop) :
    Prop where
  equivalence : Equivalence same
  congr : ∀ {a s t}, calm a → same s t → same (perform s a) (perform t a)
  swap : ∀ {a b}, calm a → calm b → independent a b → ∀ s, same (perform (perform s a) b) (perform (perform s b) a)
  symm : ∀ {a b}, independent a b → independent b a

namespace Commuting

variable {perform : S → A → S} {same : S → S → Prop} {calm : A → Prop} {independent : A → A → Prop}

theorem foldl_congr (laws : Commuting perform same calm independent) {operations : List A}
    (all : ∀ a ∈ operations, calm a) {s t : S} (related : same s t) :
    same (operations.foldl perform s) (operations.foldl perform t) := by
  induction operations generalizing s t with
  | nil => exact related
  | cons a operations ih =>
    exact ih (fun b mem => all b (List.mem_cons_of_mem _ mem)) (laws.congr (all a List.mem_cons_self) related)

/-- Pairwise independent operations lead to the same state in any order. -/
theorem foldl_perm (laws : Commuting perform same calm independent) {operations others : List A}
    (perm : operations.Perm others) (all : ∀ a ∈ operations, calm a) (apart : operations.Pairwise independent) (s : S) :
    same (operations.foldl perform s) (others.foldl perform s) := by
  induction perm generalizing s with
  | nil => exact laws.equivalence.refl s
  | cons a _ ih => exact ih (fun b mem => all b (List.mem_cons_of_mem _ mem)) (List.pairwise_cons.1 apart).2 _
  | swap a b rest =>
    have first : independent b a := (List.pairwise_cons.1 apart).1 a List.mem_cons_self
    have both := laws.swap (all b List.mem_cons_self) (all a (by simp)) first s
    exact laws.foldl_congr (fun c mem => all c (by simp [mem])) both
  | trans first _ ih ih' =>
    have between := (first.pairwise_iff laws.symm).1 apart
    exact laws.equivalence.trans (ih all apart s) (ih' (fun a mem => all a (first.mem_iff.2 mem)) between s)

end Commuting

end Actuator.Lib
