import Mathlib.Logic.Relation

/-!
# Systems that perform events

A system is given by what it does with each event: the next state, or nothing
where the event cannot happen. A run may be restricted to events that are
allowed in the states in which they happen, and what these keep holds in every
state that it reaches (`Reaches.keeps`).
-/

namespace Actuator.Lib.Events

variable {S E : Type} (perform : E → S → Option S) (allowed : E → S → Prop) (allows : E → S → Bool)

/-- Some allowed events happen, in any order. -/
def Reaches : S → S → Prop := Relation.ReflTransGen fun s s' => ∃ e, allowed e s ∧ perform e s = some s'

/-- The given events happen, if each of them is allowed. -/
def run : S → List E → Option S
  | s, [] => some s
  | s, e :: events => if allows e s then (perform e s).bind fun s' => run s' events else none

variable {perform allowed allows}

/-- What every allowed event keeps holds in all states that are reached. -/
theorem Reaches.keeps {inv : S → Prop}
    (step : ∀ e s s', inv s → allowed e s → perform e s = some s' → inv s') {s s' : S}
    (reaches : Reaches perform allowed s s') (initially : inv s) : inv s' := by
  induction reaches with
  | refl => exact initially
  | tail _ last ih =>
    obtain ⟨e, may, performed⟩ := last
    exact step e _ _ ih may performed

theorem reaches_of_run (sound : ∀ e s, allows e s = true → allowed e s) {s s' : S} {events : List E}
    (ran : run perform allows s events = some s') : Reaches perform allowed s s' := by
  induction events generalizing s with
  | nil =>
    cases ran
    exact .refl
  | cons e events ih =>
    unfold run at ran
    split at ran
    · rename_i may
      obtain ⟨between, performed, rest⟩ := Option.bind_eq_some_iff.1 ran
      exact .head ⟨e, sound e s may, performed⟩ (ih rest)
    · cases ran

end Actuator.Lib.Events
