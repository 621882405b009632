import Mathlib.Data.List.Basic

/-!
# Loops that find and write values

A loop finds a value for each of its items in the state, and writes it before
it goes on to the next item. Its values are those that the items have in a given
state, for instance the one before the loop, if and only if no item notices that
the values of the items in front of it have been written (`found_eq_map_iff`).
-/

namespace Actuator.Lib.ValueLoop

variable {S I V : Type} (find : S → I → Option V) (write : I → V → S → S)

/-- The values of the items, up to the first that has none when its turn comes. -/
def found : List I → S → List V
  | [], _ => []
  | item :: items, s =>
    match find s item with
    | none => []
    | some value => value :: found items (write item value s)

/-- The state behind given values. -/
def fill (given : I → V) (items : List I) (s : S) : S := items.foldl (fun s item => write item (given item) s) s

variable {find write}

/-- The values do not depend on how they are written as long as the items do not. -/
theorem found_eq_map_iff {given : I → V} {items : List I} {s : S} :
    found find write items s = items.map given ↔
      ∀ before item after, items = before ++ item :: after → find (fill write given before s) item = some (given item) := by
  induction items generalizing s with
  | nil => exact iff_of_true rfl fun before item after split => by simp at split
  | cons item items ih =>
    unfold found
    constructor
    · intro same before other after split
      cases value : find s item with
      | none => simp [value] at same
      | some v =>
        rw [value, List.map_cons, List.cons.injEq] at same
        obtain ⟨rfl, rest⟩ := same
        cases before with
        | nil =>
          obtain ⟨rfl, rfl⟩ := List.cons.inj split
          exact value
        | cons first before =>
          obtain ⟨rfl, later⟩ := List.cons.inj split
          exact ih.1 rest before other after later
    · intro each
      have first : find s item = some (given item) := each [] item items rfl
      rw [first]
      refine congrArg (given item :: ·) (ih.2 fun before other after split => ?_)
      exact each (item :: before) other after (congrArg (item :: ·) split)

end Actuator.Lib.ValueLoop
