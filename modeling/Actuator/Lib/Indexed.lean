import Actuator.Lib.Cursor

/-!
# Readers that record the indexes they use

`Indexed α` is a reader that also returns every index of the buffer it forms, on
the paths that give up as well. Forgetting the indexes gives the plain reader.
`InBounds` asks that all of them lie inside the buffer; it composes along the
reader, and a field of fixed width behind its own length check never breaks it.
-/

namespace Actuator.Lib

/-- A reader over a buffer, with the indexes it uses in their order. -/
def Indexed (α : Type) := Str → Nat → Option (α × Nat) × List Nat

namespace Indexed

variable {α β : Type}

protected def pure (a : α) : Indexed α := fun _ pos => (some (a, pos), [])

protected def bind (r : Indexed α) (k : α → Indexed β) : Indexed β := fun data pos =>
  match r data pos with
  | (none, used) => (none, used)
  | (some (a, pos), used) => ((k a data pos).1, used ++ (k a data pos).2)

instance indexedMonad : Monad Indexed where
  pure := Indexed.pure
  bind := Indexed.bind

/-- The indexes a reader uses from a position on. -/
def used (r : Indexed α) (data : Str) (pos : Nat) : List Nat := (r data pos).2

/-- The reader without its record. -/
def forget (r : Indexed α) : Reader α := fun data pos => (r data pos).1

/-- Every index used lies inside the buffer. -/
def InBounds (r : Indexed α) (data : Str) (pos : Nat) : Prop := ∀ i ∈ r.used data pos, i < data.length

/-! ## Forgetting the record -/

theorem forget_pure (a : α) : (pure a : Indexed α).forget = pure a := rfl

theorem forget_bind (r : Indexed α) (k : α → Indexed β) :
    (r >>= k).forget = r.forget >>= fun a => (k a).forget := by
  funext data pos
  show ((Indexed.bind r k) data pos).1 = ((r data pos).1).bind fun next => ((k next.1) data next.2).1
  unfold Indexed.bind
  rcases r data pos with ⟨_ | ⟨a, next⟩, record⟩
  · rfl
  · rfl

/-! ## Staying inside the buffer -/

theorem inBounds_pure (a : α) (data : Str) (pos : Nat) : (pure a : Indexed α).InBounds data pos := by
  intro i mem
  cases mem

/-- What is read first, and then what is read from where it ended. -/
theorem inBounds_bind {r : Indexed α} {k : α → Indexed β} {data : Str} {pos : Nat} :
    (r >>= k).InBounds data pos ↔
      r.InBounds data pos ∧ ∀ a next, r.forget data pos = some (a, next) → (k a).InBounds data next := by
  have run : (r >>= k).used data pos = ((Indexed.bind r k) data pos).2 := rfl
  unfold InBounds
  rw [run]
  unfold Indexed.bind used forget
  rcases r data pos with ⟨_ | ⟨a, next⟩, record⟩
  · constructor
    · intro inside
      exact ⟨inside, fun a next none => by cases none⟩
    · exact And.left
  · constructor
    · intro inside
      refine ⟨fun i mem => inside i (List.mem_append_left _ mem), fun a' next' same i mem => ?_⟩
      cases same
      exact inside i (List.mem_append_right _ mem)
    · rintro ⟨first, later⟩ i mem
      rcases List.mem_append.1 mem with mem | mem
      · exact first i mem
      · exact later a next rfl i mem

/-- A field of `width` bytes: it reads them and no others, and only if they are all there. -/
structure Fixed (r : Indexed α) (width : Nat) (value : Str → Nat → α) : Prop where
  full : ∀ data pos, pos + width ≤ data.length → r.forget data pos = some (value data pos, pos + width)
  short : ∀ data pos, data.length < pos + width → r.forget data pos = none
  inside : ∀ data pos, r.InBounds data pos

/-- A length check in front of the reads, and reads within the length checked. -/
theorem Fixed.of_check {r : Indexed α} {width : Nat} {value : Str → Nat → α} {record : Nat → List Nat}
    (run : ∀ data pos, r data pos =
      if pos + width > data.length then (none, []) else (some (value data pos, pos + width), record pos))
    (within : ∀ pos, ∀ i ∈ record pos, i < pos + width) : Fixed r width value where
  full data pos enough := by
    unfold forget
    rw [run, if_neg (Nat.not_lt.2 enough)]
  short data pos few := by
    unfold forget
    rw [run, if_pos few]
  inside data pos i mem := by
    unfold used at mem
    rw [run] at mem
    split at mem
    · cases mem
    · have := within pos i mem
      omega

/-- Behind a fixed field, only what follows it can leave the buffer. -/
theorem Fixed.inBounds_bind {r : Indexed α} {width : Nat} {value : Str → Nat → α} (fixed : Fixed r width value)
    {k : α → Indexed β} {data : Str} {pos : Nat} :
    (r >>= k).InBounds data pos ↔
      (pos + width ≤ data.length → (k (value data pos)).InBounds data (pos + width)) := by
  rw [Indexed.inBounds_bind]
  constructor
  · rintro ⟨-, later⟩ enough
    exact later _ _ (fixed.full data pos enough)
  · intro later
    refine ⟨fixed.inside data pos, fun a next read => ?_⟩
    rcases Nat.lt_or_ge data.length (pos + width) with few | enough
    · rw [fixed.short data pos few] at read
      cases read
    · rw [fixed.full data pos enough] at read
      cases read
      exact later enough

/-- The last step of a reader may be any step that keeps inside. -/
theorem inBounds_bind_pure {r : Indexed α} (f : α → β) {data : Str} {pos : Nat} (inside : r.InBounds data pos) :
    (r >>= fun a => pure (f a)).InBounds data pos :=
  Indexed.inBounds_bind.2 ⟨inside, fun _ _ _ => inBounds_pure _ _ _⟩

end Indexed

end Actuator.Lib
