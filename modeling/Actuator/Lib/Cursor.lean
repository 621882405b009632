import Actuator.Lib.BigEndian
import Actuator.Lib.Text

/-!
# Reading a buffer through a position

A reader walks over a fixed buffer, advancing a position, and gives up when the
bytes run out. `Reads r shape` is its specification: from a position inside the
buffer it returns `a` exactly when the unread bytes begin with a spelling of
`a`, and it stops behind that spelling. Specifications compose field by field, so
the specification of a whole decoder is the concatenation of its fields.
-/

namespace Actuator.Lib

/-- A reader over a buffer, with the position as its state. -/
abbrev Reader (α : Type) := ReaderT Str (StateT Nat Option) α

namespace Reader

variable {α β : Type}

/-- The result and the position after it. -/
def from? (r : Reader α) (data : Str) (pos : Nat) : Option (α × Nat) := r data pos

/-- The result of reading `data` from its start. -/
def run? (r : Reader α) (data : Str) : Option α := (r.from? data 0).map Prod.fst

/-- The specification of a reader, by the byte strings that spell each result. -/
def Reads (r : Reader α) (shape : α → Str → Prop) : Prop :=
  ∀ (front tail : Str) (a : α) (pos : Nat), r.from? (front ++ tail) front.length = some (a, pos) ↔
    ∃ bs rest, shape a bs ∧ tail = bs ++ rest ∧ pos = front.length + bs.length

theorem Reads.pure (a : α) : Reads (pure a) fun b bs => b = a ∧ bs = [] := by
  intro front tail b pos
  show some (a, front.length) = some (b, pos) ↔ _
  constructor
  · intro result
    obtain ⟨rfl, rfl⟩ := Prod.mk.inj (Option.some.inj result)
    exact ⟨[], tail, ⟨rfl, rfl⟩, rfl, rfl⟩
  · rintro ⟨_, _, ⟨rfl, rfl⟩, _, rfl⟩
    exact rfl

/-- A field with one spelling for each value is followed by the spelling of the rest. -/
theorem Reads.field {r : Reader α} {k : α → Reader β} {spell : α → Str} {P : α → Prop} {shapes : α → β → Str → Prop}
    (first : Reads r fun a bs => P a ∧ bs = spell a) (rest : ∀ a, Reads (k a) (shapes a)) :
    Reads (r >>= k) fun b bs => ∃ a bs', bs = spell a ++ bs' ∧ P a ∧ shapes a b bs' := by
  intro front tail b pos
  have step : (r >>= k).from? (front ++ tail) front.length = some (b, pos) ↔
      ∃ a p, r.from? (front ++ tail) front.length = some (a, p) ∧ (k a).from? (front ++ tail) p = some (b, pos) := by
    simp [from?, Bind.bind, ReaderT.bind, StateT.bind, Option.bind_eq_some_iff]
  rw [step]
  constructor
  · rintro ⟨a, p, read, next⟩
    obtain ⟨x, tail, ⟨ha, rfl⟩, rfl, rfl⟩ := (first front tail a p).1 read
    rw [← List.append_assoc, ← List.length_append] at next
    obtain ⟨y, tail', hy, rfl, rfl⟩ := (rest a _ _ b pos).1 next
    refine ⟨spell a ++ y, tail', ⟨a, y, rfl, ha, hy⟩, (List.append_assoc ..).symm, ?_⟩
    simp [Nat.add_assoc]
  · rintro ⟨_, tail, ⟨a, y, rfl, ha, hy⟩, rfl, rfl⟩
    refine ⟨a, _, (first _ _ _ _).2 ⟨spell a, y ++ tail, ⟨ha, rfl⟩, List.append_assoc .., rfl⟩, ?_⟩
    have next := (rest a (front ++ spell a) (y ++ tail) b _).2 ⟨y, tail, hy, rfl, rfl⟩
    simpa [Nat.add_assoc] using next

/-- A reader of exactly `n` bytes. -/
theorem Reads.fixed {r : Reader α} (n : Nat) (value : Str → α)
    (short : ∀ front tail, tail.length < n → r.from? (front ++ tail) front.length = none)
    (full : ∀ front bs rest, bs.length = n →
      r.from? (front ++ (bs ++ rest)) front.length = some (value bs, front.length + n)) :
    Reads r fun a bs => bs.length = n ∧ value bs = a := by
  intro front tail a pos
  rcases Nat.lt_or_ge tail.length n with few | enough
  · rw [short front tail few]
    refine ⟨nofun, ?_⟩
    rintro ⟨bs, rest, ⟨len, -⟩, rfl, -⟩
    rw [List.length_append] at few
    omega
  · have front_length : (tail.take n).length = n := List.length_take_of_le enough
    conv => lhs; rw [← List.take_append_drop n tail, full front _ _ front_length]
    simp only [Option.some.injEq, Prod.mk.injEq]
    constructor
    · rintro ⟨rfl, rfl⟩
      exact ⟨tail.take n, tail.drop n, ⟨front_length, rfl⟩, (List.take_append_drop n tail).symm, by rw [front_length]⟩
    · rintro ⟨bs, rest, ⟨rfl, rfl⟩, rfl, rfl⟩
      simp

theorem Reads.of_iff {r : Reader α} {shape shape' : α → Str → Prop} (h : Reads r shape)
    (same : ∀ a bs, shape a bs ↔ shape' a bs) : Reads r shape' := by
  obtain rfl : shape = shape' := funext fun a => funext fun bs => propext (same a bs)
  exact h

/-- What a reader with a specification accepts, read from the start of the buffer. -/
theorem Reads.run?_eq_some {r : Reader α} {shape : α → Str → Prop} (h : Reads r shape) (data : Str) (a : α) :
    r.run? data = some a ↔ ∃ bs, shape a bs ∧ bs <+: data := by
  simp only [run?, Option.map_eq_some_iff, Prod.exists]
  constructor
  · rintro ⟨_, pos, read, rfl⟩
    obtain ⟨bs, rest, spelled, rfl, -⟩ := (h [] data _ pos).1 read
    exact ⟨bs, spelled, bs.prefix_append rest⟩
  · rintro ⟨bs, spelled, rest, rfl⟩
    exact ⟨a, bs.length, (h [] _ a _).2 ⟨bs, rest, spelled, rfl, (Nat.zero_add _).symm⟩, rfl⟩

end Reader

end Actuator.Lib
