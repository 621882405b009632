import Mathlib.Data.List.Basic

/-!
# Histories of a shared register

A register is written and read by several owners, and its history lists these
accesses in their order. In an atomic history every read returns what was
written last, so what is read was written or was there from the start
(`Atomic.read_from`), and an owner that does not write leaves no trace
(`Atomic.contents_without`). One owner that looks at its own accesses alone
finds the writes of the others as arrivals.
-/

namespace Actuator.Lib

/-- One access to a register that holds a `V`. -/
inductive Access (V : Type) where
  | wrote (value : V)
  | read (value : V)
deriving DecidableEq

namespace Access

variable {V : Type}

/-- What the register holds after the access. -/
def value : Access V → V
  | wrote value => value
  | read value => value

/-- What the register holds after the accesses. -/
def contents (initial : V) (log : List (Access V)) : V := log.foldl (fun _ access => access.value) initial

/-- What was written last. -/
def lastWrote : List (Access V) → Option V
  | [] => none
  | wrote value :: rest => (lastWrote rest).or (some value)
  | read _ :: rest => lastWrote rest

/-- Every read returns what arrived before it, or else what the register held. The number is that of the next access. -/
def ReadsFrom (arrival : Nat → Option V) : Nat → V → List (Access V) → Prop
  | _, _, [] => True
  | n, _, wrote value :: rest => ReadsFrom arrival (n + 1) value rest
  | n, held, read value :: rest => value = (arrival n).getD held ∧ ReadsFrom arrival (n + 1) value rest

/-- In the history of all owners, every read returns what the register holds. -/
def Atomic {ι : Type} : V → List (ι × Access V) → Prop
  | _, [] => True
  | _, (_, wrote value) :: rest => Atomic value rest
  | held, (_, read value) :: rest => value = held ∧ Atomic held rest

theorem contents_append (initial : V) (log more : List (Access V)) :
    contents initial (log ++ more) = contents (contents initial log) more :=
  List.foldl_append

theorem lastWrote_eq_none {log : List (Access V)} : lastWrote log = none ↔ ∀ value, wrote value ∉ log := by
  induction log with
  | nil => simp [lastWrote]
  | cons access rest ih =>
    cases access with
    | wrote value =>
      refine iff_of_false (by simp [lastWrote]) fun silent => ?_
      exact silent value List.mem_cons_self
    | read value => simpa [lastWrote] using ih

section Arrivals

variable {arrival : Nat → Option V} {n : Nat} {held : V} {log more : List (Access V)}

theorem ReadsFrom.append (first : ReadsFrom arrival n held log)
    (later : ReadsFrom arrival (n + log.length) (contents held log) more) : ReadsFrom arrival n held (log ++ more) := by
  induction log generalizing n held with
  | nil => exact later
  | cons access rest ih =>
    have place : n + (access :: rest).length = n + 1 + rest.length := by
      rw [List.length_cons]
      omega
    rw [place] at later
    cases access with
    | wrote value => exact ih first later
    | read value => exact ⟨first.1, ih first.2 later⟩

/-- Without arrivals, the register holds what was written last, or what it held. -/
theorem ReadsFrom.contents_eq (reads : ReadsFrom arrival n held log)
    (quiet : ∀ k, n ≤ k → k < n + log.length → arrival k = none) : contents held log = (lastWrote log).getD held := by
  induction log generalizing n held with
  | nil => rfl
  | cons access rest ih =>
    have later : ∀ k, n + 1 ≤ k → k < n + 1 + rest.length → arrival k = none := by
      intro k low high
      refine quiet k (by omega) ?_
      rw [List.length_cons]
      omega
    cases access with
    | wrote value =>
      refine (ih reads later).trans ?_
      show _ = ((lastWrote rest).or (some value)).getD held
      cases lastWrote rest <;> rfl
    | read value =>
      obtain ⟨same, reads⟩ := reads
      have here := quiet n (Nat.le_refl n) (by simp)
      rw [here, Option.getD_none] at same
      subst same
      exact ih reads later

end Arrivals

section Owners

variable {ι : Type} {held : V} {log : List (ι × Access V)}

/-- What is read was there from the start or was written by some owner. -/
theorem Atomic.read_from (atomic : Atomic held log) {i : ι} {value : V} (mem : (i, read value) ∈ log) :
    value = held ∨ ∃ j, (j, wrote value) ∈ log := by
  induction log generalizing held with
  | nil => cases mem
  | cons entry rest ih =>
    obtain ⟨j, access⟩ := entry
    cases access with
    | wrote first =>
      have later : (i, read value) ∈ rest := by simpa using mem
      rcases ih atomic later with same | ⟨k, written⟩
      · exact .inr ⟨j, by rw [same]; exact List.mem_cons_self⟩
      · exact .inr ⟨k, List.mem_cons_of_mem _ written⟩
    | read first =>
      obtain ⟨same, atomic⟩ := atomic
      rcases List.mem_cons.1 mem with here | later
      · cases here
        exact .inl same
      · exact (ih atomic later).imp_right fun written => by
          obtain ⟨k, among⟩ := written
          exact ⟨k, List.mem_cons_of_mem _ among⟩

/-- The accesses of an owner that does not write make no difference. -/
theorem Atomic.contents_without [DecidableEq ι] (atomic : Atomic held log) {i : ι}
    (silent : ∀ value, (i, wrote value) ∉ log) :
    contents held ((log.filter fun entry => entry.1 ≠ i).map Prod.snd) = contents held (log.map Prod.snd) := by
  induction log generalizing held with
  | nil => rfl
  | cons entry rest ih =>
    have later : ∀ value, (i, wrote value) ∉ rest := fun value mem => silent value (List.mem_cons_of_mem _ mem)
    obtain ⟨j, access⟩ := entry
    cases access with
    | wrote value =>
      have other : j ≠ i := by
        intro same
        subst same
        exact silent value List.mem_cons_self
      rw [List.filter_cons_of_pos (by simpa using other)]
      exact ih atomic later
    | read value =>
      obtain ⟨same, atomic⟩ := atomic
      subst same
      by_cases own : j = i
      · rw [List.filter_cons_of_neg (by simpa using own)]
        exact ih atomic later
      · rw [List.filter_cons_of_pos (by simpa using own)]
        exact ih atomic later

end Owners

end Access

end Actuator.Lib
