import Actuator.Executor.GenericExecutor
import Actuator.Lib.ValueLoop

/-!
# The values of the observations

`applyObservationValues` writes the variable of each mapping before it resolves
the next one. The variables get the values that their sensors have in the store
before, unless a mapping finds its value under a name that an earlier mapping has
written with another value (`observed_before_iff`).
-/

namespace Actuator.Executor

open Actuator.Lib Actuator.Core

variable {D : Type}

/-! ## Where the value of a sensor is looked for -/

/-- The names under which the value is looked for, in order. -/
def observationSources (varName sensorKey : Str) : List Str :=
  sensorKey :: if (observationAlias sensorKey).isEmpty then [varName] else [observationAlias sensorKey, varName]

/-- A list with an element that has a property has a first one. -/
theorem exists_first {α : Type} {P : α → Prop} {l : List α} (some : ∃ a ∈ l, P a) :
    ∃ front a rest, l = front ++ a :: rest ∧ P a ∧ ∀ b ∈ front, ¬P b := by
  induction l with
  | nil =>
    obtain ⟨a, mem, _⟩ := some
    cases mem
  | cons b l ih =>
    by_cases holds : P b
    · exact ⟨[], b, l, rfl, holds, fun c mem => absurd mem List.not_mem_nil⟩
    · have later : ∃ a ∈ l, P a := by
        obtain ⟨a, mem, holdsA⟩ := some
        rcases List.mem_cons.1 mem with rfl | inside
        · exact absurd holdsA holds
        · exact ⟨a, inside, holdsA⟩
      obtain ⟨front, a, rest, rfl, holdsA, none⟩ := ih later
      exact ⟨b :: front, a, rest, rfl, holdsA, List.forall_mem_cons.2 ⟨holds, none⟩⟩

theorem observedValue_eq [CxxDouble D] (vm : VariableManager D) (varName sensorKey : Str) :
    observedValue vm varName sensorKey =
      ((observationSources varName sensorKey).findSome? vm.lookup).getD (defaultObservationValue sensorKey) := by
  unfold observedValue observationSources
  rw [List.findSome?_cons]
  cases vm.lookup sensorKey with
  | some value => rfl
  | none =>
    dsimp only
    by_cases noAlias : (observationAlias sensorKey).isEmpty = true
    · rw [if_pos noAlias, if_pos noAlias, List.findSome?_cons]
      cases vm.lookup varName <;> rfl
    · rw [if_neg noAlias, if_neg noAlias, List.findSome?_cons]
      cases vm.lookup (observationAlias sensorKey) with
      | some value => rfl
      | none =>
        rw [List.findSome?_cons]
        cases vm.lookup varName <;> rfl

/-- The value is that of the first source that the store holds. -/
theorem observedValue_of_first [CxxDouble D] {vm : VariableManager D} {varName sensorKey : Str} {front rest : List Str}
    {other : Str} {value : VariableValue D} (sources : observationSources varName sensorKey = front ++ other :: rest)
    (none : ∀ source ∈ front, vm.lookup source = none) (holds : vm.lookup other = some value) :
    observedValue vm varName sensorKey = value := by
  rw [observedValue_eq, List.findSome?_eq_some_iff.2 ⟨front, other, rest, sources, holds, none⟩]
  rfl

/-! ## Stores with written variables -/

theorem lookup_set_loc (vm : VariableManager D) (name : Str) (value : VariableValue D) (other : Str) :
    (vm.set name value .loc).lookup other = if other = name then some value else vm.lookup other := by
  by_cases same : other = name
  · rw [if_pos same, same]
    exact VariableManager.lookup_of_local (OrdMap.find?_insert_self _ _ _)
  · have kept : (vm.set name value .loc).localVars.find? other = vm.localVars.find? other :=
      OrdMap.find?_insert_of_ne _ _ same
    rw [if_neg same]
    unfold VariableManager.lookup
    rw [kept]
    rfl

/-- What a mapping writes. -/
def writeObserved (mapping : Str × Str) (value : VariableValue D) (vm : VariableManager D) : VariableManager D :=
  vm.set mapping.1 value .loc

section Fill

variable {given : Str × Str → VariableValue D} {mappings : List (Str × Str)}

theorem lookup_fill_of_not_mem (vm : VariableManager D) {name : Str} (other : name ∉ mappings.map Prod.fst) :
    (ValueLoop.fill writeObserved given mappings vm).lookup name = vm.lookup name := by
  induction mappings generalizing vm with
  | nil => rfl
  | cons mapping mappings ih =>
    obtain ⟨differs, later⟩ := not_or.1 (List.mem_cons.not.1 other)
    apply (ih _ later).trans
    exact (lookup_set_loc _ _ _ _).trans (if_neg differs)

theorem lookup_fill_of_mem (vm : VariableManager D) {mapping : Str × Str}
    (distinct : (mappings.map Prod.fst).Nodup) (mem : mapping ∈ mappings) :
    (ValueLoop.fill writeObserved given mappings vm).lookup mapping.1 = some (given mapping) := by
  induction mappings generalizing vm with
  | nil => cases mem
  | cons first mappings ih =>
    obtain ⟨fresh, rest⟩ := List.nodup_cons.1 distinct
    rcases List.mem_cons.1 mem with rfl | later
    · apply (lookup_fill_of_not_mem _ fresh).trans
      exact (lookup_set_loc _ _ _ _).trans (if_pos rfl)
    · exact ih _ rest later

end Fill

/-! ## The loop -/

section Loop

variable [CxxDouble D]

def findObserved (vm : VariableManager D) (mapping : Str × Str) : Option (VariableValue D) :=
  some (observedValue vm mapping.1 mapping.2)

/-- The loop, on some of the mappings. -/
def observe (mappings : List (Str × Str)) (vm : VariableManager D) : VariableManager D :=
  mappings.foldl (fun vm mapping => vm.set mapping.1 (observedValue vm mapping.1 mapping.2) .loc) vm

theorem find?_observe_of_not_mem {mappings : List (Str × Str)} (vm : VariableManager D) {name : Str}
    (other : name ∉ mappings.map Prod.fst) :
    (observe mappings vm).localVars.find? name = vm.localVars.find? name := by
  induction mappings generalizing vm with
  | nil => rfl
  | cons mapping mappings ih =>
    obtain ⟨differs, later⟩ := not_or.1 (List.mem_cons.not.1 other)
    apply (ih _ later).trans
    exact OrdMap.find?_insert_of_ne _ _ differs

/-- The variables have the given values behind the loop exactly if these are the values that the loop finds. -/
theorem assigned_iff_found {given : Str × Str → VariableValue D} {mappings : List (Str × Str)}
    (distinct : (mappings.map Prod.fst).Nodup) (vm : VariableManager D) :
    (∀ mapping ∈ mappings, (observe mappings vm).localVars.find? mapping.1 = some (given mapping)) ↔
      ValueLoop.found findObserved writeObserved mappings vm = mappings.map given := by
  induction mappings generalizing vm with
  | nil => exact iff_of_true (fun mapping mem => absurd mem List.not_mem_nil) rfl
  | cons mapping mappings ih =>
    obtain ⟨fresh, rest⟩ := List.nodup_cons.1 distinct
    have first : (observe (mapping :: mappings) vm).localVars.find? mapping.1 =
        some (observedValue vm mapping.1 mapping.2) := by
      apply (find?_observe_of_not_mem _ fresh).trans
      exact OrdMap.find?_insert_self _ _ _
    have found : ValueLoop.found findObserved writeObserved (mapping :: mappings) vm =
        observedValue vm mapping.1 mapping.2 :: ValueLoop.found findObserved writeObserved mappings
          (vm.set mapping.1 (observedValue vm mapping.1 mapping.2) .loc) := rfl
    rw [List.forall_mem_cons, first, found, List.map_cons, List.cons.injEq, Option.some.injEq]
    exact and_congr_right fun _ => ih rest _

end Loop

/-! ## Mappings that cross -/

section Crossing

variable (data : NodeData) (vm : VariableManager D)

/-- The variable of an earlier mapping. -/
def MappedBefore (varName other : Str) : Prop := other < varName ∧ ∃ sensorKey, data.observation.find? other = some sensorKey

/-- The store holds the name, or an earlier mapping writes it. -/
def HeldAtTurn (varName other : Str) : Prop := (vm.lookup other).isSome = true ∨ MappedBefore data varName other

/-- The name under which the loop finds the value of a mapping is the first of its sources that the store holds or an
earlier mapping writes. -/
structure FoundUnder (varName sensorKey other : Str) : Prop where
  first : ∃ front rest, observationSources varName sensorKey = front ++ other :: rest ∧
    ∀ source ∈ front, ¬HeldAtTurn data vm varName source
  held : HeldAtTurn data vm varName other

variable [CxxDouble D]

/-- A value that is found under a name that an earlier mapping writes is the one that this mapping writes. -/
def Uncrossed : Prop :=
  ∀ varName sensorKey, data.observation.find? varName = some sensorKey →
    ∀ other otherKey, FoundUnder data vm varName sensorKey other → other < varName →
      data.observation.find? other = some otherKey → observedValue vm other otherKey = observedValue vm varName sensorKey

/-- The value of a mapping in the store before. -/
def observedBefore (mapping : Str × Str) : VariableValue D := observedValue vm mapping.1 mapping.2

variable {data vm}

/-- The entries in front of one are those with a lesser variable. -/
theorem mem_before_iff {before after : List (Str × Str)} {varName sensorKey : Str}
    (split : data.observation.entries = before ++ (varName, sensorKey) :: after) {other otherKey : Str} :
    (other, otherKey) ∈ before ↔ other < varName ∧ data.observation.find? other = some otherKey := by
  have sorted := data.observation.sorted
  rw [split, List.pairwise_append] at sorted
  obtain ⟨-, ordered, apart⟩ := sorted
  have entries : data.observation.find? other = some otherKey ↔
      (other, otherKey) ∈ before ++ (varName, sensorKey) :: after := by
    rw [← split]
    exact OrdMap.mem_entries.symm
  rw [entries, List.mem_append, List.mem_cons]
  constructor
  · exact fun mem => ⟨apart _ mem _ List.mem_cons_self, Or.inl mem⟩
  · rintro ⟨less, mem | same | mem⟩
    · exact mem
    · obtain ⟨rfl, rfl⟩ := Prod.mk.inj same
      exact absurd less (lt_irrefl _)
    · exact absurd less (List.rel_of_pairwise_cons ordered mem).not_gt

/-- What is found in the store in which the earlier mappings have written their values. -/
theorem lookup_turn {before after : List (Str × Str)} {varName sensorKey : Str}
    (split : data.observation.entries = before ++ (varName, sensorKey) :: after) :
    (∀ other otherKey, other < varName → data.observation.find? other = some otherKey →
      (ValueLoop.fill writeObserved (observedBefore vm) before vm).lookup other = some (observedValue vm other otherKey)) ∧
    ∀ other, ¬MappedBefore data varName other →
      (ValueLoop.fill writeObserved (observedBefore vm) before vm).lookup other = vm.lookup other := by
  have distinct := data.observation.nodup_keys
  rw [split, List.map_append, List.nodup_append] at distinct
  constructor
  · intro other otherKey less mapped
    exact lookup_fill_of_mem vm distinct.1 ((mem_before_iff split).2 ⟨less, mapped⟩)
  · intro other unmapped
    apply lookup_fill_of_not_mem
    intro mem
    obtain ⟨⟨name, otherKey⟩, inside, rfl⟩ := List.mem_map.1 mem
    obtain ⟨less, mapped⟩ := (mem_before_iff split).1 inside
    exact unmapped ⟨less, otherKey, mapped⟩

/-- The value of a mapping at its turn is the one before the loop exactly if it is not found under a name that an earlier
mapping has written with another value. -/
theorem observedValue_turn {before after : List (Str × Str)} {varName sensorKey : Str}
    (split : data.observation.entries = before ++ (varName, sensorKey) :: after) :
    observedValue (ValueLoop.fill writeObserved (observedBefore vm) before vm) varName sensorKey =
        observedValue vm varName sensorKey ↔
      ∀ other otherKey, FoundUnder data vm varName sensorKey other → other < varName →
        data.observation.find? other = some otherKey →
          observedValue vm other otherKey = observedValue vm varName sensorKey := by
  obtain ⟨written, kept⟩ := @lookup_turn D data vm _ _ _ _ _ split
  generalize ValueLoop.fill writeObserved (observedBefore vm) before vm = turn at written kept
  have missing : ∀ {source}, ¬HeldAtTurn data vm varName source → turn.lookup source = none ∧ vm.lookup source = none := by
    intro source free
    obtain ⟨unset, unmapped⟩ := not_or.1 free
    have before : vm.lookup source = none := Option.not_isSome_iff_eq_none.1 unset
    exact ⟨(kept source unmapped).trans before, before⟩
  constructor
  · intro same other otherKey found less mapped
    obtain ⟨front, rest, sources, none⟩ := found.first
    rw [← same]
    exact (observedValue_of_first sources (fun source mem => (missing (none source mem)).1)
      (written other otherKey less mapped)).symm
  · intro agree
    by_cases some : ∃ source ∈ observationSources varName sensorKey, HeldAtTurn data vm varName source
    · obtain ⟨front, other, rest, sources, held, none⟩ := exists_first some
      by_cases mapped : MappedBefore data varName other
      · obtain ⟨less, otherKey, maps⟩ := mapped
        rw [← agree other otherKey ⟨⟨front, rest, sources, none⟩, held⟩ less maps]
        exact observedValue_of_first sources (fun source mem => (missing (none source mem)).1)
          (written other otherKey less maps)
      · obtain ⟨value, holds⟩ := Option.isSome_iff_exists.1 (held.resolve_right mapped)
        rw [observedValue_of_first sources (fun source mem => (missing (none source mem)).2) holds]
        exact observedValue_of_first sources (fun source mem => (missing (none source mem)).1)
          ((kept other mapped).trans holds)
    · have free : ∀ source ∈ observationSources varName sensorKey, ¬HeldAtTurn data vm varName source :=
        fun source mem held => some ⟨source, mem, held⟩
      rw [observedValue_eq, observedValue_eq, List.findSome?_eq_none_iff.2 fun source mem => (missing (free source mem)).1,
        List.findSome?_eq_none_iff.2 fun source mem => (missing (free source mem)).2]

end Crossing

/-- The LOCAL variables get the values that their sensors have in the store before, exactly if no mapping finds its value
under a name that an earlier mapping writes with another value. -/
theorem observed_before_iff [CxxDouble D] (data : NodeData) (vm : VariableManager D) :
    (∀ varName sensorKey, data.observation.find? varName = some sensorKey →
      (applyObservationValues data vm).localVars.find? varName = some (observedValue vm varName sensorKey)) ↔
      Uncrossed data vm := by
  have loop := @assigned_iff_found D _ (observedBefore vm) _ data.observation.nodup_keys vm
  rw [ValueLoop.found_eq_map_iff] at loop
  constructor
  · intro assigned varName sensorKey mapped
    have each := loop.1 fun mapping mem => assigned mapping.1 mapping.2 (OrdMap.mem_entries.1 mem)
    obtain ⟨before, after, split⟩ := List.append_of_mem (OrdMap.mem_entries.2 mapped)
    exact (observedValue_turn split).1 (Option.some.inj (each before (varName, sensorKey) after split))
  · intro uncrossed varName sensorKey mapped
    refine loop.2 (fun before mapping after split => ?_) (varName, sensorKey) (OrdMap.mem_entries.2 mapped)
    obtain ⟨name, key⟩ := mapping
    have maps : data.observation.find? name = some key := by
      apply OrdMap.mem_entries.1
      rw [split]
      exact List.mem_append_right _ List.mem_cons_self
    exact congrArg some ((observedValue_turn split).2 (uncrossed name key maps))

/-- The two sensors are missing, so that the aliases `y` and `x` stand for them. -/
def crossedData : NodeData where
  type := .action
  observation := (OrdMap.empty.insert (lit "x") (lit "POS_Y")).insert (lit "y") (lit "POS_X")

def placedStore : VariableManager FixedPoint where
  localVars := (OrdMap.empty.insert (lit "x") (.int 1)).insert (lit "y") (.int 2)

/-- Both variables end up with the value of `y`. -/
theorem crossed_observations :
    (applyObservationValues crossedData placedStore).localVars.find? (lit "x") = some (.int 2) ∧
      (applyObservationValues crossedData placedStore).localVars.find? (lit "y") = some (.int 2) ∧
      observedValue placedStore (lit "y") (lit "POS_X") = .int 1 := by
  decide +kernel

end Actuator.Executor
