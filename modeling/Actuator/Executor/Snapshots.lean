import Actuator.Executor.VariableManager
import Actuator.Lib.Effect
import Actuator.Lib.Json

/-!
# Snapshots over whole runs

A snapshot is a copy under a numbered name, and nothing but a snapshot with the
same number could replace it. The counter has 32 bits, so in fewer than `2^32`
further snapshots the number does not come back (`restoreSnapshot_of_created`),
whatever is written or restored in between.
-/

namespace Actuator.Executor

open Actuator.Lib

variable {D : Type} [CxxDouble D]

namespace VariableManager

/-! ## Reading the schedule -/

/-- What `loadFromScheduleConfig` sets for the satellite it was asked for. `value` may throw, and the language leaves open
whether the key of its assignment is entered before. -/
def loadSatellite (keyFirst : Bool) (satelliteId : Str) (sat : Json D) : Effect (VariableManager D) Exn Unit := do
  Effect.modify fun vm => vm.set (lit "satellite_id") (.string satelliteId) .global
  Effect.modify fun vm =>
    if keyFirst && !vm.globalVars.contains (lit "node_id") then vm.set (lit "node_id") .unknown .global else vm
  let nodeId ← Effect.readThrowing fun _ => sat.value Json.getString (lit "node_id") []
  Effect.modify fun vm => vm.set (lit "node_id") (.string nodeId) .global
  match sat.find? (lit "scheduled_tasks") with
  | some tasks =>
    let count := Int32.ofInt tasks.elements.length
    Effect.modify fun vm => vm.set (lit "my_scheduled_task_count") (.int count) .global
  | none => pure ()

/-- The loop over `satellites`, up to the first with the id. -/
def loadSatellites (keyFirst : Bool) (satelliteId : Str) : List (Json D) → Effect (VariableManager D) Exn Unit
  | [] => pure ()
  | sat :: rest => do
    let id ← Effect.readThrowing fun _ => sat.value Json.getString (lit "satellite_id") []
    if id = satelliteId then loadSatellite keyFirst satelliteId sat else loadSatellites keyFirst satelliteId rest

/-- `loadFromScheduleConfig`, with what opening and parsing the file gives. -/
def loadFromScheduleConfig (keyFirst : Bool) (config : Except Exn (Json D)) (satelliteId : Str) :
    Effect (VariableManager D) Exn Unit := do
  let config ← Effect.readThrowing fun _ => config
  match config.find? (lit "satellites") with
  | some satellites =>
    if satelliteId.isEmpty then pure () else loadSatellites keyFirst satelliteId satellites.elements
  | none => pure ()

/-! ## Runs -/

/-- A call that writes the store, takes a snapshot or restores one. -/
inductive Operation (D : Type) where
  | set (name : Str) (value : VariableValue D) (scope : Scope)
  | clearScope (scope : Scope)
  | setFromParams (params : OrdMap Str Str) (scope : Scope)
  | loadFromScheduleConfig (keyFirst : Bool) (config : Except Exn (Json D)) (satelliteId : Str)
  | createSnapshot
  | restoreSnapshot (snapshotId : Str)

def Operation.creates : Operation D → Bool
  | createSnapshot => true
  | _ => false

def perform (vm : VariableManager D) : Operation D → VariableManager D
  | .set name value scope => vm.set name value scope
  | .clearScope scope => vm.clearScope scope
  | .setFromParams params scope => vm.setFromParams params scope
  | .loadFromScheduleConfig keyFirst config satelliteId => (vm.loadFromScheduleConfig keyFirst config satelliteId).2
  | .createSnapshot => vm.createSnapshot.2
  | .restoreSnapshot snapshotId => (vm.restoreSnapshot snapshotId).2

/-- The ids that the snapshots of a run get. -/
def createdIds : VariableManager D → List (Operation D) → List Str
  | _, [] => []
  | vm, operation :: rest =>
    (if operation.creates then [vm.createSnapshot.1] else []) ++ createdIds (vm.perform operation) rest

/-! ## What keeps the snapshots -/

/-- The part of the store that restoring depends on. -/
def saved (vm : VariableManager D) : OrdMap Str (VariableSnapshot D) × UInt32 := (vm.snapshots, vm.snapshotCounter)

omit [CxxDouble D] in
theorem set_saved (vm : VariableManager D) (name : Str) (value : VariableValue D) (scope : Scope) :
    (vm.set name value scope).saved = vm.saved := by
  cases scope <;> rfl

omit [CxxDouble D] in
theorem loadFromScheduleConfig_saved (keyFirst : Bool) (config : Except Exn (Json D)) (satelliteId : Str) :
    Effect.Keeps (Effect.SameOn saved) (loadFromScheduleConfig keyFirst config satelliteId) := by
  have satellite : ∀ sat : Json D, Effect.Keeps (Effect.SameOn saved) (loadSatellite keyFirst satelliteId sat) := by
    intro sat
    unfold loadSatellite
    refine (Effect.keeps_modify fun vm => set_saved vm _ _ _).bind fun _ => ?_
    refine Effect.Keeps.bind (Effect.keeps_modify fun vm => ?_) fun _ => ?_
    · split
      · exact set_saved vm _ _ _
      · rfl
    refine (Effect.keeps_readThrowing _).bind fun nodeId => ?_
    refine (Effect.keeps_modify fun vm => set_saved vm _ _ _).bind fun _ => ?_
    split
    · exact Effect.keeps_modify fun vm => set_saved vm _ _ _
    · exact Effect.keeps_pure ()
  have satellites : ∀ sats : List (Json D), Effect.Keeps (Effect.SameOn saved) (loadSatellites keyFirst satelliteId sats) := by
    intro sats
    induction sats with
    | nil => exact Effect.keeps_pure ()
    | cons sat rest ih =>
      unfold loadSatellites
      exact (Effect.keeps_readThrowing _).bind fun id => .ite (fun _ => satellite sat) fun _ => ih
  unfold loadFromScheduleConfig
  refine (Effect.keeps_readThrowing _).bind fun config => ?_
  split
  · exact .ite (fun _ => Effect.keeps_pure ()) fun _ => satellites _
  · exact Effect.keeps_pure ()

/-- Only a new snapshot changes the snapshots or the counter. -/
theorem perform_saved (vm : VariableManager D) {operation : Operation D} (other : operation.creates = false) :
    (vm.perform operation).saved = vm.saved := by
  cases operation with
  | set name value scope => exact set_saved vm name value scope
  | clearScope scope => cases scope <;> rfl
  | setFromParams params scope => exact setFromParams_keeps saved (fun vm name value => set_saved vm name value scope) vm params
  | loadFromScheduleConfig keyFirst config satelliteId => exact loadFromScheduleConfig_saved keyFirst config satelliteId vm
  | createSnapshot => cases other
  | restoreSnapshot snapshotId =>
    show (vm.restoreSnapshot snapshotId).2.saved = vm.saved
    unfold restoreSnapshot
    cases vm.snapshots.find? snapshotId with
    | none => rfl
    | some snapshot => rfl

/-! ## Numbers that do not come back -/

theorem generateSnapshotId_injective {counter counter' : UInt32}
    (same : generateSnapshotId counter = generateSnapshotId counter') : counter = counter' := by
  have digits : natToString counter.toNat = natToString counter'.toNat := List.append_cancel_left same
  have number := congrArg digitsValue digits
  rw [digitsValue_natToString, digitsValue_natToString] at number
  exact UInt32.toNat_inj.1 number

/-- `count` snapshots were taken since the one with the number, which is still there. -/
structure Kept (number : UInt32) (snapshot : VariableSnapshot D) (count : Nat) (vm : VariableManager D) : Prop where
  found : vm.snapshots.find? (generateSnapshotId number) = some snapshot
  counter : vm.snapshotCounter = number + UInt32.ofNat count

variable {number : UInt32} {snapshot : VariableSnapshot D} {count : Nat} {vm : VariableManager D}

omit [CxxDouble D] in
/-- The next number is another one. -/
theorem Kept.fresh (kept : Kept number snapshot count vm) (few : count + 1 < 4294967296) :
    generateSnapshotId number ≠ vm.createSnapshot.1 := by
  intro same
  have equal : number = vm.snapshotCounter + 1 := generateSnapshotId_injective same
  rw [kept.counter, ← UInt32.toNat_inj] at equal
  have small : number.toNat < 4294967296 := number.toNat_lt
  simp only [UInt32.toNat_add, UInt32.toNat_ofNat, UInt32.toNat_ofNat'] at equal
  omega

omit [CxxDouble D] in
theorem Kept.createSnapshot (kept : Kept number snapshot count vm) (few : count + 1 < 4294967296) :
    Kept number snapshot (count + 1) vm.createSnapshot.2 where
  found := (OrdMap.find?_insert_of_ne _ _ (kept.fresh few)).trans kept.found
  counter := by
    show vm.snapshotCounter + 1 = _
    rw [kept.counter, UInt32.add_assoc, UInt32.ofNat_add]
    rfl

theorem Kept.perform (kept : Kept number snapshot count vm) {operation : Operation D} (other : operation.creates = false) :
    Kept number snapshot count (vm.perform operation) := by
  have same := perform_saved vm other
  exact ⟨(congrArg (·.1.find? (generateSnapshotId number)) same).trans kept.found,
    (congrArg (·.2) same).trans kept.counter⟩

/-- Over any run with few enough snapshots this one stays, and its number is not given again. -/
theorem Kept.run (operations : List (Operation D)) (kept : Kept number snapshot count vm)
    (few : count + operations.countP Operation.creates < 4294967296) :
    Kept number snapshot (count + operations.countP Operation.creates) (operations.foldl VariableManager.perform vm) ∧
      generateSnapshotId number ∉ createdIds vm operations := by
  induction operations generalizing count vm with
  | nil => exact ⟨kept, List.not_mem_nil⟩
  | cons operation rest ih =>
    rw [List.countP_cons] at few ⊢
    unfold createdIds
    cases creates : operation.creates with
    | true =>
      rw [creates, if_pos rfl] at few
      have same : vm.perform operation = vm.createSnapshot.2 := by
        cases operation <;> first | rfl | cases creates
      obtain ⟨stays, later⟩ := ih (kept.createSnapshot (by omega)) (by omega)
      rw [if_pos rfl, if_pos rfl, List.foldl_cons, same, ← Nat.add_assoc, Nat.add_right_comm]
      refine ⟨stays, fun mem => ?_⟩
      rcases List.mem_append.1 mem with new | behind
      · exact kept.fresh (by omega) (List.mem_singleton.1 new)
      · exact later behind
    | false =>
      rw [creates, if_neg Bool.false_ne_true] at few
      rw [if_neg Bool.false_ne_true, if_neg Bool.false_ne_true]
      exact ih (kept.perform creates) few

omit [CxxDouble D] in
theorem kept_createSnapshot (vm : VariableManager D) :
    Kept (vm.snapshotCounter + 1) {
      snapshotId := vm.createSnapshot.1, globalVars := vm.globalVars, localVars := vm.localVars
      intermediateVars := vm.intermediateVars } 0 vm.createSnapshot.2 where
  found := find?_createSnapshot vm
  counter := (UInt32.add_zero _).symm

theorem createdIds_nodup (vm : VariableManager D) (operations : List (Operation D))
    (few : operations.countP Operation.creates ≤ 4294967296) : (createdIds vm operations).Nodup := by
  induction operations generalizing vm with
  | nil => exact List.nodup_nil
  | cons operation rest ih =>
    rw [List.countP_cons] at few
    unfold createdIds
    have later := ih (vm.perform operation) (by omega)
    cases creates : operation.creates with
    | true =>
      have same : vm.perform operation = vm.createSnapshot.2 := by
        cases operation <;> first | rfl | cases creates
      rw [creates, if_pos rfl] at few
      rw [if_pos rfl, same]
      rw [same] at later
      exact List.nodup_cons.2 ⟨((kept_createSnapshot vm).run rest (by omega)).2, later⟩
    | false =>
      rw [if_neg Bool.false_ne_true]
      exact later

/-- A snapshot restores the three maps as they were when it was taken, after any operations with fewer than `2^32`
snapshots among them, and no two of the snapshots have the same id. -/
theorem restoreSnapshot_of_created (vm : VariableManager D) (operations : List (Operation D))
    (few : operations.countP Operation.creates < 4294967296) :
    ((operations.foldl perform vm.createSnapshot.2).restoreSnapshot vm.createSnapshot.1).1 = true ∧
    ((operations.foldl perform vm.createSnapshot.2).restoreSnapshot vm.createSnapshot.1).2.globalVars = vm.globalVars ∧
    ((operations.foldl perform vm.createSnapshot.2).restoreSnapshot vm.createSnapshot.1).2.localVars = vm.localVars ∧
    ((operations.foldl perform vm.createSnapshot.2).restoreSnapshot vm.createSnapshot.1).2.intermediateVars =
      vm.intermediateVars ∧
    (createdIds vm (.createSnapshot :: operations)).Nodup := by
  obtain ⟨kept, _⟩ := (kept_createSnapshot vm).run operations (by omega)
  have restored : (operations.foldl perform vm.createSnapshot.2).restoreSnapshot vm.createSnapshot.1 =
      (true, { operations.foldl perform vm.createSnapshot.2 with
        globalVars := vm.globalVars, localVars := vm.localVars, intermediateVars := vm.intermediateVars }) := by
    unfold restoreSnapshot
    rw [show vm.createSnapshot.1 = generateSnapshotId (vm.snapshotCounter + 1) from rfl, kept.found]
  rw [restored]
  refine ⟨rfl, rfl, rfl, rfl, createdIds_nodup vm _ ?_⟩
  rw [List.countP_cons]
  split <;> omega

/-- The first snapshot is restored behind a write, a second snapshot and a restore of that one. -/
theorem restoreSnapshot_of_created_sample :
    let vm : VariableManager FixedPoint := ({} : VariableManager FixedPoint).set (lit "POS_X") (.int 7) .global
    let later := [Operation.set (lit "POS_X") (.bool true) .global, .createSnapshot, .clearScope .global,
      .restoreSnapshot (lit "snapshot_2")].foldl perform vm.createSnapshot.2
    vm.createSnapshot.1 = lit "snapshot_1" ∧ later.globalVars ≠ vm.globalVars ∧
      (later.restoreSnapshot vm.createSnapshot.1).2.globalVars = vm.globalVars := by
  refine ⟨by decide, by decide, ?_⟩
  exact (restoreSnapshot_of_created (({} : VariableManager FixedPoint).set (lit "POS_X") (.int 7) .global)
    [Operation.set (lit "POS_X") (.bool true) .global, .createSnapshot, .clearScope .global,
      .restoreSnapshot (lit "snapshot_2")] (by decide)).2.1

end VariableManager

end Actuator.Executor
