import Actuator.Lib.Double
import Actuator.Lib.OrdMap

/-!
# The variable store

Three maps of variables, looked up in the order LOCAL, INTERMEDIATE, GLOBAL,
and the snapshots taken of them. The laws below say what each operation does to
each map, so that later proofs need not open the operations.
-/

namespace Actuator.Executor

open Actuator.Lib

variable {D : Type}

/-- A `std::exception`, by its text. -/
abbrev Exn := Str

/-- `VariableValue`: a tagged value. The members the tag does not select are never read. -/
inductive VariableValue (D : Type) where
  | int (v : Int32)
  | double (v : D)
  | string (v : Str)
  | bool (v : Bool)
  | unknown
deriving DecidableEq

namespace VariableValue

def asInt [CxxDouble D] : VariableValue D → Except Exn Int32
  | int v => .ok v
  | double v => .ok (CxxDouble.toInt v)
  | bool v => .ok (if v then 1 else 0)
  | string v =>
    match stoi v with
    | some (n, _) => .ok n
    | none => .error (lit "Cannot convert string '" ++ v ++ lit "' to int")
  | unknown => .error (lit "Cannot convert to int")

def asDouble [CxxDouble D] : VariableValue D → Except Exn D
  | double v => .ok v
  | int v => .ok (CxxDouble.ofInt v)
  | _ => .error (lit "Cannot convert to double")

def asString [CxxDouble D] : VariableValue D → Str
  | string v => v
  | int v => intToString v
  | double v => CxxDouble.toText v
  | bool v => if v then lit "true" else lit "false"
  | unknown => []

def asBool : VariableValue D → Except Exn Bool
  | bool v => .ok v
  | int v => .ok (v ≠ 0)
  | string v => .ok (!v.isEmpty)
  | _ => .error (lit "Cannot convert to bool")

end VariableValue

/-- `Scope`. -/
inductive Scope where
  | global
  | loc
  | intermediate
deriving DecidableEq

abbrev VarMap (D : Type) := OrdMap Str (VariableValue D)

structure VariableSnapshot (D : Type) where
  snapshotId : Str
  globalVars : VarMap D
  localVars : VarMap D
  intermediateVars : VarMap D

structure VariableManager (D : Type) where
  globalVars : VarMap D := OrdMap.empty
  localVars : VarMap D := OrdMap.empty
  intermediateVars : VarMap D := OrdMap.empty
  snapshots : OrdMap Str (VariableSnapshot D) := OrdMap.empty
  snapshotCounter : UInt32 := 0

/-- `true`, `TRUE` or `True`. -/
def isTrueWord (s : Str) : Bool := s = lit "true" || s = lit "TRUE" || s = lit "True"

/-- `false`, `FALSE` or `False`. -/
def isFalseWord (s : Str) : Bool := s = lit "false" || s = lit "FALSE" || s = lit "False"

namespace VariableManager

/-- `getScopeMap`, read. -/
def getScopeMap (vm : VariableManager D) : Scope → VarMap D
  | .global => vm.globalVars
  | .loc => vm.localVars
  | .intermediate => vm.intermediateVars

/-- `getScopeMap`, written through the reference it returns. -/
def setScopeMap (vm : VariableManager D) (scope : Scope) (m : VarMap D) : VariableManager D :=
  match scope with
  | .global => { vm with globalVars := m }
  | .loc => { vm with localVars := m }
  | .intermediate => { vm with intermediateVars := m }

def set (vm : VariableManager D) (name : Str) (value : VariableValue D) (scope : Scope) : VariableManager D :=
  vm.setScopeMap scope ((vm.getScopeMap scope).insert name value)

/-- The value found under a name, in lookup order. -/
def lookup (vm : VariableManager D) (name : Str) : Option (VariableValue D) :=
  match vm.localVars.find? name with
  | some v => some v
  | none =>
    match vm.intermediateVars.find? name with
    | some v => some v
    | none => vm.globalVars.find? name

def get (vm : VariableManager D) (name : Str) : Except Exn (VariableValue D) :=
  match vm.lookup name with
  | some v => .ok v
  | none => .error (lit "Variable not found: " ++ name)

def exists? (vm : VariableManager D) (name : Str) : Bool :=
  vm.localVars.contains name || vm.intermediateVars.contains name || vm.globalVars.contains name

def clearScope (vm : VariableManager D) (scope : Scope) : VariableManager D := vm.setScopeMap scope OrdMap.empty

def clearLocal (vm : VariableManager D) : VariableManager D := vm.clearScope .loc

/-- The value a parameter text becomes: an `int`, a `double` or a truth word if all of it is one. -/
def valueOfParam [CxxDouble D] (text : Str) : VariableValue D :=
  match stoi text with
  | some (n, pos) => if pos = text.length then .int n else orDouble
  | none => orDouble
where
  orDouble : VariableValue D :=
    match (CxxDouble.stod text : Option (D × Nat)) with
    | some (x, pos) => if pos = text.length then .double x else orWord
    | none => orWord
  orWord : VariableValue D :=
    if isTrueWord text then .bool true
    else if isFalseWord text then .bool false
    else .string text

def setFromParams [CxxDouble D] (vm : VariableManager D) (params : OrdMap Str Str) (scope : Scope) : VariableManager D :=
  params.entries.foldl (fun vm pair => vm.set pair.1 (valueOfParam pair.2) scope) vm

def generateSnapshotId (counter : UInt32) : Str := lit "snapshot_" ++ natToString counter.toNat

def createSnapshot (vm : VariableManager D) : Str × VariableManager D :=
  let counter := vm.snapshotCounter + 1
  let snapshotId := generateSnapshotId counter
  let snapshot : VariableSnapshot D := {
    snapshotId, globalVars := vm.globalVars, localVars := vm.localVars, intermediateVars := vm.intermediateVars }
  (snapshotId, { vm with snapshots := vm.snapshots.insert snapshotId snapshot, snapshotCounter := counter })

def restoreSnapshot (vm : VariableManager D) (snapshotId : Str) : Bool × VariableManager D :=
  match vm.snapshots.find? snapshotId with
  | none => (false, vm)
  | some snapshot =>
    (true, { vm with
      globalVars := snapshot.globalVars, localVars := snapshot.localVars,
      intermediateVars := snapshot.intermediateVars })

/-! ## Looking up -/

theorem exists?_eq (vm : VariableManager D) (name : Str) : vm.exists? name = (vm.lookup name).isSome := by
  simp only [exists?, lookup, OrdMap.contains]
  cases vm.localVars.find? name <;> cases vm.intermediateVars.find? name <;> simp

theorem get_of_lookup {vm : VariableManager D} {name : Str} {v : VariableValue D} (found : vm.lookup name = some v) :
    vm.get name = .ok v := by
  simp [get, found]

theorem get_ok_iff (vm : VariableManager D) (name : Str) (v : VariableValue D) :
    vm.get name = .ok v ↔ vm.lookup name = some v := by
  unfold get
  cases vm.lookup name <;> simp

theorem lookup_of_local {vm : VariableManager D} {name : Str} {v : VariableValue D}
    (held : vm.localVars.find? name = some v) : vm.lookup name = some v := by
  unfold lookup
  rw [held]

/-! ## What an operation leaves alone -/

@[simp] theorem set_snapshots (vm : VariableManager D) (name : Str) (value : VariableValue D) (scope : Scope) :
    (vm.set name value scope).snapshots = vm.snapshots := by
  cases scope <;> rfl

theorem set_find?_local {vm : VariableManager D} {v name : Str} {value : VariableValue D} {scope : Scope}
    (other : ¬(name = v ∧ scope = .loc)) : (vm.set name value scope).localVars.find? v = vm.localVars.find? v := by
  cases scope with
  | loc =>
    apply OrdMap.find?_insert_of_ne
    intro same
    exact other ⟨same.symm, rfl⟩
  | global => rfl
  | intermediate => rfl

/-- A part of the store that no `set` in a scope changes is not changed by `setFromParams` there. -/
theorem setFromParams_keeps [CxxDouble D] {α : Type} (part : VariableManager D → α) {scope : Scope}
    (keeps : ∀ vm name value, part (vm.set name value scope) = part vm) (vm : VariableManager D)
    (params : OrdMap Str Str) : part (vm.setFromParams params scope) = part vm := by
  unfold setFromParams
  induction params.entries generalizing vm with
  | nil => rfl
  | cons pair pairs ih =>
    rw [List.foldl_cons, ih]
    exact keeps vm _ _

/-- The parameters become local variables, before those that were there. -/
theorem find?_setFromParams_or [CxxDouble D] (vm : VariableManager D) (params : OrdMap Str Str) (key : Str) :
    (vm.setFromParams params .loc).localVars.find? key =
      ((params.find? key).map valueOfParam).or (vm.localVars.find? key) := by
  have run : ∀ (l : List (Str × Str)) (vm : VariableManager D),
      (l.foldl (fun vm pair => vm.set pair.1 (valueOfParam pair.2) .loc) vm).localVars =
        vm.localVars.insertAll (l.map fun pair => (pair.1, valueOfParam pair.2)) := by
    intro l
    induction l with
    | nil => exact fun _ => rfl
    | cons pair l ih => exact fun vm => ih _
  unfold setFromParams
  rw [run, ← OrdMap.find?_mapValues]
  exact OrdMap.find?_insertAll vm.localVars (params.mapValues valueOfParam) key

/-- A parameter becomes a local variable. -/
theorem find?_setFromParams [CxxDouble D] (vm : VariableManager D) {params : OrdMap Str Str} {key text : Str}
    (found : params.find? key = some text) :
    (vm.setFromParams params .loc).localVars.find? key = some (valueOfParam text) := by
  rw [find?_setFromParams_or, found]
  rfl

/-! ## Snapshots -/

/-- A snapshot just taken holds the three maps. -/
theorem find?_createSnapshot (vm : VariableManager D) :
    vm.createSnapshot.2.snapshots.find? vm.createSnapshot.1 = some {
      snapshotId := vm.createSnapshot.1, globalVars := vm.globalVars, localVars := vm.localVars
      intermediateVars := vm.intermediateVars } := by
  unfold createSnapshot
  exact OrdMap.find?_insert_self _ _ _

theorem restoreSnapshot_snapshots (vm : VariableManager D) (snapshotId : Str) :
    (vm.restoreSnapshot snapshotId).2.snapshots = vm.snapshots := by
  unfold restoreSnapshot
  cases vm.snapshots.find? snapshotId
  · rfl
  · rfl

theorem restoreSnapshot_of_find? {vm : VariableManager D} {snapshotId : Str} {snapshot : VariableSnapshot D}
    (found : vm.snapshots.find? snapshotId = some snapshot) :
    (vm.restoreSnapshot snapshotId).2 = { vm with
      globalVars := snapshot.globalVars, localVars := snapshot.localVars
      intermediateVars := snapshot.intermediateVars } := by
  unfold restoreSnapshot
  rw [found]

end VariableManager

end Actuator.Executor
