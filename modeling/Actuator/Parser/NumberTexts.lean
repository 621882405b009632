import Actuator.Coordinator.TaskMessageRoundTrip
import Actuator.Executor.VariableManager
import Actuator.Lib.Decimal
import Actuator.Parser.ScheduleParser

/-!
# Numbers as texts

A number of the input becomes a text when its file is parsed, and a variable
when a task starts. With floating-point numbers taken as exact decimals, the
variable holds the number of the input exactly when that is a whole number in
the range of `long long` or has at most six significant digits.
-/

namespace Actuator.Parser

open Actuator.Lib Actuator.Core Actuator.Coordinator
open Actuator.Executor (VariableValue VariableManager)
open Actuator.Executor.VariableManager (valueOfParam)
open Actuator.Lib.Decimal (strtod roundSix toText InDoubleRange SixDigits)

section Parsing

variable {D : Type} [CxxDouble D]

/-- The texts made of some members of an object, by key. -/
def collected (text : Json D → Option Str) (members : List (Str × Json D)) : StrMap :=
  OrdMap.ofList (members.filterMap fun member => (text member.2).map (member.1, ·))

/-- `parseVariables`: the initial values. A plain list of names has none. -/
def parseVariables : Json D → StrMap
  | .object members => collected (fun declaration => declaration.find? (lit "init") >>= jsonScalarToString) members
  | _ => OrdMap.empty

/-- `parseConstants`: a constant is a scalar, or an object with its value. -/
def parseConstants : Json D → StrMap
  | .object members =>
    collected (fun constantDef =>
      match constantDef.find? (lit "value") with
      | some value => jsonScalarToString value
      | none => jsonScalarToString constantDef) members
  | _ => OrdMap.empty

omit [CxxDouble D] in
theorem find?_collected {text : Json D → Option Str} {m : OrdMap Str (Json D)} {key s : Str} {j : Json D}
    (found : m.find? key = some j) (made : text j = some s) : (collected text m.entries).find? key = some s := by
  have keys : (m.entries.filterMap fun member => (text member.2).map (member.1, ·)).map Prod.fst =
      (m.entries.filter fun member => (text member.2).isSome).map Prod.fst := by
    induction m.entries with
    | nil => rfl
    | cons e l ih =>
      cases eq : text e.2 with
      | none => simpa [eq] using ih
      | some s => simpa [eq] using ih
  apply OrdMap.find?_ofList_of_mem
  · rw [keys]
    exact (List.filter_sublist.map _).nodup m.nodup_keys
  · refine List.mem_filterMap.2 ⟨(key, j), OrdMap.mem_entries.2 found, ?_⟩
    rw [made]
    rfl

end Parsing

/-- How a number gets into a map of texts that `setFromParams` reads: as the initial value of a variable, as a
constant, or as a parameter of a task, which is sent to its satellite first. -/
inductive Arrives (key : Str) (j : Json ℚ) : StrMap → Prop
  | init {vars : OrdMap Str (Json ℚ)} {declaration : Json ℚ} (declared : vars.find? key = some declaration)
      (initial : declaration.find? (lit "init") = some j) : Arrives key j (parseVariables (.ofMap vars))
  | constant {constants : OrdMap Str (Json ℚ)} (scalar : constants.find? key = some j) :
      Arrives key j (parseConstants (.ofMap constants))
  | constantDef {constants : OrdMap Str (Json ℚ)} {constantDef : Json ℚ} (defined : constants.find? key = some constantDef)
      (value : constantDef.find? (lit "value") = some j) : Arrives key j (parseConstants (.ofMap constants))
  | param {params : OrdMap Str (Json ℚ)} (given : params.find? key = some j) {json : JsonLibrary ℚ}
      {msg got : BatchTaskAssignMessage ℚ} (utf8 : msg.Utf8) {i : Nat} {sent received : TaskAssignMessage ℚ}
      (assigned : msg.scheduledTasks[i]? = some sent)
      (parsed : sent.behaviorParams = parseScalarObjectToMap (.ofMap params)) {payload : Str}
      (serialized : serializeBatchTaskAssign json msg = .ok payload) {held : Indeterminate ℚ}
      (read : parseBatchTaskAssignPayload json held payload = some got)
      (arrived : got.scheduledTasks[i]? = some received) : Arrives key j received.behaviorParams

/-- The number a JSON value is. -/
def jsonNumber : Json ℚ → Option ℚ
  | .int n => some n
  | .float x => some x
  | _ => none

/-- The number a variable holds. -/
def heldNumber : VariableValue ℚ → Option ℚ
  | .int n => some n.toInt
  | .double x => some x
  | _ => none

/-- The numbers that survive: whole ones in the range of `long long`, and others of at most six significant digits
that are not too small for a normal `double`. -/
def Survives : Json ℚ → Prop
  | .int n => -2 ^ 63 ≤ n ∧ n < 2 ^ 63
  | .float x => SixDigits x ∧ InDoubleRange x
  | _ => False

theorem heldNumber_orWord (s : Str) : heldNumber (valueOfParam.orWord s) = none := by
  unfold valueOfParam.orWord
  split
  · rfl
  · split <;> rfl

theorem heldNumber_orDouble {s : Str} {x : ℚ} (some : s ≠ []) (reads : strtod s = (x, s.length)) :
    heldNumber (valueOfParam.orDouble s) = if InDoubleRange x then Option.some x else none := by
  have used : s.length ≠ 0 := fun zero => some (List.length_eq_zero_iff.1 zero)
  have stod : (CxxDouble.stod s : Option (ℚ × Nat)) = Decimal.stod s := rfl
  unfold valueOfParam.orDouble
  rw [stod]
  unfold Decimal.stod
  rw [reads]
  by_cases range : InDoubleRange x
  · simp [used, range, heldNumber]
  · simp [range, heldNumber_orWord]

/-- What becomes of a text that is a number from end to end. -/
theorem heldNumber_valueOfParam {s : Str} {x : ℚ} (some : s ≠ []) (reads : strtod s = (x, s.length)) :
    heldNumber (valueOfParam s) = if InDoubleRange x then Option.some x else none := by
  unfold valueOfParam
  cases took : stoi s with
  | none => exact heldNumber_orDouble some reads
  | some pair =>
    obtain ⟨n, pos⟩ := pair
    by_cases whole : pos = s.length
    · subst whole
      have same := reads.symm.trans (Decimal.strtod_of_stoi took)
      obtain ⟨rfl, -⟩ := Prod.mk.inj same
      have low := n.le_toInt
      have high := n.toInt_lt
      have range : InDoubleRange (n.toInt : ℚ) := Decimal.inDoubleRange_int (by omega) (by omega)
      rw [if_pos range]
      simp [heldNumber]
    · simp only [whole, if_false]
      exact heldNumber_orDouble some reads

/-- A whole number is read as its value in the type `long long`. -/
theorem heldNumber_int (n : Int) : heldNumber (valueOfParam (longLongToString n)) = some ((Int64.ofInt n).toInt : ℚ) := by
  have low := (Int64.ofInt n).le_toInt
  have high := (Int64.ofInt n).toInt_lt
  unfold longLongToString
  generalize (Int64.ofInt n).toInt = v at low high ⊢
  have some : lit (toString v) ≠ [] := by
    rw [Decimal.toString_int]
    cases decide (v < 0)
    · exact natToString_ne_nil _
    · exact List.cons_ne_nil _ _
  rw [heldNumber_valueOfParam some (Decimal.strtod_int v), if_pos (Decimal.inDoubleRange_int low high)]

theorem heldNumber_float (x : ℚ) :
    heldNumber (valueOfParam (lit (CxxDouble.toStream x))) = if InDoubleRange (roundSix x) then some (roundSix x) else none := by
  rw [Decimal.lit_toStream]
  exact heldNumber_valueOfParam (Decimal.toText_ne_nil x) (Decimal.strtod_toText x)

/-- The text a number becomes, and what is made of it. -/
theorem survives_iff {j : Json ℚ} {q : ℚ} (number : jsonNumber j = some q) :
    ∃ text, jsonScalarToString j = some text ∧ (heldNumber (valueOfParam text) = some q ↔ Survives j) := by
  cases j with
  | int n =>
    cases number
    refine ⟨_, rfl, ?_⟩
    rw [heldNumber_int]
    constructor
    · intro same
      have exact' : (Int64.ofInt n).toInt = n := by exact_mod_cast Option.some.inj same
      rw [← exact']
      exact ⟨(Int64.ofInt n).le_toInt, (Int64.ofInt n).toInt_lt⟩
    · rintro ⟨low, high⟩
      rw [Int64.toInt_ofInt_of_le low high]
  | float x =>
    cases number
    refine ⟨_, rfl, ?_⟩
    rw [heldNumber_float]
    show _ ↔ SixDigits _ ∧ InDoubleRange _
    rw [← Decimal.roundSix_eq_iff]
    constructor
    · intro held
      by_cases range : InDoubleRange (roundSix q)
      · rw [if_pos range] at held
        have same := Option.some.inj held
        rw [same] at range
        exact ⟨same, range⟩
      · rw [if_neg range] at held
        cases held
    · rintro ⟨same, range⟩
      rw [same, if_pos range]
  | _ => cases number

/-- What `setFromParams` reads of a number. -/
theorem Arrives.text {key : Str} {j : Json ℚ} {texts : StrMap} (arrives : Arrives key j texts) {text : Str}
    (scalar : jsonScalarToString j = some text) : texts.find? key = some text := by
  cases arrives with
  | init declared initial => exact find?_collected declared (by rw [initial]; exact scalar)
  | constant found =>
    refine find?_collected found ?_
    cases j with
    | object members => cases scalar
    | _ => exact scalar
  | constantDef defined value => exact find?_collected defined (by simp only [value, scalar])
  | @param params given json msg got utf8 i sent received assigned parsed payload serialized held read arrived =>
    obtain ⟨payload', dumped, decoded⟩ := parseBatchTaskAssignPayload_serialize json held utf8
    cases Except.ok.inj (serialized.symm.trans dumped)
    cases Option.some.inj (read.symm.trans decoded)
    have same : received = sent.received held := by
      have mapped : (msg.received held).scheduledTasks[i]? = some (sent.received held) := by
        simp only [BatchTaskAssignMessage.received, List.getElem?_map, assigned, Option.map_some]
      exact Option.some.inj (arrived.symm.trans mapped)
    rw [same]
    show sent.behaviorParams.find? key = some text
    rw [parsed]
    exact find?_collected given scalar

/-- The local variable holds the number of the input exactly when that survives. -/
theorem number_arrives_iff {key : Str} {j : Json ℚ} {texts : StrMap} (arrives : Arrives key j texts) {q : ℚ}
    (number : jsonNumber j = some q) (vm : VariableManager ℚ) :
    ((vm.setFromParams texts .loc).localVars.find? key).bind heldNumber = some q ↔ Survives j := by
  obtain ⟨text, scalar, kept⟩ := survives_iff number
  rw [VariableManager.find?_setFromParams vm (arrives.text scalar)]
  exact kept

/-- A constant of `1.75`. -/
theorem number_arrives_iff_sample :
    let constants : OrdMap Str (Json ℚ) := OrdMap.ofList [(lit "limit", .float (175 / 100))]
    let vm : VariableManager ℚ := {}
    ((vm.setFromParams (parseConstants (.ofMap constants)) .loc).localVars.find? (lit "limit")).bind heldNumber =
      some (175 / 100) := by
  intro constants vm
  have arrives : Arrives (lit "limit") (.float (175 / 100)) (parseConstants (.ofMap constants)) := .constant rfl
  exact (number_arrives_iff arrives rfl vm).2 ⟨⟨175, -2, by norm_num, by norm_num⟩, by decide +kernel⟩

/-- `116.391234` and `116.391` become the same value, and `9223372036854775808` loses its sign. -/
theorem longNumbers_altered :
    let params : OrdMap Str (Json ℚ) := OrdMap.ofList [(lit "target_x", .float (116391234 / 1000000)),
      (lit "target_y", .float (116391 / 1000)), (lit "serial", .int (2 ^ 63))]
    let vm : VariableManager ℚ := {}
    let run := vm.setFromParams (parseScalarObjectToMap (.ofMap params)) .loc
    run.localVars.find? (lit "target_x") = some (.double (116391 / 1000)) ∧
      run.localVars.find? (lit "target_y") = some (.double (116391 / 1000)) ∧
      run.localVars.find? (lit "serial") = some (.double (-2 ^ 63)) := by
  decide +kernel

end Actuator.Parser
