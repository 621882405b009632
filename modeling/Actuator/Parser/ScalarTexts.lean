import Actuator.Coordinator.TaskMessages
import Actuator.Lib.Decimal
import Actuator.Lib.JsonText
import Actuator.Parser.ScheduleParser

/-!
# Scalars as texts

The schedule parser, the coordinator and the satellite simulator each have their
own function that turns a JSON scalar into a text. They test for the types in
the same order, except that the parser has a test for unsigned numbers, which an
earlier test covers. They differ in the width of an integer: 64 bits in the
parser and 32 in the other two. So the texts agree, and are the number, exactly
for the integers of an `int`.
-/

namespace Actuator.Parser

open Actuator.Lib Actuator.Core Actuator.Coordinator

variable {D : Type}

/-- A scalar as the JSON library stores it: an integer with a sign or without. -/
inductive StoredScalar (D : Type) where
  | string (s : Str)
  | boolean (b : Bool)
  | numberInteger (v : Int64)
  | numberUnsigned (v : UInt64)
  | numberFloat (x : D)

namespace StoredScalar

/-! ## The library's tests

Each gives what is stored, or `none` when the value is of another type. -/

/-- `is_string`. -/
def string? : StoredScalar D → Option Str
  | string s => some s
  | _ => none

/-- `is_number_integer`, which is true of unsigned numbers too. -/
def numberInteger? : StoredScalar D → Option Int
  | numberInteger v => some v.toInt
  | numberUnsigned v => some v.toNat
  | _ => none

/-- `is_number_unsigned`. -/
def numberUnsigned? : StoredScalar D → Option Int
  | numberUnsigned v => some v.toNat
  | _ => none

/-- `is_number_float`. -/
def numberFloat? : StoredScalar D → Option D
  | numberFloat x => some x
  | _ => none

/-- `is_boolean`. -/
def boolean? : StoredScalar D → Option Bool
  | boolean b => some b
  | _ => none

/-- The document the scalar is. -/
def toJson : StoredScalar D → Json D
  | string s => .string s
  | boolean b => .bool b
  | numberInteger v => .int v.toInt
  | numberUnsigned v => .int v.toNat
  | numberFloat x => .float x

/-! ## The three conversions -/

section Conversions

variable [CxxDouble D]

/-- `std::to_string` of the number as an `unsigned long long`. -/
def unsignedLongLongToString (n : Int) : Str := lit (toString (UInt64.ofInt n).toNat)

def floatText (x : D) : Str := lit (CxxDouble.toStream x)

def boolText (b : Bool) : Str := if b then lit "true" else lit "false"

/-- `jsonScalarToString` of the parser. -/
def jsonScalarToString (value : StoredScalar D) : Option Str :=
  value.string? <|>
  value.numberInteger?.map longLongToString <|>
  value.numberUnsigned?.map unsignedLongLongToString <|>
  value.numberFloat?.map floatText <|>
  value.boolean?.map boolText

/-- The two functions called `jsonValueToString`, whose bodies are the same. -/
def valueToString (json : JsonLibrary D) (value : StoredScalar D) : Except Str Str :=
  let text :=
    value.string? <|>
    value.numberInteger?.map (fun n => intToString (Int32.ofInt n)) <|>
    value.numberFloat?.map floatText <|>
    value.boolean?.map boolText
  match text with
  | some text => .ok text
  | none => json.dump value.toJson

/-- `jsonValueToString` of the coordinator. -/
def coordinatorValueToString (json : JsonLibrary D) (value : StoredScalar D) : Except Str Str := valueToString json value

/-- `jsonValueToString` of the satellite simulator. -/
def simulatorValueToString (json : JsonLibrary D) (value : StoredScalar D) : Except Str Str := valueToString json value

end Conversions

/-! ## Against the conversions of documents -/

section Documents

/-- The test for unsigned numbers is never reached: the one for integers is true of them. -/
theorem numberInteger?_of_unsigned {value : StoredScalar D} {n : Int} (stored : value.numberUnsigned? = some n) :
    value.numberInteger? = some n := by
  cases value with
  | numberUnsigned v => exact stored
  | _ => cases stored

variable [CxxDouble D]

/-- On the stored scalar the parser's conversion is that of the document. -/
theorem jsonScalarToString_toJson (value : StoredScalar D) :
    value.jsonScalarToString = Parser.jsonScalarToString value.toJson := by
  cases value <;> rfl

/-- So is that of the other two. -/
theorem valueToString_toJson (json : JsonLibrary D) (value : StoredScalar D) :
    value.valueToString json = jsonValueToString json value.toJson := by
  cases value <;> rfl

end Documents

/-! ## Where they agree -/

section Agreement

/-- An integer has one decimal text. -/
theorem decimal_inj {m n : Int} (same : lit (toString m) = lit (toString n)) : m = n := by
  have read := congrArg (fun text => (Decimal.strtod text).1) same
  simp only [Decimal.strtod_int] at read
  exact_mod_cast read

/-- An integer that is stored is one of 64 bits, with a sign or without. -/
theorem numberInteger?_range {value : StoredScalar D} {n : Int} (stored : value.numberInteger? = some n) :
    -2 ^ 63 ≤ n ∧ n < 2 ^ 64 := by
  cases value with
  | numberInteger v =>
    cases stored
    have low := v.le_toInt
    have high := v.toInt_lt
    omega
  | numberUnsigned v =>
    cases stored
    have high := v.toNat_lt
    omega
  | _ => cases stored

/-- As an `int` a number keeps its decimal text exactly when it is one. -/
theorem intToString_exact (n : Int) : intToString (Int32.ofInt n) = lit (toString n) ↔ InIntRange n := by
  unfold intToString
  constructor
  · intro same
    have exact' := decimal_inj same
    have low := (Int32.ofInt n).le_toInt
    have high := (Int32.ofInt n).toInt_lt
    rw [exact'] at low high
    unfold InIntRange
    omega
  · rintro ⟨low, high⟩
    rw [Int32.toInt_ofInt_of_le (by omega) (by omega)]

/-- As a `long long` it keeps its text exactly when it is below `2 ^ 63`. -/
theorem longLongToString_exact {n : Int} (low : -2 ^ 63 ≤ n) : longLongToString n = lit (toString n) ↔ n < 2 ^ 63 := by
  unfold longLongToString
  constructor
  · intro same
    have exact' := decimal_inj same
    have high := (Int64.ofInt n).toInt_lt
    rw [exact'] at high
    exact high
  · intro high
    rw [Int64.toInt_ofInt_of_le low high]

variable [CxxDouble D] (json : JsonLibrary D)

/-- What the conversions make of an integer. -/
theorem conversions_integer {value : StoredScalar D} {n : Int} (stored : value.numberInteger? = some n) :
    value.jsonScalarToString = some (longLongToString n) ∧
      value.valueToString json = .ok (intToString (Int32.ofInt n)) := by
  cases value with
  | numberInteger v => cases stored; exact ⟨rfl, rfl⟩
  | numberUnsigned v => cases stored; exact ⟨rfl, rfl⟩
  | _ => cases stored

/-- What is no integer has one text. -/
theorem conversions_other {value : StoredScalar D} (other : value.numberInteger? = none) :
    ∃ text, value.jsonScalarToString = some text ∧ value.valueToString json = .ok text := by
  cases value with
  | string s => exact ⟨s, rfl, rfl⟩
  | boolean b => exact ⟨boolText b, rfl, rfl⟩
  | numberFloat x => exact ⟨floatText x, rfl, rfl⟩
  | _ => cases other

/-- The three texts are one, and that of an integer is its decimal text, exactly when an integer is in the range of
`int`. -/
theorem conversions_agree_iff (value : StoredScalar D) :
    (∃ text, value.jsonScalarToString = some text ∧ value.coordinatorValueToString json = .ok text ∧
      value.simulatorValueToString json = .ok text ∧ ∀ n, value.numberInteger? = some n → text = lit (toString n)) ↔
    ∀ n, value.numberInteger? = some n → InIntRange n := by
  cases stored : value.numberInteger? with
  | none =>
    obtain ⟨text, scalar, converted⟩ := conversions_other json stored
    exact ⟨fun _ => nofun, fun _ => ⟨text, scalar, converted, converted, nofun⟩⟩
  | some n =>
    obtain ⟨scalar, converted⟩ := conversions_integer json stored
    constructor
    · rintro ⟨text, -, sent, -, decimal⟩ m same
      cases Option.some.inj same
      have text_eq : intToString (Int32.ofInt n) = text := Except.ok.inj (converted.symm.trans sent)
      exact (intToString_exact n).1 (text_eq.trans (decimal n rfl))
    · intro range
      have narrow := (intToString_exact n).2 (range n rfl)
      have low := (numberInteger?_range stored).1
      have wide : longLongToString n = lit (toString n) := by
        have high := (range n rfl).2
        exact (longLongToString_exact low).2 (by omega)
      refine ⟨lit (toString n), ?_, ?_, ?_, ?_⟩
      · rw [scalar, wide]
      · exact converted.trans (congrArg _ narrow)
      · exact converted.trans (congrArg _ narrow)
      · intro m same
        rw [Option.some.inj same]

/-- `3000000000` is a text of its own in the parser and `-1294967296` in the other two; `2 ^ 63` is negative in the
parser and zero in the other two. -/
theorem conversions_part :
    let json := JsonText.library
    let big : StoredScalar FixedPoint := .numberInteger 3000000000
    let bigger : StoredScalar FixedPoint := .numberUnsigned 9223372036854775808
    big.jsonScalarToString = some (lit "3000000000") ∧ big.coordinatorValueToString json = .ok (lit "-1294967296") ∧
      big.simulatorValueToString json = .ok (lit "-1294967296") ∧
      bigger.jsonScalarToString = some (lit "-9223372036854775808") ∧
      bigger.coordinatorValueToString json = .ok (lit "0") := by
  decide +kernel

end Agreement

end StoredScalar

end Actuator.Parser
