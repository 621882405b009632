import Actuator.Constraint.LiteralFirst
import Actuator.Lib.Decimal

/-!
# Comparing with a number

The number on the right of a comparison becomes a `double` if it has a point and
an `int` otherwise, and stays a text if that conversion throws. Then the value on
the left is turned into a text as well, and the bytes of the two texts are
compared. `double` is taken to be exact.
-/

namespace Actuator.Constraint

open Actuator.Lib Actuator.Executor
open Actuator.Lib.Decimal (InDoubleRange withSign stod_decimal)

/-- An optional minus, digits, and maybe a point with digits behind it. -/
inductive NumberLiteral where
  | integer (negative : Bool) (digits : Str)
  | decimal (negative : Bool) (whole fraction : Str)

namespace NumberLiteral

def text : NumberLiteral → Str
  | integer negative digits => signed negative digits
  | decimal negative whole fraction => signed negative (whole ++ ch '.' :: fraction)

def WellFormed : NumberLiteral → Prop
  | integer _ digits => IsDigits digits
  | decimal _ whole fraction => IsDigits whole ∧ IsDigits fraction

/-- The number the literal is written for. -/
def value : NumberLiteral → ℚ
  | integer negative digits => signedValue negative digits
  | decimal negative whole fraction =>
    withSign negative (digitsValue (whole ++ fraction) * 10 ^ (-(fraction.length : ℤ)))

/-- `std::stoi` or `std::stod` accepts the literal. -/
def Converts (l : NumberLiteral) : Prop :=
  match l with
  | integer negative digits => InIntRange (signedValue negative digits)
  | decimal _ _ _ => InDoubleRange l.value

instance decidableConverts (l : NumberLiteral) : Decidable l.Converts := by
  unfold Converts
  cases l <;> infer_instance

end NumberLiteral

/-- The number an `int` or a `double` is. -/
inductive NumberOf : VariableValue ℚ → ℚ → Prop
  | int (n : Int32) : NumberOf (.int n) n.toInt
  | double (x : ℚ) : NumberOf (.double x) x

namespace CompareOp

/-- The comparison of two numbers, where equality allows for less than `1e-9`. -/
def onNumbers (op : CompareOp) (a b : ℚ) : Bool :=
  match op with
  | eq | assign => decide (|a - b| < 1 / 10 ^ 9)
  | ne => decide (1 / 10 ^ 9 ≤ |a - b|)
  | lt => decide (a < b)
  | gt => decide (b < a)
  | le => decide (a ≤ b)
  | ge => decide (b ≤ a)

/-- The comparison of two texts by their bytes. -/
def onTexts (op : CompareOp) (s t : Str) : Bool :=
  match op with
  | eq | assign => s == t
  | ne => !(s == t)
  | lt => decide (s < t)
  | gt => decide (t < s)
  | le => !decide (t < s)
  | ge => !decide (s < t)

end CompareOp

/-! ## The right-hand side -/

/-- What the tokens of a decimal are turned into. -/
theorem operandValue_decimal {vm : VariableManager ℚ} {negative : Bool} {whole fraction : Str}
    (wellFormed : (NumberLiteral.decimal negative whole fraction).WellFormed) {l : NumberLiteral}
    (is : l = .decimal negative whole fraction) :
    operandValue vm (.number l.text) = .ok (if InDoubleRange l.value then .double l.value else .string l.text) := by
  obtain ⟨⟨some, wholeDigits⟩, ⟨-, fractionDigits⟩⟩ := wellFormed
  have point : ch '.' ∈ l.text := by
    rw [is]
    cases negative <;> simp [NumberLiteral.text, signed]
  have read : (CxxDouble.stod l.text : Option (ℚ × Nat)) =
      if InDoubleRange l.value then Option.some (l.value, l.text.length) else none := by
    rw [is]
    exact stod_decimal negative some wholeDigits fractionDigits rfl
  simp only [operandValue, if_pos point, read]
  by_cases range : InDoubleRange l.value
  · simp only [if_pos range]
  · simp only [if_neg range]

/-- A literal that converts is a number. -/
theorem operandValue_of_converts {vm : VariableManager ℚ} {l : NumberLiteral} (wellFormed : l.WellFormed)
    (converts : l.Converts) : ∃ r, operandValue vm (.number l.text) = .ok r ∧ NumberOf r l.value := by
  cases l with
  | integer negative digits =>
    obtain ⟨some, all⟩ := wellFormed
    have operand := @operandValue_of_valid ℚ _ vm (.integer negative digits) ⟨⟨some, all⟩, converts⟩
    refine ⟨_, operand, ?_⟩
    have exact' : (Int32.ofInt (signedValue negative digits)).toInt = signedValue negative digits := by
      have range : InIntRange (signedValue negative digits) := converts
      exact Int32.toInt_ofInt_of_le range.1 (by have := range.2; omega)
    have number := NumberOf.int (Int32.ofInt (signedValue negative digits))
    rw [exact'] at number
    exact number
  | decimal negative whole fraction =>
    have range : InDoubleRange (NumberLiteral.decimal negative whole fraction).value := converts
    rw [operandValue_decimal wellFormed rfl, if_pos range]
    exact ⟨_, rfl, .double _⟩

/-- A literal that does not convert stays a text. -/
theorem operandValue_of_not_converts {vm : VariableManager ℚ} {l : NumberLiteral} (wellFormed : l.WellFormed)
    (stays : ¬l.Converts) : operandValue vm (.number l.text) = .ok (.string l.text) := by
  cases l with
  | integer negative digits =>
    obtain ⟨some, all⟩ := wellFormed
    have noPoint : ch '.' ∉ signed negative digits := by
      have inDigits : ch '.' ∉ digits := fun mem => digit_ne (all _ mem) (ch '.') (by decide) rfl
      cases negative
      · exact inDigits
      · simpa [signed, show ch '.' ≠ ch '-' by decide] using inDigits
    have out : ¬InIntRange (signedValue negative digits) := stays
    have read := stoi_signed_eq negative some all
    rw [if_neg out] at read
    simp only [NumberLiteral.text, operandValue, if_neg noPoint, read]
  | decimal negative whole fraction =>
    have out : ¬InDoubleRange (NumberLiteral.decimal negative whole fraction).value := stays
    rw [operandValue_decimal wellFormed rfl, if_neg out]

/-! ## Two numbers, and a number with a text -/

theorem compareDoubles_eq (op : CompareOp) (a b : ℚ) : compareDoubles op.text a b = op.onNumbers a b := by
  cases op <;> rfl

theorem compare_numbers {v r : VariableValue ℚ} {a b : ℚ} (left : NumberOf v a) (right : NumberOf r b)
    (op : CompareOp) : compare v op.text r = op.onNumbers a b := by
  rw [← compareDoubles_eq]
  cases left <;> cases right <;> rfl

theorem compare_text {v : VariableValue ℚ} {a : ℚ} (left : NumberOf v a) (op : CompareOp) (t : Str) :
    compare v op.text (.string t) = op.onTexts v.asString t := by
  cases left <;> cases op <;> rfl

/-! ## The comparison -/

/-- A variable in front of a literal: two numbers are compared if the literal converts, and two texts otherwise. -/
theorem evaluate_literal {vm : VariableManager ℚ} {expr name : Str} {rest : List Token} {v : VariableValue ℚ} {a : ℚ}
    {op : CompareOp} {l : NumberLiteral} (wellFormed : l.WellFormed)
    (tokens : tokenize expr = .identifier name :: .operator op.text :: .number l.text :: rest)
    (notAnd : ∀ ts, rest ≠ .and :: ts) (notOr : ∀ ts, rest ≠ .or :: ts) (holds : vm.lookup name = some v)
    (number : NumberOf v a) :
    evaluate vm expr = if l.Converts then op.onNumbers a l.value else op.onTexts v.asString l.text := by
  by_cases converts : l.Converts
  · obtain ⟨r, operand, right⟩ := @operandValue_of_converts vm _ wellFormed converts
    rw [if_pos converts, evaluate_comparison tokens notAnd notOr holds operand, compare_numbers number right]
  · have operand := @operandValue_of_not_converts vm _ wellFormed converts
    rw [if_neg converts, evaluate_comparison tokens notAnd notOr holds operand, compare_text number]

/-- A variable compared with a literal gives the comparison of the two numbers exactly
when the literal converts, or the bytes of the two texts happen to compare that way. -/
theorem number_comparison_iff (vm : VariableManager ℚ) (name : Str) (v : VariableValue ℚ) (a : ℚ)
    (holds : vm.lookup name = some v) (number : NumberOf v a) (op : CompareOp) (l : NumberLiteral)
    (wellFormed : l.WellFormed) (text : Str)
    (renders : Renders [.identifier name, .operator op.text, .number l.text] text) :
    evaluate vm text = op.onNumbers a l.value ↔
      l.Converts ∨ op.onTexts v.asString l.text = op.onNumbers a l.value := by
  rw [evaluate_literal wellFormed renders.tokenize (fun _ same => by cases same) (fun _ same => by cases same) holds
    number]
  by_cases converts : l.Converts
  · rw [if_pos converts]
    exact iff_of_true rfl (Or.inl converts)
  · rw [if_neg converts]
    exact ⟨Or.inr, fun condition => condition.resolve_left converts⟩

/-! ## Literals beyond the range of `int` -/

/-- A store in which `x` is 5. -/
def fiveX : VariableManager ℚ := { localVars := OrdMap.empty.insert (lit "x") (.int 5) }

theorem number_comparison_iff_sample :
    evaluate fiveX (lit "x < 12.5") =
      CompareOp.onNumbers .lt 5 (NumberLiteral.decimal false (lit "12") (lit "5")).value := by
  have spelled : Spells (.number (lit "12.5")) (lit "12.5") :=
    .number ⟨ch '1', lit "2.5", rfl, by decide, List.all_eq_true.1 (by decide)⟩
  refine (number_comparison_iff fiveX (lit "x") (.int 5) 5 rfl (.int 5) .lt (.decimal false (lit "12") (lit "5"))
    ⟨⟨by decide, List.all_eq_true.1 (by decide)⟩, ⟨by decide, List.all_eq_true.1 (by decide)⟩⟩ _
    (renders_spaced spells_x (.operator (by decide)) spelled)).2 (Or.inl ?_)
  decide +kernel

/-- 5 is less than three billion, but the text `5` is not less than `3000000000`. -/
theorem number_comparison_bytes :
    evaluate fiveX (lit "x < 3000000000") = false ∧
      CompareOp.onNumbers .lt 5 (NumberLiteral.integer false (lit "3000000000")).value = true := by
  decide +kernel

end Actuator.Constraint
