import Actuator.Constraint.NumberLiterals
import Actuator.Parser.BehaviorParser
import Actuator.Parser.NumberTexts

/-!
# Numbers in templates

The text a number of the input becomes is put in the place of its placeholder
and tokenized with the rest of the condition. A text with an exponent is cut in
front of its `e`, and the comparison is with the digits before it. A text
without one is a literal, which is compared as a text if it has no point and is
out of the range of `int`.
-/

namespace Actuator.Constraint.NumberLiteral

open Actuator.Lib
open Actuator.Lib.Decimal (fractionText withSign strtod strtod_decimal strtod_digits withSign_natCast value_kept
  digitsValue_lt inDoubleRange_decimal)

/-- The literal is read to its end. -/
theorem strtod_text {l : NumberLiteral} (wellFormed : l.WellFormed) : strtod l.text = (l.value, l.text.length) := by
  cases l with
  | integer negative digits =>
    obtain ⟨some, all⟩ := wellFormed
    exact (strtod_digits negative some all).trans (Prod.ext (withSign_natCast negative digits) rfl)
  | decimal negative whole fraction =>
    obtain ⟨⟨some, wholeDigits⟩, ⟨-, fractionDigits⟩⟩ := wellFormed
    exact strtod_decimal negative some wholeDigits fractionDigits

/-- Digits, and what is kept of the digits behind a point. -/
def kept (negative : Bool) (whole tail : Str) : NumberLiteral :=
  if tail.rdropWhile (· = ch '0') = [] then integer negative whole
  else decimal negative whole (tail.rdropWhile (· = ch '0'))

theorem text_kept (negative : Bool) (whole tail : Str) :
    (kept negative whole tail).text = signed negative (whole ++ fractionText tail) := by
  unfold kept fractionText
  by_cases none : tail.rdropWhile (· = ch '0') = []
  · simp [none, text]
  · simp [none, text, List.isEmpty_iff]

theorem value_kept_eq (negative : Bool) (whole tail : Str) :
    (kept negative whole tail).value = withSign negative (digitsValue (whole ++ tail) * 10 ^ (-(tail.length : ℤ))) := by
  have left := value_kept whole tail 0
  rw [zero_sub, zero_sub] at left
  rw [left]
  unfold kept
  by_cases none : tail.rdropWhile (· = ch '0') = []
  · rw [if_pos none, none]
    simpa [value] using (withSign_natCast negative whole).symm
  · rw [if_neg none]
    rfl

theorem wellFormed_kept {whole tail : Str} (negative : Bool) (some : whole ≠ [])
    (wholeDigits : ∀ c ∈ whole, isDigit c = true) (tailDigits : ∀ c ∈ tail, isDigit c = true) :
    (kept negative whole tail).WellFormed := by
  unfold kept
  by_cases none : tail.rdropWhile (· = ch '0') = []
  · rw [if_pos none]
    exact ⟨some, wholeDigits⟩
  · rw [if_neg none]
    exact ⟨⟨some, wholeDigits⟩, none, fun c mem => tailDigits c ((List.rdropWhile_prefix _ _).subset mem)⟩

/-- Six digits at most before the point, and nine behind it, are in every range. -/
theorem converts_kept {whole tail : Str} (negative : Bool) (wholeDigits : ∀ c ∈ whole, isDigit c = true)
    (tailDigits : ∀ c ∈ tail, isDigit c = true) (short : whole.length ≤ 6 ∧ tail.length ≤ 9) :
    (kept negative whole tail).Converts := by
  have range := inDoubleRange_decimal negative (List.forall_mem_append.2 ⟨wholeDigits, tailDigits⟩)
    (by rw [List.length_append]; omega) (show tail.length ≤ 20 by omega)
  rw [← value_kept_eq] at range
  unfold kept at range ⊢
  by_cases none : tail.rdropWhile (· = ch '0') = []
  · rw [if_pos none]
    have small : digitsValue whole < 10 ^ 6 :=
      (digitsValue_lt wholeDigits).trans_le (Nat.pow_le_pow_right (by decide) short.1)
    show InIntRange (signedValue negative whole)
    cases negative <;> simp only [InIntRange, signedValue] <;> constructor <;> omega
  · rw [if_neg none] at range ⊢
    exact range

end Actuator.Constraint.NumberLiteral

namespace Actuator.Parser

open Actuator.Lib Actuator.Core Actuator.Constraint
open Actuator.Executor (VariableValue VariableManager)
open Actuator.Lib.Decimal (strtod stod strtod_of_stod toText generalText exponentText significant significant_spec
  exists_printed InDoubleRange)

/-! ## The texts of numbers -/

/-- The texts the parsers make of numbers: a literal, which is in range if it has a point, or one with an exponent. -/
inductive NumberText : Str → Prop
  | plain {l : NumberLiteral} (wellFormed : l.WellFormed) (covered : ch '.' ∈ l.text → l.Converts) : NumberText l.text
  | exponent {l : NumberLiteral} (wellFormed : l.WellFormed) (converts : l.Converts) (e : ℤ) :
      NumberText (l.text ++ exponentText e)

theorem numberText_int (n : ℤ) : NumberText (lit (toString n)) := by
  rw [Decimal.toString_int]
  have all := natToString_digit n.natAbs
  refine @NumberText.plain (.integer (decide (n < 0)) (natToString n.natAbs)) ⟨natToString_ne_nil _, all⟩ fun point => ?_
  have digits : ch '.' ∉ natToString n.natAbs := fun mem => digit_ne (all _ mem) (ch '.') (by decide) rfl
  refine absurd point ?_
  show ch '.' ∉ signed (decide (n < 0)) (natToString n.natAbs)
  cases decide (n < 0)
  · exact digits
  · simpa [signed, show ch '.' ≠ ch '-' by decide] using digits

theorem numberText_toText (x : ℚ) : NumberText (toText x) := by
  unfold toText
  by_cases zero : x = 0
  · rw [if_pos zero]
    exact numberText_int 0
  rw [if_neg zero]
  cases eq : significant |x| with
  | mk m e =>
    obtain ⟨low, high, -⟩ := significant_spec (abs_pos.2 zero) eq
    obtain ⟨whole, tail, exponent, k, printed⟩ := exists_printed e low high
    show NumberText (signed (decide (x < 0)) (generalText m e))
    generalize decide (x < 0) = negative
    have wellFormed := NumberLiteral.wellFormed_kept negative printed.some printed.wholeDigits printed.tailDigits
    have converts := NumberLiteral.converts_kept negative printed.wholeDigits printed.tailDigits printed.short
    have text : signed negative (generalText m e) = (NumberLiteral.kept negative whole tail).text ++ exponent := by
      rw [printed.text, NumberLiteral.text_kept]
      cases negative <;> rfl
    rw [text]
    rcases printed.exponent with ⟨rfl, -⟩ | ⟨rfl, -⟩
    · rw [List.append_nil]
      exact .plain wellFormed fun _ => converts
    · exact .exponent wellFormed converts e

theorem numberText_scalar {j : Json ℚ} {q : ℚ} (number : jsonNumber j = some q) {text : Str}
    (scalar : jsonScalarToString j = some text) : NumberText text := by
  cases j with
  | int n =>
    cases scalar
    exact numberText_int _
  | float x =>
    cases scalar
    rw [Decimal.lit_toStream]
    exact numberText_toText x
  | _ => cases number

/-! ## What is compared -/

/-- The comparison with what the tokenizer takes of the text agrees with the one with the number `x`: where an exponent
is cut off, the number in front of it compares as `x` does; where the text is of a whole number out of the range of
`int`, the bytes of the texts do. -/
structure ComparesAlike (v : VariableValue ℚ) (a : ℚ) (op : CompareOp) (text : Str) (x : ℚ) : Prop where
  cut : ch 'e' ∈ text → op.onNumbers a (strtod (text.takeWhile (· ≠ ch 'e'))).1 = op.onNumbers a x
  whole : ch 'e' ∉ text → ch '.' ∉ text → x < -2 ^ 31 ∨ 2 ^ 31 ≤ x → op.onTexts v.asString text = op.onNumbers a x

/-- A literal is a minus sign or nothing in front of digits and points. -/
theorem isNumber_text {l : NumberLiteral} (wellFormed : l.WellFormed) : IsNumber l.text := by
  have shape : ∃ negative c body, l.text = signed negative (c :: body) ∧ isDigit c = true ∧
      ∀ x ∈ body, isNumberChar x = true := by
    cases l with
    | integer negative digits =>
      obtain ⟨some, all⟩ := wellFormed
      obtain ⟨c, body, rfl⟩ := List.exists_cons_of_ne_nil some
      refine ⟨negative, c, body, rfl, all c List.mem_cons_self, fun x mem => ?_⟩
      rw [isNumberChar, all x (List.mem_cons_of_mem c mem), Bool.true_or]
    | decimal negative whole fraction =>
      obtain ⟨⟨some, wholeDigits⟩, ⟨-, fractionDigits⟩⟩ := wellFormed
      obtain ⟨c, body, rfl⟩ := List.exists_cons_of_ne_nil some
      refine ⟨negative, c, body ++ ch '.' :: fraction, rfl, wholeDigits c List.mem_cons_self, fun x mem => ?_⟩
      rcases List.mem_append.1 mem with front | back
      · rw [isNumberChar, wholeDigits x (List.mem_cons_of_mem c front), Bool.true_or]
      · rcases List.mem_cons.1 back with rfl | behind
        · rfl
        · rw [isNumberChar, fractionDigits x behind, Bool.true_or]
  obtain ⟨negative, c, body, eq, digit, inside⟩ := shape
  rw [eq]
  cases negative
  · exact ⟨c, body, rfl, Or.inl digit, inside⟩
  · refine ⟨ch '-', c :: body, rfl, Or.inr ⟨rfl, digit⟩, fun x mem => ?_⟩
    rcases List.mem_cons.1 mem with rfl | behind
    · rw [isNumberChar, digit, Bool.true_or]
    · exact inside x behind

theorem noExponent_text {l : NumberLiteral} (wellFormed : l.WellFormed) : ch 'e' ∉ l.text := by
  obtain ⟨c, body, eq, first, inside⟩ := isNumber_text wellFormed
  rw [eq]
  intro mem
  rcases List.mem_cons.1 mem with rfl | behind
  · rcases first with digit | ⟨minus, -⟩
    · cases digit
    · cases minus
  · cases inside _ behind

/-- A literal converts if it has a point and is in range, or is in the range of `int`. -/
theorem converts_iff {l : NumberLiteral} (covered : ch '.' ∈ l.text → l.Converts) :
    l.Converts ↔ (ch '.' ∉ l.text → -2 ^ 31 ≤ l.value ∧ l.value < 2 ^ 31) := by
  by_cases point : ch '.' ∈ l.text
  · exact iff_of_true (covered point) fun none => absurd point none
  · cases l with
    | integer negative digits =>
      have cast : -2 ^ 31 ≤ (NumberLiteral.integer negative digits).value ∧
          (NumberLiteral.integer negative digits).value < 2 ^ 31 ↔ InIntRange (signedValue negative digits) := by
        show -2 ^ 31 ≤ (signedValue negative digits : ℚ) ∧ (signedValue negative digits : ℚ) < 2 ^ 31 ↔ _
        generalize signedValue negative digits = n
        constructor
        · rintro ⟨low, high⟩
          have low' : -2 ^ 31 ≤ n := by exact_mod_cast low
          have high' : n < 2 ^ 31 := by exact_mod_cast high
          exact ⟨by omega, by omega⟩
        · rintro ⟨low, high⟩
          have low' : -2 ^ 31 ≤ n := by omega
          have high' : n < 2 ^ 31 := by omega
          exact ⟨by exact_mod_cast low', by exact_mod_cast high'⟩
      rw [cast]
      exact ⟨fun converts _ => converts, fun range => range point⟩
    | decimal negative whole fraction =>
      refine absurd ?_ point
      cases negative <;> simp [NumberLiteral.text, signed]

theorem tokensOf_spaced {t₁ t₂ : Token} {s₁ s₂ : Str} (first : Spells t₁ s₁) (second : Spells t₂ s₂) (s₃ : Str) :
    tokensOf (spaced s₁ s₂ s₃) = t₁ :: t₂ :: tokensOf s₃ := by
  have blank : ∀ c ∈ [ch ' '], isSpace c = true := List.all_eq_true.1 (by decide)
  have apart : ∀ s : Str, Separated (ch ' ' :: s) := fun s c front => by cases front; rfl
  have skip : ∀ s : Str, tokensOf (ch ' ' :: s) = tokensOf s := fun s => tokensOf_blanks blank
  unfold spaced
  rw [first.tokensOf (apart _), skip, second.tokensOf (apart _), skip]

/-- A number is cut off in front of what cannot be part of one. -/
theorem tokensOf_number {text tail : Str} (number : IsNumber text) (stop : ∀ c ∈ tail.head?, isNumberChar c = false) :
    tokensOf (text ++ tail) = .number text :: tokensOf tail := by
  obtain ⟨c, body, rfl, first, inside⟩ := number
  exact tokensOf_cons (scanPiece_number first inside stop)

/-- An exponent begins with a word of its own. -/
theorem tokensOf_exponentText (e : ℤ) : ∃ rest, tokensOf (exponentText e) = .identifier (lit "e") :: rest := by
  have word : ∀ sign, sign = ch '-' ∨ sign = ch '+' → ∀ digits : Str,
      scanPiece (ch 'e') (sign :: digits) = (.lexeme (lit "e") (.identifier (lit "e")), sign :: digits) := by
    intro sign either digits
    have stop : ∀ x ∈ (sign :: digits).head?, isWordChar x = false := by
      intro x head
      cases head
      rcases either with rfl | rfl <;> rfl
    exact @scanPiece_word (ch 'e') [] (sign :: digits) (by decide) nofun stop
  refine ⟨_, tokensOf_cons (word _ ?_ _)⟩
  by_cases negative : e < 0
  · exact Or.inl (if_pos negative)
  · exact Or.inr (if_neg negative)

section Comparison

variable {v : VariableValue ℚ} {a : ℚ} {op : CompareOp} {l : NumberLiteral}

theorem comparesAlike_text_iff (wellFormed : l.WellFormed) (covered : ch '.' ∈ l.text → l.Converts) :
    ComparesAlike v a op l.text l.value ↔ l.Converts ∨ op.onTexts v.asString l.text = op.onNumbers a l.value := by
  have noExponent := noExponent_text wellFormed
  constructor
  · intro alike
    refine or_iff_not_imp_left.2 fun out => ?_
    obtain ⟨noPoint, outside⟩ := Classical.not_imp.1 ((converts_iff covered).not.1 out)
    refine alike.whole noExponent noPoint ?_
    rcases not_and_or.1 outside with low | high
    · exact Or.inl (not_le.1 low)
    · exact Or.inr (not_lt.1 high)
  · intro either
    refine ⟨fun exponent => absurd exponent noExponent, fun _ noPoint out => either.resolve_left fun converts => ?_⟩
    obtain ⟨least, most⟩ := (converts_iff covered).1 converts noPoint
    rcases out with low | high
    · exact absurd least (not_le.2 low)
    · exact absurd most (not_lt.2 high)

theorem comparesAlike_exponent_iff (wellFormed : l.WellFormed) (e : ℤ) {x : ℚ} :
    ComparesAlike v a op (l.text ++ exponentText e) x ↔ op.onNumbers a l.value = op.onNumbers a x := by
  have inside : ch 'e' ∈ l.text ++ exponentText e := List.mem_append_right _ List.mem_cons_self
  have other : ∀ c ∈ l.text, decide (c ≠ ch 'e') = true := fun c mem =>
    decide_eq_true fun same => noExponent_text wellFormed (same ▸ mem)
  have front : (l.text ++ exponentText e).takeWhile (· ≠ ch 'e') = l.text :=
    (takeWhile_append_stop other fun c first => by cases first; rfl).1
  have read : (strtod ((l.text ++ exponentText e).takeWhile (· ≠ ch 'e'))).1 = l.value := by
    rw [front, NumberLiteral.strtod_text wellFormed]
  constructor
  · intro alike
    rw [← read]
    exact alike.cut inside
  · intro same
    refine ⟨fun _ => ?_, fun none => absurd inside none⟩
    rwa [read]

variable {vm : VariableManager ℚ} {name : Str}

/-- A condition with the text of a number on its right. -/
theorem evaluate_numberText_iff (word : IsIdentifier name) (holds : vm.lookup name = some v) (number : NumberOf v a)
    (op : CompareOp) {text : Str} (shape : NumberText text) {x : ℚ} {used : Nat} (read : stod text = some (x, used)) :
    evaluate vm (spaced name op.text text) = op.onNumbers a x ↔ ComparesAlike v a op text x := by
  have operator : Spells (.operator op.text) op.text := .operator (by cases op <;> decide)
  have tokens := tokenize_eq (spaced name op.text text)
  rw [tokensOf_spaced (.identifier word) operator text] at tokens
  cases shape with
  | @plain l wellFormed covered =>
    have alone := @tokensOf_number l.text [] (isNumber_text wellFormed) nofun
    rw [List.append_nil] at alone
    rw [alone] at tokens
    have value : l.value = x := by
      have reads := (strtod_of_stod read).1
      rw [NumberLiteral.strtod_text wellFormed] at reads
      exact congrArg Prod.fst reads
    rw [← value, comparesAlike_text_iff wellFormed covered,
      evaluate_literal wellFormed tokens (fun _ same => by cases same) (fun _ same => by cases same) holds number]
    by_cases converts : l.Converts
    · rw [if_pos converts]
      exact iff_of_true rfl (Or.inl converts)
    · rw [if_neg converts, or_iff_right converts]
  | @exponent l wellFormed converts e =>
    obtain ⟨rest, behind⟩ := tokensOf_exponentText e
    have stop : ∀ c ∈ (exponentText e).head?, isNumberChar c = false := fun c first => by cases first; rfl
    rw [tokensOf_number (isNumber_text wellFormed) stop, behind] at tokens
    rw [comparesAlike_exponent_iff wellFormed,
      evaluate_literal wellFormed tokens (fun _ same => by cases same) (fun _ same => by cases same) holds number,
      if_pos converts]

end Comparison

/-! ## The template -/

/-- The number a placeholder stands for: a parameter of the task, or a constant or an initial value of the behaviour
that nothing of the same name comes before. -/
inductive Declares (definition : BehaviorNode) (params : StrMap) (name : Str) (j : Json ℚ) : Prop
  | param (given : Arrives name j params)
  | constant (given : Arrives name j definition.data.constants) (noParam : params.find? name = none)
  | init (given : Arrives name j definition.data.variableInits) (noParam : params.find? name = none)
      (noConstant : definition.data.constants.find? name = none)

theorem Declares.text {definition : BehaviorNode} {params : StrMap} {name : Str} {j : Json ℚ}
    (declares : Declares definition params name j) {text : Str} (scalar : jsonScalarToString j = some text) :
    (buildTemplateParams definition params).find? name = some text := by
  rw [find?_buildTemplateParams]
  cases declares with
  | param given => rw [given.text scalar, Option.some_or]
  | constant given noParam => rw [given.text scalar, noParam, Option.none_or, Option.some_or]
  | init given noParam noConstant => rw [given.text scalar, noParam, noConstant, Option.none_or, Option.none_or]

/-- An identifier contains no dollar sign. -/
theorem noDollar {word : Str} (identifier : IsIdentifier word) : ch '$' ∉ word := by
  obtain ⟨⟨c, body, rfl, first, inside⟩, -⟩ := identifier
  intro mem
  rcases List.mem_cons.1 mem with rfl | behind
  · revert first
    decide
  · cases inside _ behind

/-- What becomes of a condition with one placeholder on its right. -/
theorem expression_instantiated {definition node : BehaviorNode} {params : StrMap} {name var text : Str}
    {op : CompareOp} (word : IsIdentifier var) (closed : ch '}' ∉ name)
    (template : node.data.expression = spaced var op.text (placeholder name))
    (given : (buildTemplateParams definition params).find? name = some text) :
    (instantiated definition params node).data.expression = spaced var op.text text := by
  obtain ⟨data, children⟩ := node
  obtain ⟨c, tail, shape⟩ : ∃ c tail, var = c :: tail := by
    obtain ⟨⟨c, body, eq, -, -⟩, -⟩ := word
    exact ⟨c, body, eq⟩
  have front : ∀ s : Str, spaced var op.text s = (var ++ ch ' ' :: (op.text ++ [ch ' '])) ++ s := by
    intro s
    simp [spaced]
  have plain : ch '$' ∉ var ++ ch ' ' :: (op.text ++ [ch ' ']) := by
    have none := noDollar word
    have operator : ch '$' ∉ op.text := by cases op <;> decide
    simp only [List.mem_append, List.mem_cons, List.not_mem_nil, none, operator]
    decide
  have replaced : replaceVariables (spaced var op.text (placeholder name)) (buildTemplateParams definition params) =
      spaced var op.text text := by
    rw [front, replaceVariables_behind plain closed, given, Option.getD_some, ← front]
  have expression : data.expression = spaced var op.text (placeholder name) := template
  have nonempty : (spaced var op.text text).isEmpty = false := by
    rw [shape]
    rfl
  unfold instantiated expandNode
  simp only [BehaviorNode.data, expandData, expression, replaced, nonempty]
  simp

/-- A condition whose right side is the placeholder of a number compares with the number that `std::stod` reads from
its text exactly when there is one and the part of the text that is taken compares alike. -/
theorem template_comparison_iff (definition node : BehaviorNode) (params : StrMap) (name : Str) (closed : ch '}' ∉ name)
    (j : Json ℚ) (q : ℚ) (number : jsonNumber j = some q) (text : Str) (scalar : jsonScalarToString j = some text)
    (declares : Declares definition params name j) (vm : VariableManager ℚ) (var : Str) (word : IsIdentifier var)
    (v : VariableValue ℚ) (holds : vm.lookup var = some v) (a : ℚ) (held : NumberOf v a) (op : CompareOp)
    (template : node.data.expression = spaced var op.text (placeholder name)) :
    (∃ x used, stod text = some (x, used) ∧
      evaluate vm (instantiated definition params node).data.expression = op.onNumbers a x) ↔
      ∃ x used, stod text = some (x, used) ∧ ComparesAlike v a op text x := by
  rw [expression_instantiated word closed template (declares.text scalar)]
  have shape := numberText_scalar number scalar
  constructor
  · rintro ⟨x, used, read, same⟩
    exact ⟨x, used, read, (evaluate_numberText_iff word holds held op shape read).1 same⟩
  · rintro ⟨x, used, read, alike⟩
    exact ⟨x, used, read, (evaluate_numberText_iff word holds held op shape read).2 alike⟩

/-! ## A million -/

/-- A condition `x < ${limit}`. -/
def limitNode : BehaviorNode :=
  .mk { type := .condition, expression := spaced (lit "x") (lit "<") (placeholder (lit "limit")) } []

/-- A behaviour with that condition and a constant `limit`. -/
def limitTree (limit : Json ℚ) : BehaviorNode :=
  .mk { type := .sequence, constants := parseConstants (.ofMap (OrdMap.ofList [(lit "limit", limit)])) } [limitNode]

theorem template_comparison_iff_sample :
    ∃ x used, stod (lit "12.5") = some (x, used) ∧
      evaluate fiveX (instantiated (limitTree (.float (25 / 2))) OrdMap.empty limitNode).data.expression =
        CompareOp.onNumbers .lt 5 x := by
  refine (template_comparison_iff (limitTree (.float (25 / 2))) limitNode OrdMap.empty (lit "limit") (by decide)
    (.float (25 / 2)) (25 / 2) rfl (lit "12.5") (by decide +kernel) (.constant (.constant rfl) rfl) fiveX (lit "x")
    ⟨⟨ch 'x', [], rfl, by decide, nofun⟩, by unfold Reserved; decide⟩ (.int 5) rfl 5 (.int 5) .lt rfl).2 ?_
  exact ⟨25 / 2, 4, by decide +kernel, fun exponent => absurd exponent (by decide),
    fun _ noPoint => absurd (by decide) noPoint⟩

/-- The text of `1000000.0` is `1e+06`; 5 is less than a million, but not less than 1. -/
theorem template_comparison_exponent :
    jsonScalarToString (.float 1000000 : Json ℚ) = some (lit "1e+06") ∧ stod (lit "1e+06") = some (1000000, 5) ∧
      CompareOp.onNumbers .lt 5 1000000 = true ∧
        evaluate fiveX (instantiated (limitTree (.float 1000000)) OrdMap.empty limitNode).data.expression = false := by
  decide +kernel

end Actuator.Parser
