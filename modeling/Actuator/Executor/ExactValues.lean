import Actuator.Constraint.NumberLiterals
import Actuator.Executor.Literals
import Actuator.Executor.Placeholder

/-!
# Exact values

What `evaluateValueExpression` makes of a number or an arithmetic expression,
`double` taken to be exact. A number without a point, and a result next to a
whole number, become an `int`, whatever their size; and an expression is only
computed if one of the operators or `sqrt` is found in its text.
-/

namespace Actuator.Executor

open Actuator.Lib
open Actuator.Lib.Decimal (strtod readFraction readExponent readDecimal withSign)
open Actuator.Constraint (NumberOf fiveX)

/-! ## Whole numbers -/

/-- Less than `1e-9` apart. -/
def Near (x y : ℚ) : Prop := |x - y| < 1 / 10 ^ 9

/-- Two whole numbers that are both within a half of it, one of them strictly, are the same. -/
theorem int_eq_of_close {x : ℚ} {m n : ℤ} (first : |x - m| < 1 / 2) (second : |x - n| ≤ 1 / 2) : m = n := by
  have apart : |(m : ℚ) - n| < 1 := by
    calc |(m : ℚ) - n| ≤ |(m : ℚ) - x| + |x - n| := abs_sub_le _ _ _
      _ = |x - m| + |x - n| := by rw [abs_sub_comm]
      _ < 1 / 2 + 1 / 2 := add_lt_add_of_lt_of_le first second
      _ = 1 := by norm_num
  have whole : |m - n| < 1 := by exact_mod_cast apart
  exact sub_eq_zero.1 (Int.abs_lt_one_iff.1 whole)

theorem Near.half {x y : ℚ} (near : Near x y) : |x - y| < 1 / 2 := near.trans (by norm_num)

theorem Near.int_eq {x : ℚ} {m n : ℤ} (first : Near x m) (second : Near x n) : m = n :=
  int_eq_of_close first.half second.half.le

/-- No whole number beyond the range of `int` is next to it. -/
def NearestInRange (x : ℚ) : Prop := ∀ n : ℤ, Near x n → InIntRange n

theorem nearestInRange_iff {x : ℚ} {k : ℤ} (near : Near x k) : NearestInRange x ↔ InIntRange k :=
  ⟨fun all => all k near, fun range _ other => other.int_eq near ▸ range⟩

/-- The `int` made of a whole number is next to the value exactly when the number is in range. -/
theorem int_near_iff {x : ℚ} {k : ℤ} (near : Near x k) :
    (∃ n, NumberOf (.int (Int32.ofInt k)) n ∧ Near x n) ↔ NearestInRange x := by
  rw [nearestInRange_iff near]
  constructor
  · rintro ⟨_, ⟨⟩, close⟩
    have same := close.int_eq near
    have low := (Int32.ofInt k).le_toInt
    have high := (Int32.ofInt k).toInt_lt
    exact ⟨by omega, by omega⟩
  · rintro ⟨low, high⟩
    refine ⟨_, .int _, ?_⟩
    rwa [Int32.toInt_ofInt_of_le low (by omega)]

theorem near_self (x : ℚ) : Near x x := by
  unfold Near
  rw [sub_self, abs_zero]
  norm_num

/-! ## Results and literals -/

theorem abs_sub_llround_le (x : ℚ) : |x - (CxxDouble.llround x : ℤ)| ≤ 1 / 2 := by
  have low := Int.floor_le (|x| + 1 / 2)
  have high := Int.lt_floor_add_one (|x| + 1 / 2)
  show |x - ((if x < 0 then -⌊|x| + 1 / 2⌋ else ⌊|x| + 1 / 2⌋ : ℤ) : ℚ)| ≤ 1 / 2
  by_cases negative : x < 0
  · rw [if_pos negative]
    rw [abs_of_neg negative] at low high ⊢
    push_cast
    rw [abs_le]
    constructor <;> linarith
  · rw [if_neg negative]
    rw [abs_of_nonneg (not_lt.1 negative)] at low high ⊢
    rw [abs_le]
    constructor <;> linarith

/-- A result becomes an `int` when the nearest whole number is next to it. -/
theorem roundedValue_eq (x : ℚ) : roundedValue x =
    if |x - (CxxDouble.llround x : ℤ)| < 1 / 10 ^ 9 then .int (Int32.ofInt (CxxDouble.llround x)) else .double x := by
  have round : CxxDouble.round x = ((CxxDouble.llround x : ℤ) : ℚ) := by
    show withSign (decide (x < 0)) ⌊|x| + 1 / 2⌋ = ((if x < 0 then -⌊|x| + 1 / 2⌋ else ⌊|x| + 1 / 2⌋ : ℤ) : ℚ)
    by_cases negative : x < 0 <;> simp [withSign, negative]
  have test : CxxDouble.lt (CxxDouble.abs (CxxDouble.sub x (CxxDouble.round x))) (CxxDouble.tenToMinus 9) =
      decide (|x - (CxxDouble.llround x : ℤ)| < 1 / 10 ^ 9) := by
    rw [← round]
    rfl
  unfold roundedValue
  rw [test]
  by_cases near : |x - (CxxDouble.llround x : ℤ)| < 1 / 10 ^ 9
  · rw [if_pos near, if_pos (decide_eq_true near)]
  · rw [if_neg near, if_neg (by simpa using near)]

theorem roundedValue_near_iff (x : ℚ) : (∃ n, NumberOf (roundedValue x) n ∧ Near x n) ↔ NearestInRange x := by
  rw [roundedValue_eq]
  by_cases near : |x - (CxxDouble.llround x : ℤ)| < 1 / 10 ^ 9
  · rw [if_pos near]
    exact int_near_iff near
  · rw [if_neg near]
    -- A whole number next to the value would be the nearest one.
    refine iff_of_true ⟨x, .double x, near_self x⟩ fun n close => absurd close ?_
    rwa [int_eq_of_close close.half (abs_sub_llround_le x)]

/-- A point or the letter of an exponent is in the text. -/
def HasPoint (text : Str) : Prop := ch '.' ∈ text ∨ ch 'e' ∈ text ∨ ch 'E' ∈ text

theorem not_hasPoint_iff (text : Str) : ¬HasPoint text ↔ ch '.' ∉ text ∧ ch 'e' ∉ text ∧ ch 'E' ∉ text := by
  unfold HasPoint
  rw [not_or, not_or]

section

variable {D : Type} [CxxDouble D] {text : Str}

theorem numberValue_hasPoint (point : HasPoint text) (x : D) : numberValue text x = .double x :=
  if_neg fun plain => (not_hasPoint_iff text).2 plain point

theorem numberValue_plain (plain : ¬HasPoint text) (x : D) : numberValue text x = .int (CxxDouble.toInt x) :=
  if_pos ((not_hasPoint_iff text).1 plain)

end

/-- Without a point and an exponent, a decimal number is whole. -/
theorem readDecimal_whole {s : Str} (plain : ¬HasPoint s) : ∃ m : ℤ, (readDecimal s).1 = m := by
  obtain ⟨negative, sign, body, -, solid, read⟩ := readSign_shape (s.dropWhile isSpace)
  have inside : ∀ c ∈ body.dropWhile isDigit, c ∈ s := by
    intro c mem
    have behind : c ∈ s.dropWhile isSpace := by
      rw [solid]
      exact List.mem_append_right _ ((List.dropWhile_suffix _).subset mem)
    exact (List.dropWhile_suffix _).subset behind
  have fraction : readFraction isDigit (body.dropWhile isDigit) = ([], 0) := by
    cases rest : body.dropWhile isDigit with
    | nil => rfl
    | cons c after =>
      have among : c ∈ s := inside c (rest ▸ List.mem_cons_self)
      refine if_neg fun point => plain (Or.inl ?_)
      rwa [← point]
  have exponent : readExponent (ch 'e') (ch 'E') (body.dropWhile isDigit) = (0, 0) := by
    cases rest : body.dropWhile isDigit with
    | nil => rfl
    | cons c after =>
      have among : c ∈ s := inside c (rest ▸ List.mem_cons_self)
      refine if_neg fun either => plain (Or.inr ?_)
      rcases either with rfl | rfl
      · exact Or.inl among
      · exact Or.inr among
  unfold readDecimal
  simp only [read, fraction, List.drop_zero, exponent, List.append_nil]
  split_ifs
  · exact ⟨0, rfl⟩
  · refine ⟨signedValue negative (body.takeWhile isDigit), ?_⟩
    show withSign negative ((digitsValue _ : ℚ) * 10 ^ ((0 : ℤ) - 0)) = _
    rw [sub_zero, zpow_zero, mul_one, Decimal.withSign_natCast]

theorem toInt_intCast (m : ℤ) : (CxxDouble.toInt (m : ℚ) : Int32) = Int32.ofInt m := by
  show Int32.ofInt (if (m : ℚ) < 0 then -⌊|(m : ℚ)|⌋ else ⌊|(m : ℚ)|⌋) = _
  have size : ⌊|(m : ℚ)|⌋ = |m| := by rw [← Int.cast_abs, Int.floor_intCast]
  rw [size]
  by_cases negative : m < 0
  · rw [if_pos (by exact_mod_cast negative), abs_of_neg negative, neg_neg]
  · rw [if_neg (by exact_mod_cast negative), abs_of_nonneg (not_lt.1 negative)]

theorem numberValue_near_iff {text : Str} {x : ℚ} (read : x = (readDecimal text).1) :
    (∃ n, NumberOf (numberValue text x) n ∧ Near x n) ↔ HasPoint text ∨ NearestInRange x := by
  by_cases point : HasPoint text
  · rw [numberValue_hasPoint point]
    exact iff_of_true ⟨_, .double _, near_self _⟩ (Or.inl point)
  · obtain ⟨m, whole⟩ := readDecimal_whole point
    rw [numberValue_plain point, read, whole, toInt_intCast, int_near_iff (near_self _)]
    exact (or_iff_right point).symm

/-! ## The value of a text -/

/-- An expression that is not a bound name has a character in it that is no letter. -/
theorem Writes.exists_nonletter {vm : VariableManager ℚ} {e : ArithExp} {text : Str} (writes : Writes 0 e text)
    (solid : ∃ c body, text = c :: body ∧ isSpace c = false)
    (numeric : ∀ name ∈ e.names, (ArithExp.variableValue vm name).isSome) (unbound : vm.lookup text = none) :
    ∃ d ∈ text, isAlpha d = false := by
  obtain ⟨first, body, shape, notSpace⟩ := solid
  rcases writes.named_or with ⟨blanks, name, rfl, eq, blank⟩ | ⟨d, mem, letter, -⟩
  · have noBlanks : blanks = [] := by
      cases blanks with
      | nil => rfl
      | cons b blanks =>
        rw [shape] at eq
        obtain ⟨rfl, -⟩ := List.cons.inj eq
        rw [blank _ List.mem_cons_self] at notSpace
        cases notSpace
    have known := numeric name (List.mem_singleton_self _)
    rw [noBlanks, List.nil_append] at eq
    unfold ArithExp.variableValue at known
    rw [← eq, unbound] at known
    cases known
  · exact ⟨d, mem, letter⟩

/-- A text without the characters of the operators has none of the operators in it. -/
theorem not_containsComparisonOperator {text : Str}
    (absent : ∀ c ∈ [ch '=', ch '>', ch '<', ch '&', ch '|'], c ∉ text) : containsComparisonOperator text = false := by
  have none : ∀ pattern : Str, ∀ c ∈ [ch '=', ch '>', ch '<', ch '&', ch '|'], c ∈ pattern →
      occurs pattern text = false :=
    fun pattern c mark mem => Bool.eq_false_iff.2 fun found => absent c mark (mem_of_occurs found mem)
  unfold containsComparisonOperator
  rw [List.any_eq_false]
  intro pattern mem
  rw [Bool.not_eq_true]
  have shape : ∀ pattern ∈ [lit "==", lit "!=", lit ">=", lit "<=", lit ">", lit "<", lit "&&", lit "||"],
      ∃ c ∈ [ch '=', ch '>', ch '<', ch '&', ch '|'], c ∈ pattern := by decide
  obtain ⟨c, mark, inside⟩ := shape pattern mem
  exact none pattern c mark inside

/-- A text that begins with no quote is not in quotes. -/
theorem unquote?_eq_none {text : Str} (double : text.head? ≠ some (ch '"')) (single : text.head? ≠ some (ch '\'')) :
    unquote? text = none := by
  refine if_neg ?_
  rintro ⟨-, ⟨quote, -⟩ | ⟨quote, -⟩⟩
  · exact double quote
  · exact single quote

theorem Writes.not_containsComparisonOperator {prec : Nat} {e : ArithExp} {text : Str} (writes : Writes prec e text) :
    containsComparisonOperator text = false := by
  have marks : ∀ c ∈ [ch '=', ch '>', ch '<', ch '&', ch '|'], ¬InExpression c := by
    unfold InExpression
    decide +kernel
  exact Executor.not_containsComparisonOperator fun c mark mem => marks c mark (writes.chars c mem)

/-- A text that is an expression and no variable reaches the end of `evaluateValueExpression`. -/
theorem free_of_writes {vm : VariableManager ℚ} {e : ArithExp} {text : Str} (writes : Writes 0 e text)
    (solid : ∃ c body, text = c :: body ∧ isSpace c = false)
    (numeric : ∀ name ∈ e.names, (ArithExp.variableValue vm name).isSome) (unbound : vm.lookup text = none) :
    Free vm text := by
  have noWord : ∀ word : Str, word.all isAlpha = true → text ≠ word := by
    intro word letters same
    obtain ⟨d, mem, letter⟩ := writes.exists_nonletter solid numeric unbound
    rw [same] at mem
    rw [List.all_eq_true.1 letters d mem] at letter
    cases letter
  have unquoted : ∀ c : UInt8, ¬InExpression c → text.head? ≠ some c :=
    fun c no first => no (writes.chars c (List.mem_of_mem_head? first))
  refine ⟨⟨?_, unquote?_eq_none (unquoted _ ?_) (unquoted _ ?_), ?_, ?_⟩, unbound, writes.not_containsComparisonOperator⟩
  · obtain ⟨c, body, rfl, -⟩ := solid
    rfl
  · unfold InExpression
    decide
  · unfold InExpression
    decide
  · simp [isTrueWord, noWord (lit "true") rfl, noWord (lit "TRUE") rfl, noWord (lit "True") rfl]
  · simp [isFalseWord, noWord (lit "false") rfl, noWord (lit "FALSE") rfl, noWord (lit "False") rfl]

theorem Writes.decimals {prec : Nat} {e : ArithExp} {text : Str} (writes : Writes prec e text) :
    ∀ t ∈ e.literals, IsDecimal t := by
  induction writes with
  | number blank decimal => exact List.forall_mem_singleton.2 decimal
  | named blank word => exact List.forall_mem_nil _
  | plus blank _ ih => exact ih
  | minus blank _ ih => exact ih
  | sqrt blank gap _ close ih => exact ih
  | group blank _ close ih => exact ih
  | binary binds _ blank _ ihl ihr => exact List.forall_mem_append.2 ⟨ihl, ihr⟩

/-- `strtod` reads the text to its end. -/
def IsLiteral (text : Str) : Prop := (tryParseNumberLiteral text : Option ℚ).isSome = true

/-- The value of a text is kept: a number with a point or an exponent; or another number, or a text with an operator in
it, when no whole number beyond the range of `int` is next to the value. -/
def KeepsValue (text : Str) (x : ℚ) : Prop :=
  IsLiteral text ∧ HasPoint text ∨ (IsLiteral text ∨ containsArithmeticOperator text = true) ∧ NearestInRange x

/-- A text read to its end is read as the value of its expression. -/
theorem value_of_literal {vm : VariableManager ℚ} {e : ArithExp} {text : Str} (writes : Writes 0 e text) {x : ℚ}
    (read : tryParseNumberLiteral text = some x) : x = e.value vm ∧ x = (readDecimal text).1 := by
  have stop := @Writes.stopsOrReads vm 0 e text writes [] fun c first => by cases first
  rw [List.append_nil] at stop
  unfold tryParseNumberLiteral at read
  have run : (CxxDouble.strtod text : ℚ × Nat) = strtod text := rfl
  rw [run] at read
  cases eq : strtod text with
  | mk value used =>
    rw [eq] at read stop
    simp only at read stop ⊢
    split at read
    · cases read
    · split at read
      · rename_i ended
        obtain rfl := Option.some.inj read
        rcases stop with short | whole
        · -- The text would have to go on with a NUL.
          cases rest : text.drop used with
          | nil =>
            have all := List.drop_eq_nil_iff.1 rest
            omega
          | cons d after =>
            rw [rest] at ended
            have nul : d = 0 := by simpa using ended
            have mem : d ∈ text := List.mem_of_mem_drop (rest ▸ List.mem_cons_self)
            have inside := writes.chars d mem
            rw [nul] at inside
            exact absurd inside (by unfold InExpression; decide)
        · exact ⟨congrArg Prod.fst whole.1, congrArg Prod.fst whole.2⟩
      · cases read

/-- A number or expression that raises no error has an INT or DOUBLE within `1e-9` of its exact value exactly when its
value is kept. -/
theorem value_exact_iff (vm : VariableManager ℚ) (e : ArithExp) (text behind : Str) (writes : Writes 0 e text)
    (blank : Blank behind) (numeric : ∀ name ∈ e.names, (ArithExp.variableValue vm name).isSome)
    (unbound : vm.lookup (trim (text ++ behind)) = none) (value : VariableValue ℚ)
    (run : evaluateValueExpression vm (text ++ behind) = .ok value) :
    (∃ n, NumberOf value n ∧ |e.value vm - n| < 1 / 10 ^ 9) ↔ KeepsValue (trim (text ++ behind)) (e.value vm) := by
  show (∃ n, NumberOf value n ∧ Near (e.value vm) n) ↔ _
  obtain ⟨core, solid⟩ := writes.trimmed blank
  have free := free_of_writes core solid numeric unbound
  rw [free.evaluateValueExpression] at run
  generalize trim (text ++ behind) = trimmed at core run free ⊢
  unfold evaluateNumberOrText at run
  unfold KeepsValue IsLiteral
  cases read : (tryParseNumberLiteral trimmed : Option ℚ) with
  | some x =>
    obtain ⟨exact', decimal⟩ := @value_of_literal vm e trimmed core x read
    rw [read] at run
    cases run
    have kept := numberValue_near_iff decimal
    rw [exact'] at kept ⊢
    simpa using kept
  | none =>
    rw [read] at run
    by_cases computes : containsArithmeticOperator trimmed = true
    · have literals : ∀ t ∈ e.literals, ReadsLiteral ℚ t := fun t mem => (core.decimals t mem).readsLiteral
      have parsed := NumericExpressionParser.parse_written vm core (List.forall_mem_nil _) literals numeric
      rw [List.append_nil] at parsed
      simp only [if_pos computes, parsed] at run
      split at run
      · rename_i number eq
        split at eq
        · cases eq
        · cases eq
          cases run
          simpa [computes] using roundedValue_near_iff (e.value vm)
      · cases run
      · cases run
    · simp only [if_neg computes] at run
      cases run
      simp only [computes]
      refine iff_of_false ?_ (by simp)
      rintro ⟨n, number, -⟩
      cases number

/-! ## Beyond the range of `int` -/

theorem value_exact_iff_sample :
    ∃ n, NumberOf (.int 10 : VariableValue ℚ) n ∧
      |(ArithExp.binary .mul (.named (lit "x")) (.number (lit "2"))).value fiveX - n| < 1 / 10 ^ 9 := by
  have blank : ∀ n, Blank (List.replicate n (ch ' ')) := fun n c mem => by rw [List.eq_of_mem_replicate mem]; rfl
  have x : Writes 1 (.named (lit "x")) (lit "x") := .named (blank 0) ⟨ch 'x', [], rfl, Or.inl rfl, nofun⟩
  have decimal : IsDecimal (lit "2") :=
    ⟨lit "2", [], [], [], rfl, List.all_eq_true.1 (by decide), nofun, by decide, .inl ⟨rfl, rfl⟩, .inl rfl⟩
  have product : Writes 0 (.binary .mul (.named (lit "x")) (.number (lit "2"))) (lit "x * 2") :=
    @Writes.binary 0 .mul (lit " ") (lit "x") (lit " 2") _ _ (by decide) x (blank 1) (.number (blank 1) decimal)
  have value : (ArithExp.binary .mul (.named (lit "x")) (.number (lit "2"))).value fiveX = ((10 : ℤ) : ℚ) := by
    decide +kernel
  refine (value_exact_iff fiveX _ _ [] product (blank 0) (by decide +kernel) (by decide +kernel) (.int 10)
    (by decide +kernel)).2 (Or.inr ⟨Or.inr (by decide +kernel), ?_⟩)
  rw [value]
  exact (nearestInRange_iff (near_self _)).2 (by decide)

/-- Three billion, written as a number or as a product, becomes an `int`; a number in parentheses stays a text. -/
theorem value_exact_out_of_range :
    (∃ n : Int32, evaluateValueExpression fiveX (lit "3000000000") = .ok (.int n) ∧ 1 ≤ |3000000000 - (n.toInt : ℚ)|) ∧
      (∃ n : Int32, evaluateValueExpression fiveX (lit "60000 * 50000") = .ok (.int n) ∧
        1 ≤ |60000 * 50000 - (n.toInt : ℚ)|) ∧
      evaluateValueExpression fiveX (lit "(5)") = .ok (.string (lit "(5)")) := by
  have far : ∀ n : Int32, 1 ≤ |3000000000 - (n.toInt : ℚ)| := by
    intro n
    have high : (n.toInt : ℚ) ≤ 2147483647 := by exact_mod_cast Int.le_of_lt_add_one n.toInt_lt
    rw [abs_of_nonneg (by linarith)]
    linarith
  refine ⟨⟨Int32.ofInt 3000000000, by decide +kernel, far _⟩, ⟨Int32.ofInt 3000000000, by decide +kernel, ?_⟩,
    by decide +kernel⟩
  rw [show (60000 * 50000 : ℚ) = 3000000000 by norm_num]
  exact far _

end Actuator.Executor
