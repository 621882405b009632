import Actuator.Executor.Arithmetic
import Actuator.Lib.Decimal

/-!
# Numbers among expressions

With floating-point numbers taken as exact decimals, `strtod` reads a literal to
its end whatever may follow it in an expression. On the text of an expression
that is not a literal with at most one sign in front, it stops before the end.
-/

namespace Actuator.Executor

open Actuator.Lib
open Actuator.Lib.Decimal (readFraction readExponent readDecimal readHexadecimal readHexadecimal_digits
  readHexadecimal_of_ne_zero withSign)
open Actuator.Constraint (isWordChar toNat_of_wordStart)

/-- Nothing, or what may come behind an operand. -/
def SetApart (rest : Str) : Prop := ∀ c ∈ rest.head?, isSpace c = true ∨ c ∈ afterFactor

theorem SetApart.stops {rest : Str} (apart : SetApart rest) {c : UInt8} (first : c ∈ rest.head?) :
    isDigit c = false ∧ c ≠ ch '.' ∧ ¬(c = ch 'e' ∨ c = ch 'E') := by
  have outside := NumericExpressionParser.not_wordChar_after (apart c first)
  simp only [isWordChar, isAlnum, Bool.or_eq_false_iff] at outside
  refine ⟨outside.1.2, ?_, ?_⟩
  · rintro rfl
    rcases apart _ first with space | among
    · cases space
    · exact absurd among (by decide)
  · rintro (rfl | rfl) <;> exact absurd outside.1.1 (by decide)

/-! ## The parts of a literal -/

theorem readSign_sign {sign : Str} (isSign : IsSign sign) {c : UInt8} (body : Str) (plus : c ≠ ch '+')
    (minus : c ≠ ch '-') : readSign (sign ++ c :: body) = (decide (sign = [ch '-']), sign.length, c :: body) := by
  rcases isSign.cases with rfl | rfl | rfl
  · show readSign (c :: body) = (false, 0, c :: body)
    rw [readSign, if_neg minus, if_neg plus]
  · rfl
  · rfl

/-- An exponent is read to its end. -/
theorem readExponent_append {exponent : Str} (shape : exponent = [] ∨ IsExponent exponent) :
    ∃ k, ∀ rest, SetApart rest → readExponent (ch 'e') (ch 'E') (exponent ++ rest) = (k, exponent.length) := by
  rcases shape with rfl | ⟨e, sign, digits, rfl, letter, isSign, some, all⟩
  · refine ⟨0, fun rest apart => ?_⟩
    cases rest with
    | nil => rfl
    | cons c rest => exact if_neg (apart.stops rfl).2.2
  · refine ⟨signedValue (decide (sign = [ch '-'])) digits, fun rest apart => ?_⟩
    obtain ⟨d, body, rfl⟩ := List.exists_cons_of_ne_nil some
    have digit := all d List.mem_cons_self
    have plus : d ≠ ch '+' := digit_ne digit (ch '+') (by decide)
    have minus : d ≠ ch '-' := digit_ne digit (ch '-') (by decide)
    have front := readSign_sign isSign (body ++ rest) plus minus
    have taken := (takeWhile_append_stop all fun c first => (apart.stops first).1).1
    rw [List.cons_append] at taken
    simp only [List.cons_append, List.append_assoc, readExponent, if_pos letter, front, taken, List.isEmpty_cons]
    refine Prod.ext rfl ?_
    simp only [List.length_cons, List.length_append]
    show 1 + _ + (body.length + 1) = _
    omega

theorem head_exponent {exponent rest : Str} (shape : exponent = [] ∨ IsExponent exponent) (apart : SetApart rest) :
    ∀ c ∈ (exponent ++ rest).head?, isDigit c = false ∧ c ≠ ch '.' := by
  rcases shape with rfl | ⟨e, sign, digits, rfl, letter, -, -, -⟩
  · exact fun c first => ⟨(apart.stops first).1, (apart.stops first).2.1⟩
  · intro c first
    cases first
    rcases letter with rfl | rfl <;> decide

/-- A point and the digits behind it are read up to the exponent. -/
theorem readFraction_append {point fraction tail : Str} (digits : Digits fraction)
    (shape : point = [] ∧ fraction = [] ∨ point = [ch '.']) (stop : ∀ c ∈ tail.head?, isDigit c = false ∧ c ≠ ch '.') :
    readFraction isDigit (point ++ (fraction ++ tail)) = (fraction, (point ++ fraction).length) := by
  rcases shape with ⟨rfl, rfl⟩ | rfl
  · cases tail with
    | nil => rfl
    | cons c tail => exact if_neg (stop c rfl).2
  · have taken := (takeWhile_append_stop digits fun c first => (stop c first).1).1
    show readFraction isDigit (ch '.' :: (fraction ++ tail)) = _
    rw [readFraction, if_pos rfl, taken, List.length_append, List.length_singleton]

theorem head_point {point fraction tail : Str} (shape : point = [] ∧ fraction = [] ∨ point = [ch '.'])
    (stop : ∀ c ∈ tail.head?, isDigit c = false ∧ c ≠ ch '.') :
    ∀ c ∈ (point ++ (fraction ++ tail)).head?, isDigit c = false := by
  rcases shape with ⟨rfl, rfl⟩ | rfl
  · exact fun c first => (stop c first).1
  · intro c first
    cases first
    rfl

/-- Behind the digits of a literal there is nothing that makes it hexadecimal. -/
theorem head_decimal {point fraction exponent rest : Str} (shape : point = [] ∧ fraction = [] ∨ point = [ch '.'])
    (exponentShape : exponent = [] ∨ IsExponent exponent) (apart : SetApart rest) :
    ∀ c ∈ (point ++ (fraction ++ (exponent ++ rest))).head?, c ≠ ch 'x' ∧ c ≠ ch 'X' := by
  intro c first
  rcases shape with ⟨rfl, rfl⟩ | rfl
  · rcases exponentShape with rfl | ⟨e, sign, digits, rfl, letter, -, -, -⟩
    · have outside := NumericExpressionParser.not_wordChar_after (apart c first)
      constructor
      · rintro rfl
        cases outside
      · rintro rfl
        cases outside
    · cases first
      rcases letter with rfl | rfl <;> decide
  · cases first
    decide

/-- White space is skipped up to a sign or what is behind it. -/
theorem front_skipped {blanks sign : Str} (blank : Blank blanks) (isSign : IsSign sign) {c : UInt8} (s : Str)
    (behind : sign ≠ [] ∨ isSpace c = false) :
    (blanks ++ (sign ++ c :: s)).takeWhile isSpace = blanks ∧
      (blanks ++ (sign ++ c :: s)).dropWhile isSpace = sign ++ c :: s := by
  refine takeWhile_append_stop blank fun d first => ?_
  rcases isSign.cases with rfl | rfl | rfl
  · cases first
    exact behind.resolve_left fun some => some rfl
  · cases first
    rfl
  · cases first
    rfl

/-- Behind white space and a sign, the digits of a literal are found. -/
theorem IsDecimal.front {text : Str} (decimal : IsDecimal text) {blanks sign : Str} (rest : Str) (blank : Blank blanks)
    (isSign : IsSign sign) :
    (blanks ++ (sign ++ (text ++ rest))).takeWhile isSpace = blanks ∧
      readSign ((blanks ++ (sign ++ (text ++ rest))).dropWhile isSpace) =
        (decide (sign = [ch '-']), sign.length, text ++ rest) := by
  obtain ⟨c, body, rfl, start⟩ := decimal.first
  have code : (48 ≤ c.toNat ∧ c.toNat ≤ 57) ∨ c.toNat = 46 := by
    rcases start with digit | rfl
    · simp [isDigit] at digit
      omega
    · exact .inr rfl
  have other : ∀ k : UInt8, k.toNat < 46 → c ≠ k := fun k small => ne_of_toNat_lt (by omega)
  have solid : isSpace c = false := by
    simp [isSpace]
    omega
  obtain ⟨taken, left⟩ := front_skipped blank isSign (body ++ rest) (Or.inr solid)
  refine ⟨taken, ?_⟩
  rw [List.cons_append, left]
  exact readSign_sign isSign (body ++ rest) (other (ch '+') (by decide)) (other (ch '-') (by decide))

/-- A literal is not read as a hexadecimal number. -/
theorem IsDecimal.strtod_eq_readDecimal {text : Str} (decimal : IsDecimal text) {blanks sign rest : Str}
    (blank : Blank blanks) (isSign : IsSign sign) (apart : SetApart rest) :
    Decimal.strtod (blanks ++ (sign ++ (text ++ rest))) = readDecimal (blanks ++ (sign ++ (text ++ rest))) := by
  refine Decimal.strtod_eq_readDecimal ?_
  rw [(decimal.front rest blank isSign).2]
  show readHexadecimal (text ++ rest) = none
  obtain ⟨whole, point, fraction, exponent, rfl, wholeDigits, -, some, shape, exponentShape⟩ := decimal
  cases whole with
  | nil =>
    rcases shape with ⟨rfl, rfl⟩ | rfl
    · exact absurd rfl some
    · exact readHexadecimal_of_ne_zero _ (by decide)
  | cons d whole =>
    have behind := @head_decimal point fraction exponent rest shape exponentShape apart
    simp only [List.cons_append, List.append_assoc]
    exact readHexadecimal_digits wholeDigits behind

/-- A literal behind at most one sign is read to its end. -/
theorem IsDecimal.strtod {text : Str} (decimal : IsDecimal text) :
    ∃ x, ∀ blanks sign rest, Blank blanks → IsSign sign → SetApart rest →
      Decimal.strtod (blanks ++ (sign ++ (text ++ rest))) =
        (withSign (decide (sign = [ch '-'])) x, blanks.length + sign.length + text.length) := by
  have literal := decimal
  obtain ⟨whole, point, fraction, exponent, rfl, wholeDigits, fractionDigits, some, shape, exponentShape⟩ := decimal
  obtain ⟨k, reads⟩ := readExponent_append exponentShape
  refine ⟨digitsValue (whole ++ fraction) * 10 ^ (k - fraction.length), fun blanks sign rest blank isSign apart => ?_⟩
  have stop := head_exponent exponentShape apart
  obtain ⟨taken, left⟩ := takeWhile_append_stop wholeDigits (head_point shape stop)
  have behind := readFraction_append fractionDigits shape stop
  obtain ⟨blanksTaken, front⟩ := literal.front rest blank isSign
  have drop : (point ++ (fraction ++ (exponent ++ rest))).drop (point ++ fraction).length = exponent ++ rest := by
    rw [← List.append_assoc, List.drop_left]
  have nonempty : (whole.isEmpty && fraction.isEmpty) = false := by
    cases whole with
    | cons d whole => rfl
    | nil =>
      cases fraction with
      | cons d fraction => rfl
      | nil => exact absurd rfl some
  rw [literal.strtod_eq_readDecimal blank isSign apart]
  unfold readDecimal
  simp only [blanksTaken, front]
  simp only [List.append_assoc] at taken left ⊢
  rw [taken, left, behind, drop]
  simp only [nonempty, reads rest apart, Bool.false_eq_true, if_false]
  refine Prod.ext rfl ?_
  simp only [List.length_append]
  omega

/-- Behind white space and a sign, the value of a literal is what it is on its own. -/
theorem IsDecimal.strtod_within {text : Str} (decimal : IsDecimal text) {blanks sign rest : Str} (blank : Blank blanks)
    (isSign : IsSign sign) (apart : SetApart rest) :
    Decimal.strtod (blanks ++ (sign ++ (text ++ rest))) =
      (withSign (decide (sign = [ch '-'])) (Decimal.strtod text).1, blanks.length + sign.length + text.length) := by
  obtain ⟨x, reads⟩ := decimal.strtod
  have alone := reads [] [] [] (List.forall_mem_nil _) List.mem_cons_self fun c first => by cases first
  rw [List.append_nil, List.nil_append, List.nil_append] at alone
  rw [reads blanks sign rest blank isSign apart, alone]
  rfl

theorem IsDecimal.strtod_blanks {text : Str} (decimal : IsDecimal text) {blanks rest : Str} (blank : Blank blanks)
    (apart : SetApart rest) : Decimal.strtod (blanks ++ (text ++ rest)) =
      ((Decimal.strtod text).1, blanks.length + text.length) :=
  @IsDecimal.strtod_within text decimal blanks [] rest blank List.mem_cons_self apart

/-- Every literal is read to its end. -/
theorem IsDecimal.readsLiteral {text : Str} (decimal : IsDecimal text) : ReadsLiteral ℚ text := by
  intro rest apart
  have read := decimal.strtod_blanks (List.forall_mem_nil _) apart
  rw [List.nil_append, List.length_nil, Nat.zero_add] at read
  exact read

/-! ## Expressions that are no literals -/

/-- A character that can be in no number, behind at most one sign. -/
theorem strtod_other {blanks sign : Str} (blank : Blank blanks) (isSign : IsSign sign) {c : UInt8} (s : Str)
    (behind : sign ≠ [] ∨ isSpace c = false) (digit : isDigit c = false) (point : c ≠ ch '.') (plus : c ≠ ch '+')
    (minus : c ≠ ch '-') : Decimal.strtod (blanks ++ (sign ++ c :: s)) = (0, 0) := by
  obtain ⟨taken, left⟩ := front_skipped blank isSign s behind
  have whole : (c :: s).takeWhile isDigit = [] ∧ (c :: s).dropWhile isDigit = c :: s := by simp [digit]
  have zero : c ≠ ch '0' := by
    rintro rfl
    cases digit
  rw [Decimal.strtod_eq_readDecimal (by rw [left, readSign_sign isSign s plus minus]; exact readHexadecimal_of_ne_zero s zero)]
  unfold readDecimal
  simp only [taken, left, readSign_sign isSign s plus minus, whole, readFraction, if_neg point]
  rfl

/-- Two signs in front. -/
theorem strtod_signs {blanks sign : Str} (blank : Blank blanks) (isSign : IsSign sign) (some : sign ≠ []) {c : UInt8}
    (again : c = ch '+' ∨ c = ch '-') (s : Str) : Decimal.strtod (blanks ++ (sign ++ c :: s)) = (0, 0) := by
  obtain ⟨taken, left⟩ := @front_skipped blanks sign blank isSign c s (Or.inl some)
  have split : ∃ negative, readSign (sign ++ c :: s) = (negative, 1, c :: s) := by
    rcases isSign.cases with rfl | rfl | rfl
    · exact absurd rfl some
    · exact ⟨false, rfl⟩
    · exact ⟨true, rfl⟩
  obtain ⟨negative, front⟩ := split
  have zero : c ≠ ch '0' := by rcases again with rfl | rfl <;> decide
  rw [Decimal.strtod_eq_readDecimal (by rw [left, front]; exact readHexadecimal_of_ne_zero s zero)]
  unfold readDecimal
  simp only [taken, left, front]
  rcases again with rfl | rfl <;> rfl

section Spine

variable {vm : VariableManager ℚ}

/-- In front of what may follow it, the text is not read to its end, or it is and has the value of the expression. -/
def StopsOrReads (vm : VariableManager ℚ) (e : ArithExp) (text : Str) : Prop :=
  ∀ rest, SetApart rest → (Decimal.strtod (text ++ rest)).2 < text.length ∨
    Decimal.strtod (text ++ rest) = (e.value vm, text.length) ∧
      Decimal.strtod (text ++ rest) = readDecimal (text ++ rest)

theorem setApart_symbol {blanks : Str} (blank : Blank blanks) (op : ArithOp) (s : Str) :
    SetApart (blanks ++ op.symbol :: s) := by
  intro c first
  cases blanks with
  | nil =>
    cases first
    exact Or.inr (by cases op <;> decide)
  | cons b blanks =>
    cases first
    exact Or.inl (blank c List.mem_cons_self)

/-- An operand behind a sign is a literal set directly behind it, or begins with something that is in no number. -/
theorem Writes.behind_sign {e : ArithExp} {t : Str} (writes : Writes 2 e t) :
    (e = .number t ∧ IsDecimal t) ∨ ∃ c s, t = c :: s ∧ isDigit c = false ∧ c ≠ ch '.' := by
  have first : ∀ {blanks : Str}, Blank blanks → ∀ c s, isDigit c = false → c ≠ ch '.' →
      ∃ d u, blanks ++ c :: s = d :: u ∧ isDigit d = false ∧ d ≠ ch '.' := by
    intro blanks blank c s digit point
    cases blanks with
    | nil => exact ⟨c, s, rfl, digit, point⟩
    | cons b blanks =>
      have space := blank b List.mem_cons_self
      refine ⟨b, _, rfl, Bool.eq_false_iff.2 fun same => ?_, ?_⟩
      · rw [not_space_of_digit same] at space
        cases space
      · rintro rfl
        cases space
  cases writes with
  | @number _ blanks text blank decimal =>
    cases blanks with
    | nil => exact Or.inl ⟨rfl, decimal⟩
    | cons b blanks =>
      have space := blank b List.mem_cons_self
      refine Or.inr ⟨b, _, rfl, Bool.eq_false_iff.2 fun same => ?_, ?_⟩
      · rw [not_space_of_digit same] at space
        cases space
      · rintro rfl
        cases space
  | named blank word =>
    obtain ⟨c, body, rfl, start, -⟩ := word
    have code := toNat_of_wordStart start
    have digit : isDigit c = false := by simp [isDigit]; omega
    exact Or.inr (first blank c body digit (ne_of_toNat_lt (by show 46 < c.toNat; omega)))
  | plus blank operand => exact Or.inr (first blank _ _ rfl (by decide))
  | minus blank operand => exact Or.inr (first blank _ _ rfl (by decide))
  | sqrt blank gap argument close => exact Or.inr (first blank _ _ rfl (by decide))
  | group blank inner close => exact Or.inr (first blank _ _ rfl (by decide))
  | @binary _ op _ _ _ _ _ binds => exact absurd binds (by cases op <;> decide)

theorem stopsOrReads_signed {e : ArithExp} {blanks t : Str} (blank : Blank blanks) (operand : Writes 2 e t)
    {sign : UInt8} (isSign : sign = ch '+' ∨ sign = ch '-') {e' : ArithExp}
    (value : e'.value vm = withSign (decide ([sign] = [ch '-'])) (e.value vm)) :
    StopsOrReads vm e' (blanks ++ sign :: t) := by
  have among : IsSign [sign] := by rcases isSign with rfl | rfl <;> simp [IsSign]
  intro rest apart
  have shape : blanks ++ sign :: t ++ rest = blanks ++ ([sign] ++ (t ++ rest)) := by simp
  rw [shape]
  rcases operand.behind_sign with ⟨rfl, decimal⟩ | ⟨c, s, rfl, digit, point⟩
  · refine .inr ⟨?_, decimal.strtod_eq_readDecimal blank among apart⟩
    rw [decimal.strtod_within blank among apart, value]
    refine Prod.ext rfl ?_
    simp only [List.length_append, List.length_cons, List.length_nil]
    omega
  · left
    show (Decimal.strtod (blanks ++ ([sign] ++ c :: (s ++ rest)))).2 < _
    by_cases again : c = ch '+' ∨ c = ch '-'
    · rw [strtod_signs blank among (List.cons_ne_nil _ _) again]
      simp
    · obtain ⟨plus, minus⟩ := not_or.1 again
      rw [strtod_other blank among _ (Or.inl (List.cons_ne_nil _ _)) digit point plus minus]
      simp

/-- The leftmost operand decides how far the text is read. -/
theorem Writes.stopsOrReads {prec : Nat} {e : ArithExp} {text : Str} (writes : Writes prec e text) :
    StopsOrReads vm e text := by
  have none : IsSign [] := List.mem_cons_self
  induction writes with
  | number blank decimal =>
    intro rest apart
    rw [List.append_assoc]
    refine .inr ⟨?_, decimal.strtod_eq_readDecimal blank none apart⟩
    rw [decimal.strtod_blanks blank apart, List.length_append]
    rfl
  | named blank word =>
    intro rest _
    obtain ⟨c, body, rfl, start, -⟩ := word
    have code := toNat_of_wordStart start
    have digit : isDigit c = false := by simp [isDigit]; omega
    have other : ∀ k : UInt8, k.toNat < 65 → c ≠ k := fun k small => ne_of_toNat_lt (by omega)
    have read := strtod_other blank none (body ++ rest) (Or.inr (NumericExpressionParser.not_space_of_name start)) digit
      (other (ch '.') (by decide)) (other (ch '+') (by decide)) (other (ch '-') (by decide))
    left
    rw [List.append_assoc, List.cons_append]
    rw [List.nil_append] at read
    rw [read]
    simp
  | plus blank operand => exact stopsOrReads_signed blank operand (Or.inl rfl) rfl
  | minus blank operand => exact stopsOrReads_signed blank operand (Or.inr rfl) rfl
  | @sqrt prec blanks between t behind e blank gap argument close =>
    intro rest _
    have solid : isSpace (ch 's') = false := rfl
    have read := strtod_other blank none (lit "qrt" ++ (between ++ ch '(' :: (t ++ (behind ++ [ch ')']))) ++ rest)
      (Or.inr solid) rfl (by decide) (by decide) (by decide)
    left
    rw [List.append_assoc]
    exact (congrArg Prod.snd read).trans_lt (by simp)
  | @group prec blanks t behind e blank inner close =>
    intro rest _
    have solid : isSpace (ch '(') = false := rfl
    have read := strtod_other blank none (t ++ (behind ++ [ch ')']) ++ rest) (Or.inr solid) rfl (by decide) (by decide)
      (by decide)
    left
    rw [List.append_assoc]
    exact (congrArg Prod.snd read).trans_lt (by simp)
  | @binary prec op blanks t u l r binds left blank right ihl ihr =>
    intro rest apart
    have shape : t ++ (blanks ++ op.symbol :: u) ++ rest = t ++ (blanks ++ op.symbol :: (u ++ rest)) := by simp
    left
    rw [shape, List.length_append]
    rcases ihl _ (setApart_symbol blank op (u ++ rest)) with short | whole
    · omega
    · rw [whole.1]
      simp

end Spine

/-! ## The characters of an expression -/

/-- The characters of a decimal or a word, and those an expression puts between them. -/
def InExpression (c : UInt8) : Prop :=
  isSpace c = true ∨ isWordChar c = true ∨ c ∈ [ch '.', ch '+', ch '-', ch '*', ch '/', ch '(', ch ')']

theorem inExpression_digit {c : UInt8} (digit : isDigit c = true) : InExpression c :=
  .inr (.inl (by simp [isWordChar, isAlnum, digit]))

theorem IsDecimal.chars {text : Str} (decimal : IsDecimal text) : ∀ c ∈ text, InExpression c ∧ isSpace c = false := by
  obtain ⟨whole, point, fraction, exponent, rfl, wholeDigits, fractionDigits, -, shape, exponentShape⟩ := decimal
  have digits : ∀ s : Str, Digits s → ∀ c ∈ s, InExpression c ∧ isSpace c = false :=
    fun s all c mem => ⟨inExpression_digit (all c mem), not_space_of_digit (all c mem)⟩
  have dot : ∀ c ∈ point, InExpression c ∧ isSpace c = false := by
    rcases shape with ⟨rfl, -⟩ | rfl
    · exact List.forall_mem_nil _
    · exact List.forall_mem_singleton.2 ⟨.inr (.inr List.mem_cons_self), rfl⟩
  have power : ∀ c ∈ exponent, InExpression c ∧ isSpace c = false := by
    rcases exponentShape with rfl | ⟨e, sign, powers, rfl, letter, isSign, -, all⟩
    · exact List.forall_mem_nil _
    · refine List.forall_mem_append.2 ⟨List.forall_mem_cons.2 ⟨?_, ?_⟩, digits _ all⟩
      · rcases letter with rfl | rfl <;> exact ⟨.inr (.inl rfl), rfl⟩
      · rcases IsSign.cases isSign with rfl | rfl | rfl
        · exact List.forall_mem_nil _
        · exact List.forall_mem_singleton.2 ⟨.inr (.inr (by decide)), rfl⟩
        · exact List.forall_mem_singleton.2 ⟨.inr (.inr (by decide)), rfl⟩
  exact List.forall_mem_append.2 ⟨digits _ wholeDigits, List.forall_mem_append.2 ⟨dot,
    List.forall_mem_append.2 ⟨digits _ fractionDigits, power⟩⟩⟩

theorem IsName.chars {text : Str} (word : IsName text) : ∀ c ∈ text, InExpression c ∧ isSpace c = false := by
  obtain ⟨c, body, rfl, start, inside⟩ := word
  have wordChar : ∀ x ∈ c :: body, isWordChar x = true := by
    refine List.forall_mem_cons.2 ⟨?_, inside⟩
    rcases start with alpha | rfl
    · simp [isWordChar, isAlnum, alpha]
    · rfl
  intro x mem
  refine ⟨.inr (.inl (wordChar x mem)), Bool.eq_false_iff.2 fun space => ?_⟩
  have char := wordChar x mem
  rw [Constraint.not_wordChar_of_isSpace space] at char
  cases char

theorem Writes.chars {prec : Nat} {e : ArithExp} {text : Str} (writes : Writes prec e text) :
    ∀ c ∈ text, InExpression c := by
  have space : ∀ {s : Str}, Blank s → ∀ c ∈ s, InExpression c := fun blank c mem => .inl (blank c mem)
  have symbol : ∀ c ∈ [ch '.', ch '+', ch '-', ch '*', ch '/', ch '(', ch ')'], InExpression c :=
    fun c mem => .inr (.inr mem)
  have close : ∀ {s : Str}, Blank s → ∀ c ∈ s ++ [ch ')'], InExpression c := fun blank =>
    List.forall_mem_append.2 ⟨space blank, List.forall_mem_singleton.2 (symbol _ (by decide))⟩
  induction writes with
  | number blank decimal => exact List.forall_mem_append.2 ⟨space blank, fun c mem => (decimal.chars c mem).1⟩
  | named blank word => exact List.forall_mem_append.2 ⟨space blank, fun c mem => (word.chars c mem).1⟩
  | plus blank _ ih => exact List.forall_mem_append.2 ⟨space blank, List.forall_mem_cons.2 ⟨symbol _ (by decide), ih⟩⟩
  | minus blank _ ih => exact List.forall_mem_append.2 ⟨space blank, List.forall_mem_cons.2 ⟨symbol _ (by decide), ih⟩⟩
  | sqrt blank gap _ behind ih =>
    have name : ∀ c ∈ lit "sqrt", InExpression c := fun c mem => .inr (.inl (List.all_eq_true.1 (by decide) c mem))
    exact List.forall_mem_append.2 ⟨space blank, List.forall_mem_append.2 ⟨name, List.forall_mem_append.2 ⟨space gap,
      List.forall_mem_cons.2 ⟨symbol _ (by decide), List.forall_mem_append.2 ⟨ih, close behind⟩⟩⟩⟩⟩
  | group blank _ behind ih =>
    exact List.forall_mem_append.2 ⟨space blank,
      List.forall_mem_cons.2 ⟨symbol _ (by decide), List.forall_mem_append.2 ⟨ih, close behind⟩⟩⟩
  | @binary _ op _ _ _ _ _ _ _ blank _ ihl ihr =>
    exact List.forall_mem_append.2 ⟨ihl, List.forall_mem_append.2 ⟨space blank,
      List.forall_mem_cons.2 ⟨symbol _ (by cases op <;> decide), ihr⟩⟩⟩

/-- The last character is no white space. -/
theorem Writes.last {prec : Nat} {e : ArithExp} {text : Str} (writes : Writes prec e text) :
    ∃ front c, text = front ++ [c] ∧ isSpace c = false := by
  have ends : ∀ s : Str, s ≠ [] → (∀ c ∈ s, InExpression c ∧ isSpace c = false) →
      ∃ front c, s = front ++ [c] ∧ isSpace c = false := by
    intro s some all
    exact ⟨s.dropLast, s.getLast some, (List.dropLast_append_getLast some).symm, (all _ (List.getLast_mem some)).2⟩
  have behind : ∀ {s : Str} (t : Str), (∃ front c, s = front ++ [c] ∧ isSpace c = false) →
      ∃ front c, t ++ s = front ++ [c] ∧ isSpace c = false := by
    rintro s t ⟨front, c, rfl, solid⟩
    exact ⟨t ++ front, c, (List.append_assoc _ _ _).symm, solid⟩
  have paren : ∃ front c, [ch ')'] = front ++ [c] ∧ isSpace c = false := ⟨[], ch ')', rfl, rfl⟩
  induction writes with
  | number blank decimal =>
    obtain ⟨c, body, rfl, -⟩ := decimal.first
    exact behind _ (ends _ (List.cons_ne_nil _ _) decimal.chars)
  | named blank word =>
    have chars := word.chars
    obtain ⟨c, body, rfl, -⟩ := word
    exact behind _ (ends _ (List.cons_ne_nil _ _) chars)
  | plus blank _ ih => exact behind _ (behind [ch '+'] ih)
  | minus blank _ ih => exact behind _ (behind [ch '-'] ih)
  | sqrt blank gap _ close ih => exact behind _ (behind _ (behind _ (behind [ch '('] (behind _ (behind _ paren)))))
  | group blank _ close ih => exact behind _ (behind [ch '('] (behind _ (behind _ paren)))
  | @binary _ op _ _ _ _ _ _ _ blank _ ihl ihr => exact behind _ (behind _ (behind [op.symbol] ihr))

/-- The white space in front can be left out. -/
theorem Writes.core {prec : Nat} {e : ArithExp} {text : Str} (writes : Writes prec e text) :
    ∃ blanks c body, text = blanks ++ c :: body ∧ Blank blanks ∧ isSpace c = false ∧ Writes prec e (c :: body) := by
  have none : Blank [] := List.forall_mem_nil _
  induction writes with
  | @number prec blanks text blank decimal =>
    obtain ⟨c, body, rfl, -⟩ := decimal.first
    exact ⟨blanks, c, body, rfl, blank, (decimal.chars c List.mem_cons_self).2, .number none decimal⟩
  | @named prec blanks name blank word =>
    have chars := word.chars
    have whole := @Writes.named prec [] name none word
    obtain ⟨c, body, rfl, -⟩ := word
    exact ⟨blanks, c, body, rfl, blank, (chars c List.mem_cons_self).2, whole⟩
  | @plus prec blanks t e blank operand => exact ⟨blanks, ch '+', t, rfl, blank, rfl, .plus none operand⟩
  | @minus prec blanks t e blank operand => exact ⟨blanks, ch '-', t, rfl, blank, rfl, .minus none operand⟩
  | @sqrt prec blanks between t behind e blank gap argument close =>
    exact ⟨blanks, ch 's', _, rfl, blank, rfl, @Writes.sqrt prec [] between t behind e none gap argument close⟩
  | @group prec blanks t behind e blank inner close =>
    exact ⟨blanks, ch '(', _, rfl, blank, rfl, @Writes.group prec [] t behind e none inner close⟩
  | @binary prec op blanks t u l r binds left blank right ihl ihr =>
    obtain ⟨front, c, body, rfl, blankFront, solid, operand⟩ := ihl
    refine ⟨front, c, body ++ (blanks ++ op.symbol :: u), ?_, blankFront, solid, .binary binds operand blank right⟩
    rw [List.append_assoc, List.cons_append]

/-- What the executor looks at is the text without the white space around it. -/
theorem Writes.trimmed {e : ArithExp} {text behind : Str} (writes : Writes 0 e text) (blank : Blank behind) :
    Writes 0 e (trim (text ++ behind)) ∧ ∃ c body, trim (text ++ behind) = c :: body ∧ isSpace c = false := by
  obtain ⟨blanks, c, body, rfl, front, solid, core⟩ := writes.core
  obtain ⟨init, d, ends, last⟩ := core.last
  have trimmed := trim_around front blank solid last ends
  rw [List.append_assoc, trimmed]
  exact ⟨core, c, body, rfl, solid⟩

/-- A text that is not a name has a character in it that is neither a letter nor white space. -/
theorem Writes.named_or {prec : Nat} {e : ArithExp} {text : Str} (writes : Writes prec e text) :
    (∃ blanks name, e = .named name ∧ text = blanks ++ name ∧ Blank blanks) ∨
      ∃ c ∈ text, isAlpha c = false ∧ c ≠ ch '_' := by
  cases writes with
  | number blank decimal =>
    obtain ⟨c, body, rfl, start⟩ := decimal.first
    refine Or.inr ⟨c, by simp, ?_⟩
    rcases start with digit | rfl
    · simp [isDigit] at digit
      refine ⟨?_, (ne_of_toNat_lt (show c.toNat < 95 by omega)).symm⟩
      simp [isAlpha]
      omega
    · decide
  | named blank word => exact Or.inl ⟨_, _, rfl, rfl, blank⟩
  | plus blank operand => exact Or.inr ⟨ch '+', by simp, by decide⟩
  | minus blank operand => exact Or.inr ⟨ch '-', by simp, by decide⟩
  | sqrt blank gap argument close => exact Or.inr ⟨ch '(', by simp, by decide⟩
  | group blank inner close => exact Or.inr ⟨ch '(', by simp, by decide⟩
  | @binary _ op => exact Or.inr ⟨op.symbol, by simp, by cases op <;> decide⟩

end Actuator.Executor
