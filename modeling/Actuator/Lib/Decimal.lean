import Actuator.Lib.Double
import Mathlib.Data.Int.Log
import Mathlib.Data.Rat.Floor
import Mathlib.Tactic.FieldSimp
import Mathlib.Tactic.Linarith
import Mathlib.Tactic.NormNum
import Mathlib.Tactic.Ring

/-!
# Numbers as exact decimals

A rational number in place of a `double`: what is written in decimal is read
without rounding, and printing rounds to six significant digits, as `%g` does.
A number that is printed reads back as the number rounded.
-/

namespace Actuator.Lib.Decimal

/-! ## Reading -/

/-- The digits behind a point, with the number of characters used. -/
def readFraction (digit : UInt8 → Bool) : Str → Str × Nat
  | [] => ([], 0)
  | c :: s => if c = ch '.' then (s.takeWhile digit, 1 + (s.takeWhile digit).length) else ([], 0)

/-- An exponent behind one of the two letters, with the number of characters used. Without a digit in it there is
none. -/
def readExponent (lower upper : UInt8) : Str → Int × Nat
  | [] => (0, 0)
  | c :: s =>
    if c = lower ∨ c = upper then
      let (negative, signLength, body) := readSign s
      let digits := body.takeWhile isDigit
      if digits.isEmpty then (0, 0) else (signedValue negative digits, 1 + signLength + digits.length)
    else (0, 0)

def withSign (negative : Bool) (x : ℚ) : ℚ := if negative then -x else x

/-- A decimal number at the front of the text: sign, digits with a point among them, exponent. -/
def readDecimal (s : Str) : ℚ × Nat :=
  let blanks := s.takeWhile isSpace
  let (negative, signLength, body) := readSign (s.dropWhile isSpace)
  let whole := body.takeWhile isDigit
  let (fraction, fractionLength) := readFraction isDigit (body.dropWhile isDigit)
  if whole.isEmpty && fraction.isEmpty then (0, 0)
  else
    let (exponent, exponentLength) := readExponent (ch 'e') (ch 'E') ((body.dropWhile isDigit).drop fractionLength)
    (withSign negative (digitsValue (whole ++ fraction) * 10 ^ (exponent - fraction.length)),
      blanks.length + signLength + whole.length + fractionLength + exponentLength)

/-- `std::isxdigit`. -/
def isHexDigit (c : UInt8) : Bool :=
  isDigit c || (65 ≤ c.toNat && c.toNat ≤ 70) || (97 ≤ c.toNat && c.toNat ≤ 102)

def hexDigitsValue (digits : Str) : Nat :=
  digits.foldl (fun n c => n * 16 + (if isDigit c then c.toNat - 48 else (toUpper c).toNat - 55)) 0

/-- The digits of a hexadecimal number with a point among them, and an exponent of two. -/
def readHexDigits (s : Str) : Option (ℚ × Nat) :=
  let whole := s.takeWhile isHexDigit
  let (fraction, fractionLength) := readFraction isHexDigit (s.dropWhile isHexDigit)
  if whole.isEmpty && fraction.isEmpty then none
  else
    let (exponent, exponentLength) := readExponent (ch 'p') (ch 'P') ((s.dropWhile isHexDigit).drop fractionLength)
    some (hexDigitsValue (whole ++ fraction) * 2 ^ (exponent - 4 * fraction.length),
      whole.length + fractionLength + exponentLength)

/-- A hexadecimal number behind its `0x`. Without a digit there is none, and `strtod` reads the zero. -/
def readHexadecimal : Str → Option (ℚ × Nat)
  | zero :: x :: s =>
    if zero = ch '0' ∧ (x = ch 'x' ∨ x = ch 'X') then (readHexDigits s).map fun number => (number.1, 2 + number.2)
    else none
  | _ => none

/-- A number at the front of the text. The words for an infinity and for no number stand for none of these numbers. -/
def strtod (s : Str) : ℚ × Nat :=
  let (negative, signLength, body) := readSign (s.dropWhile isSpace)
  match readHexadecimal body with
  | some (x, used) => (withSign negative x, (s.takeWhile isSpace).length + signLength + used)
  | none => readDecimal s

/-- Whatever is in front of the second character of a number that is no `x`, the number is decimal. -/
theorem readHexadecimal_eq_none {c : UInt8} {s : Str} (other : ∀ x ∈ s.head?, x ≠ ch 'x' ∧ x ≠ ch 'X') :
    readHexadecimal (c :: s) = none := by
  cases s with
  | nil => rfl
  | cons x s =>
    obtain ⟨lower, upper⟩ := other x rfl
    exact if_neg fun both => both.2.elim lower upper

theorem readHexadecimal_of_ne_zero {c : UInt8} (s : Str) (other : c ≠ ch '0') : readHexadecimal (c :: s) = none := by
  cases s with
  | nil => rfl
  | cons x s => exact if_neg fun both => other both.1

theorem strtod_eq_readDecimal {s : Str} (plain : readHexadecimal (readSign (s.dropWhile isSpace)).2.2 = none) :
    strtod s = readDecimal s := by
  unfold strtod
  simp only [plain]

theorem length_readFraction_le (digit : UInt8 → Bool) (s : Str) : (readFraction digit s).2 ≤ s.length := by
  cases s with
  | nil => exact le_refl 0
  | cons c s =>
    have digits := (List.takeWhile_prefix digit (l := s)).length_le
    rw [readFraction]
    split
    · show 1 + _ ≤ s.length + 1
      omega
    · exact Nat.zero_le _

theorem length_readExponent_le (lower upper : UInt8) (s : Str) : (readExponent lower upper s).2 ≤ s.length := by
  cases s with
  | nil => exact le_refl 0
  | cons c s =>
    obtain ⟨negative, sign, body, -, rfl, read⟩ := readSign_shape s
    have digits := (List.takeWhile_prefix isDigit (l := body)).length_le
    simp only [readExponent, read]
    split
    · split
      · exact Nat.zero_le _
      · simp only [List.length_cons, List.length_append]
        omega
    · exact Nat.zero_le _

/-- Digits, a fraction and an exponent are no longer than the text they are read from. -/
theorem length_digits_le (digit : UInt8 → Bool) (lower upper : UInt8) (s : Str) :
    (s.takeWhile digit).length + (readFraction digit (s.dropWhile digit)).2 +
      (readExponent lower upper ((s.dropWhile digit).drop (readFraction digit (s.dropWhile digit)).2)).2 ≤ s.length := by
  have digits := congrArg List.length (List.takeWhile_append_dropWhile (p := digit) (l := s))
  have fraction := length_readFraction_le digit (s.dropWhile digit)
  have exponent := length_readExponent_le lower upper
    ((s.dropWhile digit).drop (readFraction digit (s.dropWhile digit)).2)
  rw [List.length_append] at digits
  rw [List.length_drop] at exponent
  omega

theorem readHexadecimal_used_le {s : Str} {x : ℚ} {used : Nat} (read : readHexadecimal s = some (x, used)) :
    used ≤ s.length := by
  unfold readHexadecimal at read
  split at read
  · rename_i zero c digits
    split at read
    · obtain ⟨number, found, same⟩ := Option.map_eq_some_iff.1 read
      have most := length_digits_le isHexDigit (ch 'p') (ch 'P') digits
      unfold readHexDigits at found
      dsimp only at found
      split at found
      · cases found
      · cases found
        cases same
        simp only [List.length_cons]
        omega
    · cases read
  · cases read

/-- Behind its white space a text begins with none. -/
theorem blanks_solid (s : Str) :
    (s.dropWhile isSpace).takeWhile isSpace = [] ∧ (s.dropWhile isSpace).dropWhile isSpace = s.dropWhile isSpace := by
  have again : (s.dropWhile isSpace).dropWhile isSpace = s.dropWhile isSpace := List.dropWhile_idempotent _ _
  have parts := List.takeWhile_append_dropWhile (p := isSpace) (l := s.dropWhile isSpace)
  rw [again] at parts
  exact ⟨List.append_left_eq_self.1 parts, again⟩

theorem length_solid_le (s : Str) : (s.takeWhile isSpace).length + (s.dropWhile isSpace).length = s.length := by
  rw [← List.length_append, List.takeWhile_append_dropWhile]

/-- A number is no longer than the text it is read from. -/
theorem strtod_used_le (s : Str) : (strtod s).2 ≤ s.length := by
  obtain ⟨negative, sign, body, -, shape, read⟩ := readSign_shape (s.dropWhile isSpace)
  have whole := length_solid_le s
  have most := length_digits_le isDigit (ch 'e') (ch 'E') body
  rw [shape, List.length_append] at whole
  unfold strtod
  simp only [read]
  cases hexadecimal : readHexadecimal body with
  | some number =>
    have used : number.2 ≤ body.length := readHexadecimal_used_le hexadecimal
    show _ + _ + number.2 ≤ _
    omega
  | none =>
    unfold readDecimal
    simp only [read]
    split
    · exact Nat.zero_le _
    · dsimp only
      omega

/-! ### What a number is written with -/

/-- A character of a number, whichever way it is written. -/
def InNumber (c : UInt8) : Prop := isAlnum c = true ∨ c ∈ [ch '+', ch '-', ch '.', ch '_', ch '(', ch ')']

theorem InNumber.solid {c : UInt8} (inside : InNumber c) : isSpace c = false := by
  rcases inside with letter | mark
  · simp only [isAlnum, isAlpha, isDigit, Bool.or_eq_true, Bool.and_eq_true, decide_eq_true_eq] at letter
    simp only [isSpace, Bool.or_eq_false_iff, Bool.and_eq_false_iff, decide_eq_false_iff_not, beq_eq_false_iff_ne]
    omega
  · exact (by decide +kernel : ∀ c ∈ [ch '+', ch '-', ch '.', ch '_', ch '(', ch ')'], isSpace c = false) c mark

theorem inNumber_digit {c : UInt8} (digit : isDigit c = true) : InNumber c := .inl (by simp [isAlnum, digit])

theorem inNumber_sign {sign : Str} (isSign : IsSign sign) : ∀ c ∈ sign, InNumber c := by
  rcases isSign.cases with rfl | rfl | rfl
  · exact List.forall_mem_nil _
  · exact List.forall_mem_singleton.2 (.inr (by decide))
  · exact List.forall_mem_singleton.2 (.inr (by decide))

theorem inNumber_of_isHexDigit {c : UInt8} (digit : isHexDigit c = true) : InNumber c := by
  refine .inl ?_
  simp only [isHexDigit, isAlnum, isAlpha, isDigit, Bool.or_eq_true, Bool.and_eq_true, decide_eq_true_eq] at digit ⊢
  omega

theorem inNumber_fraction {digit : UInt8 → Bool} (digits : ∀ c, digit c = true → InNumber c) (s : Str) :
    ∀ c ∈ s.take (readFraction digit s).2, InNumber c := by
  cases s with
  | nil => exact List.forall_mem_nil _
  | cons c s =>
    rw [readFraction]
    split
    · rename_i point
      dsimp only
      rw [Nat.add_comm, List.take_succ_cons, point, ← List.prefix_iff_eq_take.1 (List.takeWhile_prefix digit)]
      exact List.forall_mem_cons.2 ⟨.inr (by decide), fun d mem => digits d (List.mem_takeWhile_imp mem)⟩
    · exact List.forall_mem_nil _

theorem inNumber_exponent {lower upper : UInt8} (letters : InNumber lower ∧ InNumber upper) (s : Str) :
    ∀ c ∈ s.take (readExponent lower upper s).2, InNumber c := by
  cases s with
  | nil => exact List.forall_mem_nil _
  | cons c s =>
    obtain ⟨negative, sign, body, isSign, rfl, read⟩ := readSign_shape s
    simp only [readExponent, read]
    split
    · rename_i letter
      split
      · exact List.forall_mem_nil _
      · dsimp only
        rw [show 1 + sign.length + (body.takeWhile isDigit).length = sign.length + (body.takeWhile isDigit).length + 1 by omega,
          List.take_succ_cons, List.take_length_add_append, ← List.prefix_iff_eq_take.1 (List.takeWhile_prefix isDigit)]
        refine List.forall_mem_cons.2 ⟨?_, List.forall_mem_append.2 ⟨inNumber_sign isSign, fun d mem => ?_⟩⟩
        · rcases letter with rfl | rfl
          · exact letters.1
          · exact letters.2
        · exact inNumber_digit (List.mem_takeWhile_imp mem)
    · exact List.forall_mem_nil _

/-- Digits, a fraction and an exponent that make up the text. -/
theorem inNumber_digits {digit : UInt8 → Bool} (digits : ∀ c, digit c = true → InNumber c) {lower upper : UInt8}
    (letters : InNumber lower ∧ InNumber upper) {s : Str}
    (whole : (s.takeWhile digit).length + (readFraction digit (s.dropWhile digit)).2 +
      (readExponent lower upper ((s.dropWhile digit).drop (readFraction digit (s.dropWhile digit)).2)).2 = s.length) :
    ∀ c ∈ s, InNumber c := by
  have split := congrArg List.length (List.takeWhile_append_dropWhile (p := digit) (l := s))
  rw [List.length_append] at split
  have rest : (s.dropWhile digit).take ((readFraction digit (s.dropWhile digit)).2 +
      (readExponent lower upper ((s.dropWhile digit).drop (readFraction digit (s.dropWhile digit)).2)).2) =
        s.dropWhile digit := List.take_of_length_le (by omega)
  rw [List.take_add] at rest
  rw [← List.takeWhile_append_dropWhile (p := digit) (l := s), ← rest]
  refine List.forall_mem_append.2 ⟨fun c mem => digits c (List.mem_takeWhile_imp mem), ?_⟩
  exact List.forall_mem_append.2 ⟨inNumber_fraction digits _, inNumber_exponent letters _⟩

theorem inNumber_hexadecimal {s : Str} {x : ℚ} (read : readHexadecimal s = some (x, s.length)) :
    ∀ c ∈ s, InNumber c := by
  unfold readHexadecimal at read
  split at read
  · rename_i zero c digits
    split at read
    · rename_i shape
      obtain ⟨number, found, same⟩ := Option.map_eq_some_iff.1 read
      have all : ∀ c, isHexDigit c = true → InNumber c := fun _ => inNumber_of_isHexDigit
      have letters : InNumber (ch 'p') ∧ InNumber (ch 'P') := ⟨.inl rfl, .inl rfl⟩
      unfold readHexDigits at found
      dsimp only at found
      split at found
      · cases found
      · cases found
        have length := (Prod.mk.inj same).2
        simp only [List.length_cons] at length
        have mark : InNumber c := by rcases shape.2 with rfl | rfl <;> exact .inl rfl
        rw [shape.1]
        exact List.forall_mem_cons.2 ⟨.inl rfl, List.forall_mem_cons.2 ⟨mark, inNumber_digits all letters (by omega)⟩⟩
    · cases read
  · cases read

/-- A text read to its end has only characters of numbers behind its white space. -/
theorem inNumber_strtod {s : Str} (some : s ≠ []) (whole : (strtod s).2 = s.length) :
    ∀ c ∈ s.dropWhile isSpace, InNumber c := by
  obtain ⟨negative, sign, body, isSign, shape, read⟩ := readSign_shape (s.dropWhile isSpace)
  have length := length_solid_le s
  have all : ∀ c, isDigit c = true → InNumber c := fun _ => inNumber_digit
  have letters : InNumber (ch 'e') ∧ InNumber (ch 'E') := ⟨.inl rfl, .inl rfl⟩
  rw [shape, List.length_append] at length
  rw [shape]
  refine List.forall_mem_append.2 ⟨inNumber_sign isSign, ?_⟩
  unfold strtod at whole
  simp only [read] at whole
  cases hexadecimal : readHexadecimal body with
  | some number =>
    rw [hexadecimal] at whole
    have used : number.2 = body.length := by
      change _ + _ + number.2 = _ at whole
      omega
    refine @inNumber_hexadecimal body number.1 ?_
    rw [hexadecimal, ← used]
  | none =>
    rw [hexadecimal] at whole
    unfold readDecimal at whole
    simp only [read] at whole
    split at whole
    · exact absurd (List.length_eq_zero_iff.1 whole.symm) some
    · dsimp only at whole
      exact inNumber_digits all letters (by omega)

/-- A number is what it is without the white space in front of it. -/
theorem strtod_skip (s : Str) (read : (strtod s).2 ≠ 0) :
    strtod s = ((strtod (s.dropWhile isSpace)).1, (s.takeWhile isSpace).length + (strtod (s.dropWhile isSpace)).2) := by
  obtain ⟨none, again⟩ := blanks_solid s
  unfold strtod readDecimal at read ⊢
  rw [again, none]
  obtain ⟨negative, sign, body, -, -, shape⟩ := readSign_shape (s.dropWhile isSpace)
  simp only [shape] at read ⊢
  cases hexadecimal : readHexadecimal body with
  | some number =>
    refine Prod.ext rfl ?_
    simp only [List.length_nil]
    omega
  | none =>
    rw [hexadecimal] at read
    dsimp only at read ⊢
    split at read
    · exact absurd rfl read
    · rename_i found
      simp only [if_neg found, List.length_nil]
      refine Prod.ext rfl ?_
      dsimp only
      omega

/-- What `stod` converts: a number that is not rounded to an infinity, and below the normal numbers only one that is not
rounded at all. Whether it is below is judged by its rounding to 53 digits. -/
def InDoubleRange (x : ℚ) : Prop :=
  |x| < 2 ^ 1024 - 2 ^ 970 ∧ (2 ^ 54 - 1 ≤ |x| * 2 ^ 1076 ∨ (x * 2 ^ 1074).den = 1)

instance decidableInDoubleRange (x : ℚ) : Decidable (InDoubleRange x) := by unfold InDoubleRange; infer_instance

def stod (s : Str) : Option (ℚ × Nat) :=
  let (x, used) := strtod s
  if used = 0 ∨ ¬InDoubleRange x then none else some (x, used)

theorem strtod_of_stod {s : Str} {x : ℚ} {used : Nat} (read : stod s = some (x, used)) :
    strtod s = (x, used) ∧ used ≠ 0 := by
  unfold stod at read
  dsimp only at read
  split at read
  · cases read
  · rename_i kept
    obtain ⟨some, -⟩ := not_or.1 kept
    obtain ⟨value, length⟩ := Prod.mk.inj (Option.some.inj read)
    exact ⟨Prod.ext value length, length ▸ some⟩

/-! ## Printing -/

/-- The nearest whole number, the even one in the middle between two. -/
def nearestEven (x : ℚ) : ℤ :=
  if 2 * Int.fract x < 1 ∨ (2 * Int.fract x = 1 ∧ ⌊x⌋ % 2 = 0) then ⌊x⌋ else ⌊x⌋ + 1

/-- The six significant digits of a positive number, and the exponent of the first of them. -/
def significant (x : ℚ) : ℕ × ℤ :=
  let e := Int.log 10 x
  let m := (nearestEven (x * 10 ^ (5 - e))).toNat
  if m = 1000000 then (100000, e + 1) else (m, e)

/-- The number rounded to six significant digits. -/
def roundSix (x : ℚ) : ℚ :=
  if x = 0 then 0
  else
    let (m, e) := significant |x|
    withSign (decide (x < 0)) (m * 10 ^ (e - 5))

/-- Digits behind the point, without trailing zeros. -/
def fractionText (digits : Str) : Str :=
  let kept := digits.rdropWhile (· = ch '0')
  if kept.isEmpty then [] else ch '.' :: kept

/-- An exponent of at least two digits. -/
def exponentText (e : ℤ) : Str :=
  ch 'e' :: (if e < 0 then ch '-' else ch '+') :: ((if e.natAbs < 10 then [ch '0'] else []) ++ natToString e.natAbs)

/-- Six significant digits in the format `%g`: an exponent when it is below `-4` or above `5`. -/
def generalText (m : ℕ) (e : ℤ) : Str :=
  let digits := natToString m
  if -4 ≤ e ∧ e < 0 then ch '0' :: fractionText (List.replicate (-e - 1).toNat (ch '0') ++ digits)
  else if 0 ≤ e ∧ e < 6 then digits.take (e.toNat + 1) ++ fractionText (digits.drop (e.toNat + 1))
  else digits.take 1 ++ fractionText (digits.drop 1) ++ exponentText e

def toText (x : ℚ) : Str :=
  if x = 0 then lit "0"
  else
    let (m, e) := significant |x|
    signed (decide (x < 0)) (generalText m e)

/-- An ASCII text as a string. -/
def ofAscii (s : Str) : String := String.ofList (s.map fun c => Char.ofNat c.toNat)

/-- Exact arithmetic, except that the square root is rounded down at twelve decimals. -/
instance rationalDouble : CxxDouble ℚ where
  ofInt v := v.toInt
  strtod := strtod
  stod := stod
  neg x := -x
  add x y := x + y
  sub x y := x - y
  mul x y := x * y
  div x y := x / y
  abs x := |x|
  sqrt x := Nat.sqrt ⌊x * 10 ^ 24⌋.toNat / 10 ^ 12
  round x := withSign (decide (x < 0)) ⌊|x| + 1 / 2⌋
  llround x := if x < 0 then -⌊|x| + 1 / 2⌋ else ⌊|x| + 1 / 2⌋
  lt x y := decide (x < y)
  le x y := decide (x ≤ y)
  toInt x := Int32.ofInt (if x < 0 then -⌊|x|⌋ else ⌊|x|⌋)
  toUInt64 x := UInt64.ofNat ⌊x⌋.toNat
  toText x :=
    let millionths := (nearestEven (|x| * 1000000)).toNat
    let fraction := natToString (millionths % 1000000)
    signed (decide (x < 0)) (natToString (millionths / 1000000) ++
      ch '.' :: (List.replicate (6 - fraction.length) (ch '0') ++ fraction))
  toStream x := ofAscii (toText x)
  tenToMinus k := 1 / 10 ^ k

/-! ## Rounding -/

/-- A whole number below a million in front of a power of ten. -/
def SixDigits (x : ℚ) : Prop := ∃ m k : ℤ, |m| < 1000000 ∧ x = m * 10 ^ k

theorem nearestEven_intCast (n : ℤ) : nearestEven n = n := by simp [nearestEven]

theorem nearestEven_bounds {x : ℚ} {low high : ℤ} (le : (low : ℚ) ≤ x) (lt : x < high) :
    low ≤ nearestEven x ∧ nearestEven x ≤ high := by
  have down : low ≤ ⌊x⌋ := Int.le_floor.2 le
  have up : ⌊x⌋ < high := Int.floor_lt.2 lt
  unfold nearestEven
  split <;> omega

theorem log_spec {x : ℚ} (pos : 0 < x) :
    (10 : ℚ) ^ Int.log 10 x ≤ x ∧ x < (10 : ℚ) ^ (Int.log 10 x + 1) :=
  ⟨by simpa using Int.zpow_log_le_self (R := ℚ) (b := 10) (by decide) pos,
    by simpa using Int.lt_zpow_succ_log_self (R := ℚ) (b := 10) (by decide) x⟩

theorem pow_ten_pos (k : ℤ) : (0 : ℚ) < 10 ^ k := zpow_pos (by norm_num) k

/-- The number in units of its sixth digit. -/
theorem scaled_bounds {x : ℚ} (pos : 0 < x) :
    ((100000 : ℤ) : ℚ) ≤ x * 10 ^ (5 - Int.log 10 x) ∧ x * 10 ^ (5 - Int.log 10 x) < ((1000000 : ℤ) : ℚ) := by
  obtain ⟨low, high⟩ := log_spec pos
  have unit := pow_ten_pos (5 - Int.log 10 x)
  have least : (10 : ℚ) ^ Int.log 10 x * 10 ^ (5 - Int.log 10 x) = 100000 := by
    rw [← zpow_add₀ (by norm_num), show Int.log 10 x + (5 - Int.log 10 x) = 5 by ring]
    norm_num
  have most : (10 : ℚ) ^ (Int.log 10 x + 1) * 10 ^ (5 - Int.log 10 x) = 1000000 := by
    rw [← zpow_add₀ (by norm_num), show Int.log 10 x + 1 + (5 - Int.log 10 x) = 6 by ring]
    norm_num
  constructor
  · push_cast
    rw [← least]
    exact mul_le_mul_of_nonneg_right low unit.le
  · push_cast
    rw [← most]
    exact mul_lt_mul_of_pos_right high unit

/-- The digits are six, and stand for the number in units of its sixth digit, rounded. -/
theorem significant_spec {x : ℚ} (pos : 0 < x) {m : ℕ} {e : ℤ} (eq : significant x = (m, e)) :
    100000 ≤ m ∧ m < 1000000 ∧
      (m : ℚ) * 10 ^ (e - 5) = nearestEven (x * 10 ^ (5 - Int.log 10 x)) * 10 ^ (Int.log 10 x - 5) := by
  obtain ⟨low, high⟩ := scaled_bounds pos
  obtain ⟨least, most⟩ := nearestEven_bounds low high
  unfold significant at eq
  dsimp only at eq
  generalize nearestEven (x * 10 ^ (5 - Int.log 10 x)) = n at least most eq ⊢
  have cast : ((n.toNat : ℕ) : ℚ) = n := by
    rw [← Int.cast_natCast, Int.toNat_of_nonneg (by omega)]
  by_cases carry : n.toNat = 1000000
  · rw [if_pos carry] at eq
    cases eq
    refine ⟨by norm_num, by norm_num, ?_⟩
    rw [← cast, carry, show Int.log 10 x + 1 - 5 = (Int.log 10 x - 5) + 1 by ring, zpow_add_one₀ (by norm_num)]
    push_cast
    ring
  · rw [if_neg carry] at eq
    cases eq
    exact ⟨by omega, by omega, by rw [cast]⟩

theorem withSign_abs (x : ℚ) : withSign (decide (x < 0)) |x| = x := by
  unfold withSign
  by_cases negative : x < 0
  · rw [if_pos (decide_eq_true negative), abs_of_neg negative, neg_neg]
  · rw [if_neg (by simpa using negative), abs_of_nonneg (not_lt.1 negative)]

/-- A number of six digits is a whole number of units of its sixth digit. -/
theorem nearestEven_scaled {x : ℚ} (pos : 0 < x) (six : SixDigits x) :
    (nearestEven (x * 10 ^ (5 - Int.log 10 x)) : ℚ) * 10 ^ (Int.log 10 x - 5) = x := by
  obtain ⟨n, k, few, eq⟩ := six
  have unit := pow_ten_pos k
  have bounded : (n : ℚ) < 1000000 := by exact_mod_cast (abs_lt.1 few).2
  have less : (10 : ℚ) ^ Int.log 10 x < 10 ^ (k + 6) := by
    calc (10 : ℚ) ^ Int.log 10 x ≤ n * 10 ^ k := by rw [← eq]; exact (log_spec pos).1
      _ < 1000000 * 10 ^ k := mul_lt_mul_of_pos_right bounded unit
      _ = 10 ^ (k + 6) := by rw [zpow_add₀ (by norm_num)]; norm_num; ring
  have exponent : Int.log 10 x < k + 6 := (zpow_lt_zpow_iff_right₀ (by norm_num)).1 less
  obtain ⟨j, shift⟩ := Int.eq_ofNat_of_zero_le (show 0 ≤ k + (5 - Int.log 10 x) by omega)
  have whole : x * 10 ^ (5 - Int.log 10 x) = ((n * 10 ^ j : ℤ) : ℚ) := by
    conv_lhs => rw [eq]
    rw [mul_assoc, ← zpow_add₀ (by norm_num), ← eq, shift]
    push_cast
    rw [zpow_natCast]
  rw [whole, nearestEven_intCast, ← whole, mul_assoc, ← zpow_add₀ (by norm_num),
    show 5 - Int.log 10 x + (Int.log 10 x - 5) = 0 by ring, zpow_zero, mul_one]

theorem SixDigits.withSign {x : ℚ} (six : SixDigits x) (negative : Bool) : SixDigits (withSign negative x) := by
  cases negative with
  | false => exact six
  | true =>
    obtain ⟨m, k, few, rfl⟩ := six
    refine ⟨-m, k, by rwa [abs_neg], ?_⟩
    show -(m * 10 ^ k : ℚ) = _
    push_cast
    ring

/-- Rounding keeps a number exactly when it has at most six significant digits. -/
theorem roundSix_eq_iff (x : ℚ) : roundSix x = x ↔ SixDigits x := by
  unfold roundSix
  by_cases zero : x = 0
  · rw [if_pos zero]
    exact iff_of_true zero.symm ⟨0, 0, by norm_num, by simp [zero]⟩
  have pos : 0 < |x| := abs_pos.2 zero
  rw [if_neg zero]
  cases eq : significant |x| with
  | mk m e =>
    obtain ⟨-, small, value⟩ := significant_spec pos eq
    show withSign (decide (x < 0)) (m * 10 ^ (e - 5)) = x ↔ _
    constructor
    · intro same
      rw [← same]
      apply SixDigits.withSign
      exact ⟨m, e - 5, by simpa using (Int.ofNat_lt.2 small), by push_cast; rfl⟩
    · intro six
      have size : SixDigits |x| := by
        have signed := six.withSign (decide (x < 0))
        unfold Decimal.withSign at signed
        rcases lt_or_ge x 0 with negative | positive
        · rwa [if_pos (decide_eq_true negative), ← abs_of_neg negative] at signed
        · rwa [abs_of_nonneg positive]
      rw [value, nearestEven_scaled pos size, withSign_abs]

/-! ## What is printed is read -/

/-- A text that `readExponent` uses up, and that begins with the letter if there is one. -/
structure ReadsExponent (text : Str) (e : ℤ) : Prop where
  reads : readExponent (ch 'e') (ch 'E') text = (e, text.length)
  letter : ∀ c ∈ text.head?, c = ch 'e'

theorem ReadsExponent.apart {text : Str} {e : ℤ} (reads : ReadsExponent text e) :
    ∀ c ∈ text.head?, isDigit c = false ∧ c ≠ ch '.' := by
  intro c first
  rw [reads.letter c first]
  decide

theorem readsExponent_nil : ReadsExponent [] 0 := ⟨rfl, nofun⟩

theorem readsExponent_text (e : ℤ) : ReadsExponent (exponentText e) e := by
  refine ⟨?_, fun c first => by cases first; rfl⟩
  generalize padded : (if e.natAbs < 10 then [ch '0'] else []) ++ natToString e.natAbs = digits
  have all : ∀ c ∈ digits, isDigit c = true := by
    rw [← padded]
    intro c mem
    rcases List.mem_append.1 mem with zero | digit
    · split at zero
      · rw [List.mem_singleton.1 zero]
        rfl
      · cases zero
    · exact natToString_digit _ c digit
  have some : digits ≠ [] := by
    rw [← padded]
    exact fun none => natToString_ne_nil _ (List.append_eq_nil_iff.1 none).2
  have value : digitsValue digits = e.natAbs := by
    rw [← padded, digitsValue_append, digitsValue_natToString]
    split <;> simp [digitsValue, ch]
  have taken : digits.takeWhile isDigit = digits := List.takeWhile_eq_self_iff.2 all
  unfold exponentText
  rw [padded]
  unfold readExponent
  by_cases negative : e < 0
  · have sign : readSign (ch '-' :: digits) = (true, 1, digits) := rfl
    simp only [negative, if_true, sign, taken, List.isEmpty_iff, some, if_false, signedValue, value, List.length_cons,
      true_or]
    exact Prod.ext (by dsimp only; omega) (by dsimp only; omega)
  · have sign : readSign (ch '+' :: digits) = (false, 1, digits) := rfl
    simp only [negative, if_true, if_false, sign, taken, List.isEmpty_iff, some, signedValue, value, List.length_cons,
      Bool.false_eq_true, true_or]
    exact Prod.ext (by dsimp only; omega) (by dsimp only; omega)

theorem digitsValue_zeros (n : Nat) : digitsValue (List.replicate n (ch '0')) = 0 := by
  induction n with
  | zero => rfl
  | succ n ih =>
    rw [List.replicate_succ, digitsValue_cons, ih]
    simp [ch]

theorem digitsValue_padded (s : Str) (n : Nat) :
    digitsValue (s ++ List.replicate n (ch '0')) = digitsValue s * 10 ^ n := by
  rw [digitsValue_append, digitsValue_zeros, List.length_replicate]
  rfl

/-- The digits kept behind the point, and the zeros left out. -/
theorem exists_kept (digits : Str) :
    ∃ n, digits = digits.rdropWhile (· = ch '0') ++ List.replicate n (ch '0') := by
  have zeros : digits.rtakeWhile (· = ch '0') = List.replicate (digits.rtakeWhile (· = ch '0')).length (ch '0') := by
    apply List.eq_replicate_of_mem
    intro c mem
    simpa using List.mem_rtakeWhile_imp mem
  refine ⟨(digits.rtakeWhile (· = ch '0')).length, ?_⟩
  rw [← zeros]
  exact List.rdropWhile_append_rtakeWhile.symm

/-- Zeros at the end of the digits behind the point do not change the number. -/
theorem value_kept (whole tail : Str) (e : ℤ) :
    (digitsValue (whole ++ tail) : ℚ) * 10 ^ (e - tail.length) =
      digitsValue (whole ++ tail.rdropWhile (· = ch '0')) * 10 ^ (e - (tail.rdropWhile (· = ch '0')).length) := by
  obtain ⟨n, padded⟩ := exists_kept tail
  generalize tail.rdropWhile (· = ch '0') = kept at padded ⊢
  rw [padded, ← List.append_assoc, digitsValue_padded, List.length_append, List.length_replicate]
  push_cast
  rw [mul_assoc, ← zpow_natCast, ← zpow_add₀ (by norm_num)]
  congr 2
  ring

/-- The point and what is kept behind it, in front of something that is no digit and no point. -/
theorem readFraction_fractionText {tail rest : Str} (digits : ∀ c ∈ tail, isDigit c = true)
    (apart : ∀ c ∈ rest.head?, isDigit c = false ∧ c ≠ ch '.') :
    readFraction isDigit (fractionText tail ++ rest) = (tail.rdropWhile (· = ch '0'), (fractionText tail).length) := by
  have subset : ∀ c ∈ tail.rdropWhile (· = ch '0'), isDigit c = true :=
    fun c mem => digits c ((List.rdropWhile_prefix _ _).subset mem)
  unfold fractionText
  generalize tail.rdropWhile (· = ch '0') = kept at subset ⊢
  cases kept with
  | nil =>
    cases rest with
    | nil => rfl
    | cons c rest => exact if_neg (apart c rfl).2
  | cons k kept =>
    have behind := (takeWhile_append_stop subset fun c first => (apart c first).1).1
    show readFraction isDigit (ch '.' :: (k :: kept ++ rest)) = (k :: kept, (ch '.' :: k :: kept).length)
    rw [readFraction, if_pos rfl, behind, List.length_cons, Nat.add_comm]
    rfl

theorem head_fractionText {tail rest : Str} :
    ∀ c ∈ (fractionText tail ++ rest).head?, c = ch '.' ∨ c ∈ rest.head? := by
  unfold fractionText
  cases tail.rdropWhile (· = ch '0') with
  | nil => exact fun c first => .inr first
  | cons k kept =>
    intro c first
    cases first
    exact .inl rfl

/-- Digits in front of something that is no `x` are no hexadecimal number. -/
theorem readHexadecimal_digits {c : UInt8} {body rest : Str} (digits : ∀ d ∈ c :: body, isDigit d = true)
    (stop : ∀ d ∈ rest.head?, d ≠ ch 'x' ∧ d ≠ ch 'X') : readHexadecimal (c :: (body ++ rest)) = none := by
  refine readHexadecimal_eq_none fun d first => ?_
  cases body with
  | nil => exact stop d first
  | cons e body =>
    cases first
    have digit := digits d (List.mem_cons_of_mem _ List.mem_cons_self)
    exact ⟨digit_ne digit (ch 'x') (by decide), digit_ne digit (ch 'X') (by decide)⟩

/-- A number as `printf` writes it is read to its end. -/
theorem strtod_printed (negative : Bool) {whole tail exponent : Str} {e : ℤ} (some : whole ≠ [])
    (wholeDigits : ∀ c ∈ whole, isDigit c = true) (tailDigits : ∀ c ∈ tail, isDigit c = true)
    (reads : ReadsExponent exponent e) :
    strtod (signed negative (whole ++ fractionText tail ++ exponent)) =
      (withSign negative (digitsValue (whole ++ tail) * 10 ^ (e - tail.length)),
        (signed negative (whole ++ fractionText tail ++ exponent)).length) := by
  obtain ⟨c, body, rfl⟩ := List.exists_cons_of_ne_nil some
  have fraction := readFraction_fractionText tailDigits reads.apart
  have head : ∀ d ∈ (fractionText tail ++ exponent).head?, d = ch '.' ∨ d = ch 'e' := fun d first =>
    (head_fractionText d first).imp_right (reads.letter d)
  have stop : ∀ d ∈ (fractionText tail ++ exponent).head?, isDigit d = false := fun d first => by
    rcases head d first with rfl | rfl <;> rfl
  have plain : readHexadecimal (c :: (body ++ (fractionText tail ++ exponent))) = none :=
    readHexadecimal_digits wholeDigits fun d first => by rcases head d first with rfl | rfl <;> decide
  rw [value_kept]
  generalize fractionText tail = points at fraction stop plain ⊢
  obtain ⟨taken, left⟩ := takeWhile_append_stop wholeDigits stop
  obtain ⟨blanks, solid, sign⟩ := signed_front negative (body ++ (points ++ exponent)) (wholeDigits c List.mem_cons_self)
  rw [List.append_assoc, List.cons_append]
  rw [List.cons_append] at taken left
  rw [strtod_eq_readDecimal (by rw [solid, sign]; exact plain)]
  simp only [readDecimal, blanks, solid, sign, taken, left, fraction, List.drop_left, reads.reads]
  rw [if_neg (by simp)]
  refine Prod.ext rfl ?_
  cases negative <;> simp [signed] <;> omega

theorem length_natToString {n k : Nat} (low : 10 ^ k ≤ n) (high : n < 10 ^ (k + 1)) : (natToString n).length = k + 1 := by
  rw [natToString_eq, List.length_map]
  have most := (Nat.length_toDigits_le_iff (b := 10) (by decide) (Nat.succ_pos k)).2 high
  rcases Nat.eq_zero_or_pos k with rfl | pos
  · have some := Nat.length_toDigits_pos (b := 10) (n := n)
    omega
  · have least := (Nat.length_toDigits_le_iff (b := 10) (by decide) pos).not.2 (not_lt.2 low)
    omega

/-- How six digits are printed: digits, a point with what is kept of the digits behind it, and an exponent or none. -/
structure Printed (m : ℕ) (e : ℤ) (whole tail exponent : Str) (k : ℤ) : Prop where
  text : generalText m e = whole ++ fractionText tail ++ exponent
  some : whole ≠ []
  wholeDigits : ∀ c ∈ whole, isDigit c = true
  tailDigits : ∀ c ∈ tail, isDigit c = true
  exponent : (exponent = [] ∧ k = 0) ∨ (exponent = exponentText e ∧ k = e)
  value : (digitsValue (whole ++ tail) : ℚ) * 10 ^ (k - tail.length) = m * 10 ^ (e - 5)
  short : whole.length ≤ 6 ∧ tail.length ≤ 9

theorem exists_printed {m : ℕ} (e : ℤ) (low : 100000 ≤ m) (high : m < 1000000) :
    ∃ whole tail exponent k, Printed m e whole tail exponent k := by
  have length : (natToString m).length = 6 := length_natToString (k := 5) low high
  have value := digitsValue_natToString m
  have all := natToString_digit m
  have first : ∀ n, (natToString m).take (n + 1) ≠ [] := by
    intro n none
    rcases List.take_eq_nil_iff.1 none with zero | empty
    · cases zero
    · exact natToString_ne_nil m empty
  have front : ∀ n, ∀ c ∈ (natToString m).take n, isDigit c = true := fun n c mem => all c (List.mem_of_mem_take mem)
  have back : ∀ n, ∀ c ∈ (natToString m).drop n, isDigit c = true := fun n c mem => all c (List.mem_of_mem_drop mem)
  have few : ∀ n, ((natToString m).take n).length ≤ 6 ∧ ((natToString m).drop n).length ≤ 9 := by
    intro n
    rw [List.length_take, List.length_drop, length]
    omega
  by_cases small : -4 ≤ e ∧ e < 0
  · have zeros : ∀ c ∈ List.replicate (-e - 1).toNat (ch '0') ++ natToString m, isDigit c = true := by
      intro c mem
      rcases List.mem_append.1 mem with zero | digit
      · rw [List.eq_of_mem_replicate zero]
        rfl
      · exact all c digit
    have number : digitsValue ([ch '0'] ++ (List.replicate (-e - 1).toNat (ch '0') ++ natToString m)) = m := by
      rw [List.singleton_append, ← List.cons_append, ← List.replicate_succ, digitsValue_append, digitsValue_zeros, value]
      simp
    have behind : (List.replicate (-e - 1).toNat (ch '0') ++ natToString m).length = (-e - 1).toNat + 6 := by
      rw [List.length_append, List.length_replicate, length]
    refine ⟨[ch '0'], _, [], 0, ?_, List.cons_ne_nil _ _, by simp [isDigit, ch], zeros, Or.inl ⟨rfl, rfl⟩, ?_, ?_⟩
    · simp only [generalText, if_pos small, List.append_nil, List.singleton_append]
    · rw [number, behind, show e - 5 = 0 - (((-e - 1).toNat + 6 : ℕ) : ℤ) by omega]
    · rw [behind, List.length_singleton]
      omega
  by_cases middle : 0 ≤ e ∧ e < 6
  · refine ⟨_, _, [], 0, ?_, first e.toNat, front _, back (e.toNat + 1), Or.inl ⟨rfl, rfl⟩, ?_, (few _).1, (few _).2⟩
    · simp only [generalText, if_neg small, if_pos middle, List.append_nil]
    · rw [List.take_append_drop, value, List.length_drop, length,
        show e - 5 = 0 - ((6 - (e.toNat + 1) : ℕ) : ℤ) by omega]
  · refine ⟨_, _, _, e, ?_, first 0, front _, back 1, Or.inr ⟨rfl, rfl⟩, ?_, (few _).1, (few _).2⟩
    · simp only [generalText, if_neg small, if_neg middle, Nat.zero_add]
    · rw [List.take_append_drop, value, List.length_drop, length]
      norm_num

/-- Six digits in the format `%g` are read to their end. -/
theorem strtod_generalText (negative : Bool) {m : ℕ} (e : ℤ) (low : 100000 ≤ m) (high : m < 1000000) :
    strtod (signed negative (generalText m e)) =
      (withSign negative (m * 10 ^ (e - 5)), (signed negative (generalText m e)).length) := by
  obtain ⟨whole, tail, exponent, k, printed⟩ := exists_printed e low high
  have reads : ReadsExponent exponent k := by
    rcases printed.exponent with ⟨rfl, rfl⟩ | ⟨rfl, rfl⟩
    · exact readsExponent_nil
    · exact readsExponent_text _
  rw [printed.text, strtod_printed negative printed.some printed.wholeDigits printed.tailDigits reads, printed.value]

theorem generalText_ne_nil (m : ℕ) (e : ℤ) : generalText m e ≠ [] := by
  have front : ∀ n, (natToString m).take (n + 1) ≠ [] := by
    intro n none
    rcases List.take_eq_nil_iff.1 none with zero | empty
    · cases zero
    · exact natToString_ne_nil m empty
  unfold generalText
  dsimp only
  split
  · exact List.cons_ne_nil _ _
  · split
    · exact List.append_ne_nil_of_left_ne_nil (front _) _
    · exact List.append_ne_nil_of_left_ne_nil (List.append_ne_nil_of_left_ne_nil (front 0) _) _

theorem toText_ne_nil (x : ℚ) : toText x ≠ [] := by
  unfold toText
  split
  · decide
  · dsimp only
    unfold signed
    split
    · exact List.cons_ne_nil _ _
    · exact generalText_ne_nil _ _

/-- A printed number is read as the number rounded to six significant digits. -/
theorem strtod_toText (x : ℚ) : strtod (toText x) = (roundSix x, (toText x).length) := by
  unfold toText roundSix
  by_cases zero : x = 0
  · rw [if_pos zero, if_pos zero]
    decide +kernel
  rw [if_neg zero, if_neg zero]
  cases eq : significant |x| with
  | mk m e =>
    obtain ⟨low, high, -⟩ := significant_spec (abs_pos.2 zero) eq
    exact strtod_generalText (decide (x < 0)) e low high

/-! ## Plain decimals -/

/-- A number written with a point is read to its end. -/
theorem strtod_decimal (negative : Bool) {whole fraction : Str} (some : whole ≠ [])
    (wholeDigits : ∀ c ∈ whole, isDigit c = true) (fractionDigits : ∀ c ∈ fraction, isDigit c = true) :
    strtod (signed negative (whole ++ ch '.' :: fraction)) =
      (withSign negative (digitsValue (whole ++ fraction) * 10 ^ (-(fraction.length : ℤ))),
        (signed negative (whole ++ ch '.' :: fraction)).length) := by
  obtain ⟨c, body, rfl⟩ := List.exists_cons_of_ne_nil some
  have stop : ∀ d ∈ (ch '.' :: fraction).head?, isDigit d = false := fun d first => by cases first; rfl
  obtain ⟨taken, left⟩ := takeWhile_append_stop wholeDigits stop
  obtain ⟨blanks, solid, sign⟩ := signed_front negative (body ++ ch '.' :: fraction) (wholeDigits c List.mem_cons_self)
  have behind : fraction.takeWhile isDigit = fraction := List.takeWhile_eq_self_iff.2 fractionDigits
  have read : readFraction isDigit (ch '.' :: fraction) = (fraction, 1 + fraction.length) := by
    rw [readFraction, if_pos rfl, behind]
  have nothing : (ch '.' :: fraction).drop (1 + fraction.length) = [] := by
    rw [List.drop_eq_nil_iff, List.length_cons]
    omega
  have plain : readHexadecimal (c :: (body ++ ch '.' :: fraction)) = none :=
    readHexadecimal_digits wholeDigits fun d first => by cases first; decide
  rw [List.cons_append] at taken left ⊢
  rw [strtod_eq_readDecimal (by rw [solid, sign]; exact plain)]
  simp only [readDecimal, blanks, solid, sign, taken, left, read, nothing, readExponent]
  rw [if_neg (by simp)]
  refine Prod.ext ?_ ?_
  · simp
  · cases negative <;> simp [signed] <;> omega

theorem stod_decimal (negative : Bool) {whole fraction : Str} (some : whole ≠ [])
    (wholeDigits : ∀ c ∈ whole, isDigit c = true) (fractionDigits : ∀ c ∈ fraction, isDigit c = true) {x : ℚ}
    (value : x = withSign negative (digitsValue (whole ++ fraction) * 10 ^ (-(fraction.length : ℤ)))) :
    stod (signed negative (whole ++ ch '.' :: fraction)) =
      if InDoubleRange x then Option.some (x, (signed negative (whole ++ ch '.' :: fraction)).length) else none := by
  have used : (signed negative (whole ++ ch '.' :: fraction)).length ≠ 0 := by cases negative <;> simp [signed]
  unfold stod
  rw [strtod_decimal negative some wholeDigits fractionDigits, ← value]
  by_cases range : InDoubleRange x
  · simp [used, range]
  · simp [range]

theorem digitsValue_lt {s : Str} (digits : ∀ c ∈ s, isDigit c = true) : digitsValue s < 10 ^ s.length := by
  induction s with
  | nil => decide
  | cons c s ih =>
    have later := ih fun d mem => digits d (List.mem_cons_of_mem c mem)
    have first : c.toNat - 48 ≤ 9 := by
      have digit := digits c List.mem_cons_self
      simp [isDigit] at digit
      omega
    rw [digitsValue_cons, List.length_cons, pow_succ]
    show (c.toNat - 48) * 10 ^ s.length + digitsValue s < _
    have most := Nat.mul_le_mul_right (10 ^ s.length) first
    omega

/-- From this size on a number is rounded to an infinity. -/
theorem overflow_large : (2 : ℚ) ^ 970 ≤ 2 ^ 1024 - 2 ^ 970 := by
  have double : (2 : ℚ) ^ 970 + 2 ^ 970 = 2 ^ (970 + 1) := ((pow_succ (2 : ℚ) 970).trans (mul_two _)).symm
  have more : (2 : ℚ) ^ (970 + 1) ≤ 2 ^ 1024 := pow_le_pow_right₀ (by norm_num) (by norm_num)
  exact le_sub_iff_add_le.2 (double.trans_le more)

theorem inDoubleRange_zero : InDoubleRange 0 := by
  refine ⟨?_, .inr ?_⟩
  · rw [abs_zero]
    exact lt_of_lt_of_le (by positivity) overflow_large
  · rw [zero_mul]
    rfl

/-- A number of a moderate size is a normal `double`. -/
theorem inDoubleRange_of_le {x : ℚ} (least : (10 : ℚ) ^ (-20 : ℤ) ≤ |x|) (most : |x| < 10 ^ 20) : InDoubleRange x := by
  constructor
  · calc |x| < 10 ^ 20 := most
      _ ≤ 2 ^ 100 := by norm_num
      _ ≤ 2 ^ 970 := pow_le_pow_right₀ (by norm_num) (by norm_num)
      _ ≤ 2 ^ 1024 - 2 ^ 970 := overflow_large
  · left
    calc (2 ^ 54 - 1 : ℚ) ≤ 10 ^ (-20 : ℤ) * 2 ^ 200 := by norm_num
      _ ≤ 10 ^ (-20 : ℤ) * 2 ^ 1076 := by gcongr <;> norm_num
      _ ≤ |x| * 2 ^ 1076 := mul_le_mul_of_nonneg_right least (by positivity)

/-- A number of few digits, few of them behind the point, is a normal `double`. -/
theorem inDoubleRange_decimal {digits : Str} {k : ℕ} (negative : Bool) (all : ∀ c ∈ digits, isDigit c = true)
    (few : digits.length ≤ 20) (behind : k ≤ 20) :
    InDoubleRange (withSign negative (digitsValue digits * 10 ^ (-(k : ℤ)))) := by
  have small := digitsValue_lt all
  generalize digitsValue digits = n at small ⊢
  rcases Nat.eq_zero_or_pos n with rfl | pos
  · have zero : withSign negative (((0 : ℕ) : ℚ) * 10 ^ (-(k : ℤ))) = 0 := by cases negative <;> simp [withSign]
    rw [zero]
    exact inDoubleRange_zero
  have unit := pow_ten_pos (-(k : ℤ))
  have size : |withSign negative (n * (10 : ℚ) ^ (-(k : ℤ)))| = n * 10 ^ (-(k : ℤ)) := by
    have least : (0 : ℚ) ≤ n * 10 ^ (-(k : ℤ)) := by positivity
    cases negative
    · exact abs_of_nonneg least
    · exact (abs_neg _).trans (abs_of_nonneg least)
  have least : (10 : ℚ) ^ (-20 : ℤ) ≤ n * 10 ^ (-(k : ℤ)) := by
    calc (10 : ℚ) ^ (-20 : ℤ) ≤ 10 ^ (-(k : ℤ)) := zpow_le_zpow_right₀ (by norm_num) (by omega)
      _ ≤ n * 10 ^ (-(k : ℤ)) := le_mul_of_one_le_left unit.le (by exact_mod_cast pos)
  have most : n * (10 : ℚ) ^ (-(k : ℤ)) < 10 ^ 20 := by
    have whole : (n : ℚ) < 10 ^ 20 := by exact_mod_cast small.trans_le (Nat.pow_le_pow_right (by decide) few)
    have shrinks : (10 : ℚ) ^ (-(k : ℤ)) ≤ 1 := zpow_le_one_of_nonpos₀ (by norm_num) (by omega)
    exact (mul_le_of_le_one_right (by positivity) shrinks).trans_lt whole
  refine inDoubleRange_of_le ?_ ?_
  · rw [size]
    exact least
  · rw [size]
    exact most

/-! ## Whole numbers -/

theorem toString_int (n : Int) : lit (toString n) = signed (decide (n < 0)) (natToString n.natAbs) := by
  cases n with
  | ofNat m => rfl
  | negSucc m =>
    rw [decide_eq_true (Int.negSucc_lt_zero m)]
    exact lit_append "-" (toString (m + 1))

/-- Digits alone are read to their end. -/
theorem strtod_digits (negative : Bool) {digits : Str} (some : digits ≠ []) (all : ∀ c ∈ digits, isDigit c = true) :
    strtod (signed negative digits) = (withSign negative (digitsValue digits), (signed negative digits).length) := by
  have read := strtod_printed negative some all (List.forall_mem_nil _) readsExponent_nil
  have text : digits ++ fractionText [] ++ [] = digits := by simp [fractionText]
  rw [text, List.append_nil] at read
  rw [read]
  refine Prod.ext ?_ rfl
  show withSign negative ((digitsValue digits : ℚ) * 10 ^ ((0 : ℤ) - 0)) = _
  rw [sub_zero, zpow_zero, mul_one]

theorem withSign_natCast (negative : Bool) (digits : Str) :
    withSign negative (digitsValue digits) = (signedValue negative digits : ℚ) := by
  cases negative <;> simp [withSign, signedValue]

theorem strtod_int (n : Int) : strtod (lit (toString n)) = ((n : ℚ), (lit (toString n)).length) := by
  have read := strtod_digits (decide (n < 0)) (natToString_ne_nil n.natAbs) (natToString_digit _)
  have cast : ((n.natAbs : ℕ) : ℚ) = |(n : ℚ)| := by rw [Nat.cast_natAbs, Int.cast_abs]
  have same : decide (n < 0) = decide ((n : ℚ) < 0) := by simp
  rw [toString_int, read, digitsValue_natToString, cast, same, withSign_abs]

theorem inDoubleRange_int {n : Int} (low : -2 ^ 63 ≤ n) (high : n < 2 ^ 63) : InDoubleRange n := by
  rcases eq_or_ne n 0 with rfl | nonzero
  · rw [Int.cast_zero]
    exact inDoubleRange_zero
  have least : (1 : ℚ) ≤ |(n : ℚ)| := by exact_mod_cast Int.one_le_abs nonzero
  have most : |(n : ℚ)| ≤ 2 ^ 63 := by
    rw [abs_le]
    exact ⟨by exact_mod_cast low, by exact_mod_cast high.le⟩
  exact inDoubleRange_of_le (le_trans (by norm_num) least) (most.trans_lt (by norm_num))

/-- What `stoi` takes as a whole is read as the same number. -/
theorem strtod_of_stoi {s : Str} {v : Int32} (took : stoi s = some (v, s.length)) :
    strtod s = ((v.toInt : ℚ), s.length) := by
  obtain ⟨negative, sign, digits, -, solid, read, some, all, value⟩ := stoi_shape took
  have total := congrArg List.length (List.takeWhile_append_dropWhile (p := isSpace) (l := s))
  rw [List.length_append, solid, List.length_append] at total
  obtain ⟨taken, left⟩ := @takeWhile_append_stop isDigit digits [] all fun c first => by cases first
  rw [List.append_nil] at taken left
  have plain : readHexadecimal digits = none := by
    obtain ⟨c, body, rfl⟩ := List.exists_cons_of_ne_nil some
    rw [← List.append_nil body]
    exact readHexadecimal_digits all nofun
  rw [strtod_eq_readDecimal (by rw [read]; exact plain)]
  unfold readDecimal
  simp only [read, taken, left, readFraction, readExponent, List.drop_nil, List.append_nil, List.isEmpty_nil,
    Bool.and_true, if_neg fun empty => some (List.isEmpty_iff.1 empty)]
  refine Prod.ext ?_ (by dsimp only; omega)
  show withSign negative ((digitsValue digits : ℚ) * 10 ^ ((0 : ℤ) - 0)) = _
  rw [value, sub_zero, zpow_zero, mul_one, withSign_natCast]

/-! ## The printed text as a string -/

/-- A text of ASCII characters. -/
def Ascii (s : Str) : Prop := ∀ c ∈ s, c.toNat < 128

theorem lit_ofAscii {s : Str} (ascii : Ascii s) : lit (ofAscii s) = s := by
  have codes : ∀ n < 128, (Char.ofNat n).toNat = n := by decide
  have code : ∀ c ∈ s, (Char.ofNat c.toNat).toNat = c.toNat := fun c mem => codes _ (ascii c mem)
  unfold ofAscii
  rw [lit_ofList, List.map_map]
  · refine (List.map_congr_left fun c mem => ?_).trans (List.map_id s)
    show UInt8.ofNat (Char.ofNat c.toNat).toNat = c
    rw [code c mem, UInt8.ofNat_toNat]
  · intro d mem
    obtain ⟨c, inside, rfl⟩ := List.mem_map.1 mem
    rw [code c inside]
    exact ascii c inside

theorem Ascii.append {s t : Str} (first : Ascii s) (second : Ascii t) : Ascii (s ++ t) :=
  List.forall_mem_append.2 ⟨first, second⟩

theorem Ascii.cons {c : UInt8} {s : Str} (small : c.toNat < 128) (rest : Ascii s) : Ascii (c :: s) :=
  List.forall_mem_cons.2 ⟨small, rest⟩

theorem ascii_natToString (n : Nat) : Ascii (natToString n) := by
  intro c mem
  have digit := natToString_digit n c mem
  simp [isDigit] at digit
  omega

theorem ascii_fractionText {digits : Str} (ascii : Ascii digits) : Ascii (fractionText digits) := by
  unfold fractionText
  dsimp only
  split
  · exact List.forall_mem_nil _
  · exact .cons (by decide) fun c mem => ascii c ((List.rdropWhile_prefix _ _).subset mem)

theorem ascii_exponentText (e : ℤ) : Ascii (exponentText e) := by
  unfold exponentText
  refine .cons (by decide) (.cons ?_ (.append ?_ (ascii_natToString _)))
  · split <;> decide
  · split
    · exact .cons (by decide) (List.forall_mem_nil _)
    · exact List.forall_mem_nil _

theorem ascii_generalText (m : ℕ) (e : ℤ) : Ascii (generalText m e) := by
  have front : ∀ n, Ascii ((natToString m).take n) := fun n c mem => ascii_natToString m c (List.mem_of_mem_take mem)
  have back : ∀ n, Ascii ((natToString m).drop n) := fun n c mem => ascii_natToString m c (List.mem_of_mem_drop mem)
  have zeros : ∀ n, Ascii (List.replicate n (ch '0')) := fun n c mem => by rw [List.eq_of_mem_replicate mem]; decide
  unfold generalText
  dsimp only
  split
  · exact .cons (by decide) (ascii_fractionText (.append (zeros _) (ascii_natToString m)))
  · split
    · exact .append (front _) (ascii_fractionText (back _))
    · exact .append (.append (front _) (ascii_fractionText (back _))) (ascii_exponentText e)

theorem ascii_toText (x : ℚ) : Ascii (toText x) := by
  unfold toText
  split
  · exact .cons (by decide) (List.forall_mem_nil _)
  · dsimp only
    unfold signed
    split
    · exact .cons (by decide) (ascii_generalText _ _)
    · exact ascii_generalText _ _

theorem lit_toStream (x : ℚ) : lit (CxxDouble.toStream x) = toText x := lit_ofAscii (ascii_toText x)

end Actuator.Lib.Decimal
