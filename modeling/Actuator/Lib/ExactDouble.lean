import Actuator.Lib.Decimal

/-!
# Exact numbers with infinities

The exact decimals, and what `strtod` reads besides numbers: the infinities and
NaN, which are written as words. Arithmetic on them is that of IEEE 754, but
for the sign of zero.
-/

namespace Actuator.Lib

inductive ExactDouble where
  | finite (x : ℚ)
  | infinity (negative : Bool)
  | nan
deriving DecidableEq

namespace ExactDouble

/-! ## Reading -/

/-- The text begins with the word, in letters of either case. -/
def beginsWith (word s : Str) : Bool := word.isPrefixOf (s.map toUpper)

/-- A parenthesis of letters, digits and underscores, which may come behind `nan`. -/
def payloadLength : Str → Nat
  | [] => 0
  | c :: s =>
    if c = ch '(' ∧ (s.dropWhile fun d => isAlnum d || d = ch '_').head? = some (ch ')') then
      (s.takeWhile fun d => isAlnum d || d = ch '_').length + 2
    else 0

/-- An infinity or NaN, with the number of characters used. -/
def readWord (negative : Bool) (s : Str) : Option (ExactDouble × Nat) :=
  if beginsWith (lit "INFINITY") s then some (infinity negative, 8)
  else if beginsWith (lit "INF") s then some (infinity negative, 3)
  else if beginsWith (lit "NAN") s then some (nan, 3 + payloadLength (s.drop 3))
  else none

def strtod (s : Str) : ExactDouble × Nat :=
  let (negative, signLength, body) := readSign (s.dropWhile isSpace)
  match readWord negative body with
  | some (x, used) => (x, (s.takeWhile isSpace).length + signLength + used)
  | none =>
    let (x, used) := Decimal.strtod s
    (finite x, used)

/-- `stod` does not throw on an infinity or NaN that is written as a word. -/
def Converts : ExactDouble → Prop
  | finite x => Decimal.InDoubleRange x
  | infinity _ => True
  | nan => True

instance decidableConverts (x : ExactDouble) : Decidable x.Converts := by
  unfold Converts
  cases x <;> infer_instance

def stod (s : Str) : Option (ExactDouble × Nat) :=
  let (x, used) := strtod s
  if used = 0 ∨ ¬x.Converts then none else some (x, used)

/-! ### Texts read to their end -/

theorem strtod_of_stod {s : Str} {x : ExactDouble} {used : Nat} (read : stod s = some (x, used)) :
    strtod s = (x, used) ∧ used ≠ 0 := by
  unfold stod at read
  dsimp only at read
  split at read
  · cases read
  · rename_i kept
    obtain ⟨some, -⟩ := not_or.1 kept
    obtain ⟨value, length⟩ := Prod.mk.inj (Option.some.inj read)
    exact ⟨Prod.ext value length, length ▸ some⟩

/-- A word begins with a letter. -/
theorem readWord_eq_none {c : UInt8} (s : Str) (other : isAlpha c = false) (negative : Bool) :
    readWord negative (c :: s) = none := by
  have same : toUpper c = c := by
    refine if_neg fun lower => ?_
    simp only [isAlpha, lower, Bool.or_true] at other
    cases other
  have front : ∀ d word, isAlpha d = true → beginsWith (d :: word) (c :: s) = false := by
    intro d word letter
    have different : d ≠ c := by
      rintro rfl
      rw [letter] at other
      cases other
    simp only [beginsWith, List.map_cons, same, List.isPrefixOf_cons_cons, beq_false_of_ne different, Bool.false_and]
  have words : beginsWith (lit "INFINITY") (c :: s) = false ∧ beginsWith (lit "INF") (c :: s) = false ∧
      beginsWith (lit "NAN") (c :: s) = false := ⟨front _ _ rfl, front _ _ rfl, front _ _ rfl⟩
  simp only [readWord, words.1, words.2.1, words.2.2, Bool.false_eq_true, if_false]

/-- What `stoi` takes as a whole is read as the same number. -/
theorem strtod_of_stoi {s : Str} {v : Int32} (took : stoi s = some (v, s.length)) :
    strtod s = (finite v.toInt, s.length) := by
  obtain ⟨negative, sign, digits, -, -, read, some, all, -⟩ := stoi_shape took
  obtain ⟨c, body, rfl⟩ := List.exists_cons_of_ne_nil some
  have noLetter : isAlpha c = false := by
    have digit := all c List.mem_cons_self
    simp only [isDigit, Bool.and_eq_true, decide_eq_true_eq] at digit
    simp only [isAlpha, Bool.or_eq_false_iff, Bool.and_eq_false_iff, decide_eq_false_iff_not]
    omega
  unfold strtod
  simp only [read, readWord_eq_none body noLetter, Decimal.strtod_of_stoi took]

/-- The letters of a word, in either case. -/
theorem inNumber_beginsWith {word s : Str} (letters : ∀ c ∈ word, isAlpha c = true) (begins : beginsWith word s = true) :
    ∀ c ∈ s.take word.length, Decimal.InNumber c := by
  have same := List.prefix_iff_eq_take.1 (List.isPrefixOf_iff_prefix.1 begins)
  rw [← List.map_take] at same
  intro c mem
  have upper : toUpper c ∈ word := same ▸ List.mem_map_of_mem mem
  refine .inl ?_
  have letter := letters _ upper
  unfold toUpper at letter
  split at letter
  · rename_i lower
    simp only [isAlnum, isAlpha, lower, Bool.or_true, Bool.true_or]
  · simp only [isAlnum, letter, Bool.true_or]

theorem inNumber_payload (s : Str) : ∀ c ∈ s.take (payloadLength s), Decimal.InNumber c := by
  cases s with
  | nil => exact List.forall_mem_nil _
  | cons c s =>
    rw [payloadLength]
    split
    · rename_i shape
      obtain ⟨opens, closes⟩ := shape
      have inside : ∀ d ∈ s.takeWhile fun d => isAlnum d || d = ch '_', Decimal.InNumber d := by
        intro d mem
        have kind := List.mem_takeWhile_imp mem
        rcases Bool.or_eq_true_iff.1 kind with letter | line
        · exact .inl letter
        · rw [of_decide_eq_true line]
          exact .inr (by decide)
      obtain ⟨behind, rest⟩ : ∃ behind, (s.dropWhile fun d => isAlnum d || d = ch '_') = ch ')' :: behind := by
        generalize (s.dropWhile fun d => isAlnum d || d = ch '_') = after at closes ⊢
        exact List.head?_eq_some_iff.1 closes
      have whole := List.takeWhile_append_dropWhile (p := fun d => isAlnum d || d = ch '_') (l := s)
      rw [rest] at whole
      rw [List.take_succ_cons, opens]
      generalize (s.takeWhile fun d => isAlnum d || d = ch '_') = payload at inside whole
      rw [← whole, List.take_length_add_append]
      refine List.forall_mem_cons.2 ⟨.inr (by decide), List.forall_mem_append.2 ⟨inside, ?_⟩⟩
      exact List.forall_mem_singleton.2 (.inr (by decide))
    · exact List.forall_mem_nil _

theorem inNumber_readWord {negative : Bool} {s : Str} {x : ExactDouble} (read : readWord negative s = some (x, s.length)) :
    ∀ c ∈ s, Decimal.InNumber c := by
  have all : ∀ word, (∀ c ∈ word, isAlpha c = true) → beginsWith word s = true → word.length = s.length →
      ∀ c ∈ s, Decimal.InNumber c := by
    intro word letters begins length
    have chars := inNumber_beginsWith letters begins
    rwa [length, List.take_length] at chars
  unfold readWord at read
  split at read
  · exact all (lit "INFINITY") (by decide +kernel) ‹_› (congrArg Prod.snd (Option.some.inj read))
  split at read
  · exact all (lit "INF") (by decide +kernel) ‹_› (congrArg Prod.snd (Option.some.inj read))
  split at read
  · rename_i begins
    have length : 3 + payloadLength (s.drop 3) = s.length := congrArg Prod.snd (Option.some.inj read)
    have parts : s.take 3 ++ (s.drop 3).take (payloadLength (s.drop 3)) = s := by
      rw [← List.take_add, length, List.take_length]
    rw [← parts]
    have front := inNumber_beginsWith (show ∀ c ∈ lit "NAN", isAlpha c = true by decide +kernel) begins
    exact List.forall_mem_append.2 ⟨front, inNumber_payload _⟩
  · cases read

theorem inNumber_strtod {s : Str} (some : s ≠ []) (whole : (strtod s).2 = s.length) :
    ∀ c ∈ s.dropWhile isSpace, Decimal.InNumber c := by
  obtain ⟨negative, sign, body, isSign, shape, read⟩ := readSign_shape (s.dropWhile isSpace)
  have length := Decimal.length_solid_le s
  rw [shape, List.length_append] at length
  unfold strtod at whole
  simp only [read] at whole
  cases word : readWord negative body with
  | some found =>
    rw [word] at whole
    have used : found.2 = body.length := by
      change _ + _ + found.2 = _ at whole
      omega
    rw [shape]
    refine List.forall_mem_append.2 ⟨Decimal.inNumber_sign isSign, @inNumber_readWord negative body found.1 ?_⟩
    rw [word, ← used]
  | none =>
    rw [word] at whole
    exact Decimal.inNumber_strtod some whole

/-- Trimming a text that is read to its end only takes white space off its front, and leaves the number. -/
theorem strtod_trim {s : Str} {x : ExactDouble} (some : s ≠ []) (reads : strtod s = (x, s.length)) :
    strtod (trim s) = (x, (trim s).length) := by
  have chars := inNumber_strtod some (congrArg Prod.snd reads)
  have trimmed : trim s = s.dropWhile isSpace := by
    unfold trim
    rw [List.rdropWhile_eq_self_iff]
    intro filled
    rw [(chars _ (List.getLast_mem filled)).solid]
    exact Bool.false_ne_true
  obtain ⟨none, again⟩ := Decimal.blanks_solid s
  have length := Decimal.length_solid_le s
  obtain ⟨negative, sign, body, -, -, shape⟩ := readSign_shape (s.dropWhile isSpace)
  rw [trimmed]
  unfold strtod at reads ⊢
  rw [again, none]
  simp only [shape] at reads ⊢
  cases word : readWord negative body with
  | some found =>
    rw [word] at reads
    obtain ⟨value, used⟩ := Prod.mk.inj reads
    refine Prod.ext value ?_
    change _ + _ + found.2 = _ at used
    show 0 + _ + found.2 = _
    omega
  | none =>
    rw [word] at reads
    obtain ⟨value, used⟩ := Prod.mk.inj reads
    have skip := Decimal.strtod_skip s fun zero => some (List.length_eq_zero_iff.1 (used.symm.trans zero))
    rw [skip] at value used
    refine Prod.ext value ?_
    dsimp only at used ⊢
    omega

/-- White space alone is no number. -/
theorem trim_ne_nil {s : Str} (some : s ≠ []) (whole : (strtod s).2 = s.length) : trim s ≠ [] := by
  intro blank
  have none : s.dropWhile isSpace = [] := List.dropWhile_eq_nil_iff.2 ((trim_eq_nil_iff s).1 blank)
  have nothing : strtod s = (finite 0, 0) := by
    unfold strtod Decimal.strtod Decimal.readDecimal
    rw [none]
    rfl
  rw [nothing] at whole
  exact some (List.length_eq_zero_iff.1 whole.symm)

/-! ## Arithmetic -/

def neg : ExactDouble → ExactDouble
  | finite x => finite (-x)
  | infinity negative => infinity !negative
  | nan => nan

def add : ExactDouble → ExactDouble → ExactDouble
  | finite x, finite y => finite (x + y)
  | infinity m, infinity n => if m = n then infinity m else nan
  | infinity m, finite _ => infinity m
  | finite _, infinity n => infinity n
  | nan, _ => nan
  | _, nan => nan

/-- The number is below zero. -/
def isNegative : ExactDouble → Bool
  | finite x => decide (x < 0)
  | infinity negative => negative
  | nan => false

def isZero (x : ExactDouble) : Bool := decide (x = finite 0)

def mul (x y : ExactDouble) : ExactDouble :=
  match x, y with
  | finite x, finite y => finite (x * y)
  | nan, _ => nan
  | _, nan => nan
  | x, y => if x.isZero || y.isZero then nan else infinity (x.isNegative != y.isNegative)

def div (x y : ExactDouble) : ExactDouble :=
  match x, y with
  | nan, _ => nan
  | _, nan => nan
  | infinity _, infinity _ => nan
  | finite _, infinity _ => finite 0
  | infinity m, finite y => infinity (m != decide (y < 0))
  | finite x, finite y => if y = 0 then (if x = 0 then nan else infinity (decide (x < 0))) else finite (x / y)

def abs : ExactDouble → ExactDouble
  | finite x => finite |x|
  | infinity _ => infinity false
  | nan => nan

def sqrt : ExactDouble → ExactDouble
  | finite x => if x < 0 then nan else finite (CxxDouble.sqrt x)
  | infinity negative => if negative then nan else infinity false
  | nan => nan

def round : ExactDouble → ExactDouble
  | finite x => finite (CxxDouble.round x)
  | x => x

def lt : ExactDouble → ExactDouble → Bool
  | finite x, finite y => decide (x < y)
  | infinity m, infinity n => m && !n
  | infinity m, finite _ => m
  | finite _, infinity n => !n
  | nan, _ => false
  | _, nan => false

def le : ExactDouble → ExactDouble → Bool
  | finite x, finite y => decide (x ≤ y)
  | infinity m, infinity n => m || !n
  | infinity m, finite _ => m
  | finite _, infinity n => !n
  | nan, _ => false
  | _, nan => false

/-- How an infinity and NaN are printed. -/
def word : ExactDouble → String
  | infinity true => "-inf"
  | infinity false => "inf"
  | _ => "nan"

/-- A conversion of an infinity or NaN to an integer has no defined result. It is that of x86-64 here. -/
instance exactDouble : CxxDouble ExactDouble where
  ofInt v := finite (CxxDouble.ofInt v)
  strtod := strtod
  stod := stod
  neg := neg
  add := add
  sub x y := add x (neg y)
  mul := mul
  div := div
  abs := abs
  sqrt := sqrt
  round := round
  llround
    | finite x => CxxDouble.llround x
    | _ => -9223372036854775808
  lt := lt
  le := le
  toInt
    | finite x => CxxDouble.toInt x
    | _ => Int32.minValue
  toUInt64
    | finite x => CxxDouble.toUInt64 x
    | _ => 9223372036854775808
  toText
    | finite x => CxxDouble.toText x
    | x => lit x.word
  toStream
    | finite x => CxxDouble.toStream x
    | x => x.word
  tenToMinus k := finite (CxxDouble.tenToMinus k)

end ExactDouble

end Actuator.Lib
