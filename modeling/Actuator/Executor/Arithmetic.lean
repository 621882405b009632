import Actuator.Constraint.Rendering
import Actuator.Executor.NumericExpression

/-!
# The value of an arithmetic expression

An abstract arithmetic expression has a value under the usual meaning of its
operators. Written down in any way that respects precedence, it is parsed to
that value, or refused for a divisor near zero.
-/

namespace Actuator.Executor

open Actuator.Lib
open Actuator.Constraint (Stop isWordChar throwing toNat_of_wordStart not_wordChar_of_isSpace)

/-! ## Arithmetic expressions -/

inductive ArithOp where
  | add
  | sub
  | mul
  | div
deriving DecidableEq

namespace ArithOp

def symbol : ArithOp → UInt8
  | add => ch '+'
  | sub => ch '-'
  | mul => ch '*'
  | div => ch '/'

/-- How tightly the operator binds. -/
def prec : ArithOp → Nat
  | add => 0
  | sub => 0
  | mul => 1
  | div => 1

def apply {D : Type} [CxxDouble D] : ArithOp → D → D → D
  | add => CxxDouble.add
  | sub => CxxDouble.sub
  | mul => CxxDouble.mul
  | div => CxxDouble.div

end ArithOp

/-- An expression over the texts of its literals and the names of its variables. -/
inductive ArithExp where
  | number (text : Str)
  | named (name : Str)
  | plus (e : ArithExp)
  | minus (e : ArithExp)
  | sqrt (e : ArithExp)
  | binary (op : ArithOp) (l r : ArithExp)

/-- A divisor that is refused. -/
def nearZero {D : Type} [CxxDouble D] (d : D) : Bool := CxxDouble.lt (CxxDouble.abs d) (CxxDouble.tenToMinus 12)

namespace ArithExp

def literals : ArithExp → List Str
  | number text => [text]
  | named _ => []
  | plus e => e.literals
  | minus e => e.literals
  | sqrt e => e.literals
  | binary _ l r => l.literals ++ r.literals

def names : ArithExp → List Str
  | number _ => []
  | named name => [name]
  | plus e => e.names
  | minus e => e.names
  | sqrt e => e.names
  | binary _ l r => l.names ++ r.names

variable {D : Type} [CxxDouble D] (vm : VariableManager D)

/-- The number a variable of type INT, DOUBLE or BOOL holds. -/
def variableValue (name : Str) : Option D :=
  match vm.lookup name with
  | some (.int v) => some (CxxDouble.ofInt v)
  | some (.double v) => some v
  | some (.bool v) => some (CxxDouble.ofInt (if v then 1 else 0))
  | _ => none

def value : ArithExp → D
  | number text => (CxxDouble.strtod text).1
  | named name => (variableValue vm name).getD (CxxDouble.ofInt 0)
  | plus e => e.value
  | minus e => CxxDouble.neg e.value
  | sqrt e => CxxDouble.sqrt e.value
  | binary op l r => op.apply l.value r.value

/-- The values divided by, from left to right. -/
def divisors : ArithExp → List D
  | number _ => []
  | named _ => []
  | plus e => e.divisors
  | minus e => e.divisors
  | sqrt e => e.divisors
  | binary op l r => l.divisors ++ r.divisors ++ if op = .div then [r.value vm] else []

end ArithExp

/-! ## Writing an expression down -/

def Digits (s : Str) : Prop := ∀ c ∈ s, isDigit c = true

/-- An `e` and a whole number. -/
def IsExponent (text : Str) : Prop :=
  ∃ e sign digits, text = e :: sign ++ digits ∧ (e = ch 'e' ∨ e = ch 'E') ∧ sign ∈ [[], [ch '+'], [ch '-']] ∧
    digits ≠ [] ∧ Digits digits

/-- At least one digit, perhaps a point among them, and perhaps an exponent. -/
def IsDecimal (text : Str) : Prop :=
  ∃ whole point fraction exponent, text = whole ++ (point ++ (fraction ++ exponent)) ∧ Digits whole ∧ Digits fraction ∧
    whole ++ fraction ≠ [] ∧ (point = [] ∧ fraction = [] ∨ point = [ch '.']) ∧ (exponent = [] ∨ IsExponent exponent)

theorem IsDecimal.first {text : Str} (decimal : IsDecimal text) :
    ∃ c body, text = c :: body ∧ (isDigit c = true ∨ c = ch '.') := by
  obtain ⟨whole, point, fraction, exponent, rfl, digits, -, some, shape, -⟩ := decimal
  cases whole with
  | cons c whole => exact ⟨c, _, rfl, .inl (digits c List.mem_cons_self)⟩
  | nil =>
    rcases shape with ⟨-, rfl⟩ | rfl
    · exact absurd rfl some
    · exact ⟨ch '.', _, rfl, .inr rfl⟩

/-- A letter or underscore followed by letters, digits and underscores. -/
def IsName (text : Str) : Prop :=
  ∃ c body, text = c :: body ∧ (isAlpha c = true ∨ c = ch '_') ∧ ∀ x ∈ body, isWordChar x = true

def Blank (s : Str) : Prop := ∀ c ∈ s, isSpace c = true

/-- The texts that stand for an expression where an operand of the given precedence is required: white space in
front of any token, parentheses around any expression and around those that bind less tightly. -/
inductive Writes : Nat → ArithExp → Str → Prop
  | number {prec : Nat} {blanks text : Str} (blank : Blank blanks) (decimal : IsDecimal text) :
      Writes prec (.number text) (blanks ++ text)
  | named {prec : Nat} {blanks name : Str} (blank : Blank blanks) (word : IsName name) :
      Writes prec (.named name) (blanks ++ name)
  | plus {prec : Nat} {blanks t : Str} {e : ArithExp} (blank : Blank blanks) (operand : Writes 2 e t) :
      Writes prec (.plus e) (blanks ++ ch '+' :: t)
  | minus {prec : Nat} {blanks t : Str} {e : ArithExp} (blank : Blank blanks) (operand : Writes 2 e t) :
      Writes prec (.minus e) (blanks ++ ch '-' :: t)
  | sqrt {prec : Nat} {blanks between t behind : Str} {e : ArithExp} (blank : Blank blanks) (gap : Blank between)
      (argument : Writes 0 e t) (close : Blank behind) :
      Writes prec (.sqrt e) (blanks ++ (lit "sqrt" ++ (between ++ ch '(' :: (t ++ (behind ++ [ch ')'])))))
  | group {prec : Nat} {blanks t behind : Str} {e : ArithExp} (blank : Blank blanks) (inner : Writes 0 e t)
      (close : Blank behind) : Writes prec e (blanks ++ ch '(' :: (t ++ (behind ++ [ch ')'])))
  | binary {prec : Nat} {op : ArithOp} {blanks t u : Str} {l r : ArithExp} (binds : prec ≤ op.prec)
      (left : Writes op.prec l t) (blank : Blank blanks) (right : Writes (op.prec + 1) r u) :
      Writes prec (.binary op l r) (t ++ (blanks ++ op.symbol :: u))

/-- The text without white space whose only parentheses are those required. -/
def ArithExp.minimal : ArithExp → Nat → Str
  | number text, _ => text
  | named name, _ => name
  | plus e, _ => ch '+' :: e.minimal 2
  | minus e, _ => ch '-' :: e.minimal 2
  | sqrt e, _ => lit "sqrt" ++ ch '(' :: (e.minimal 0 ++ [ch ')'])
  | binary op l r, prec =>
    if prec ≤ op.prec then l.minimal op.prec ++ op.symbol :: r.minimal (op.prec + 1)
    else ch '(' :: (l.minimal op.prec ++ op.symbol :: r.minimal (op.prec + 1) ++ [ch ')'])

theorem writes_minimal {e : ArithExp} (decimals : ∀ t ∈ e.literals, IsDecimal t) (words : ∀ name ∈ e.names, IsName name)
    (prec : Nat) : Writes prec e (e.minimal prec) := by
  have blank : Blank [] := List.forall_mem_nil _
  induction e generalizing prec with
  | number text => exact .number blank (decimals text (List.mem_singleton_self _))
  | named name => exact .named blank (words name (List.mem_singleton_self _))
  | plus e ih => exact .plus blank (ih decimals words 2)
  | minus e ih => exact .minus blank (ih decimals words 2)
  | sqrt e ih => exact .sqrt blank blank (ih decimals words 0) blank
  | binary op l r ihl ihr =>
    obtain ⟨decimalsL, decimalsR⟩ := List.forall_mem_append.1 decimals
    obtain ⟨wordsL, wordsR⟩ := List.forall_mem_append.1 words
    have left := ihl decimalsL wordsL op.prec
    have right := ihr decimalsR wordsR (op.prec + 1)
    rw [ArithExp.minimal]
    by_cases binds : prec ≤ op.prec
    · rw [if_pos binds]
      exact .binary binds left blank right
    · rw [if_neg binds]
      exact .group blank (.binary (Nat.zero_le _) left blank right) blank

/-- The characters that may come behind an operand. -/
def afterFactor : List UInt8 := [ch '+', ch '-', ch '*', ch '/', ch ')']

/-- The characters that may come behind a term. -/
def afterTerm : List UInt8 := [ch '+', ch '-', ch ')']

/-- `strtod` reads the literal to its end when white space or a character of the expression comes behind it. -/
def ReadsLiteral (D : Type) [CxxDouble D] (text : Str) : Prop :=
  ∀ rest : Str, (∀ c ∈ rest.head?, isSpace c = true ∨ c ∈ afterFactor) →
    (CxxDouble.strtod (text ++ rest) : D × Nat) = ((CxxDouble.strtod text).1, text.length)

namespace NumericExpressionParser

/-! ## White space -/

@[simp] theorem skipSpaces_idem (s : Str) : skipSpaces (skipSpaces s) = skipSpaces s :=
  List.dropWhile_idempotent isSpace s

theorem skipSpaces_blank {blanks : Str} (blank : Blank blanks) (s : Str) : skipSpaces (blanks ++ s) = skipSpaces s :=
  List.dropWhile_append_of_pos blank

theorem skipSpaces_cons {c : UInt8} (solid : isSpace c = false) (s : Str) : skipSpaces (c :: s) = c :: s := by
  simp [skipSpaces, solid]

theorem not_space_of_name {c : UInt8} (first : isAlpha c = true ∨ c = ch '_') : isSpace c = false := by
  have range := toNat_of_wordStart first
  simp [isSpace]
  omega

theorem space_symbol (op : ArithOp) : isSpace op.symbol = false := by cases op <;> rfl

/-- The next character that is not white space, if there is one, is among these. -/
def FollowedBy (chars : List UInt8) (rest : Str) : Prop := ∀ c ∈ (skipSpaces rest).head?, c ∈ chars

theorem FollowedBy.mono {chars more : List UInt8} {rest : Str} (followed : FollowedBy chars rest) (sub : chars ⊆ more) :
    FollowedBy more rest := fun c next => sub (followed c next)

theorem followedBy_cons {chars : List UInt8} {blanks : Str} {c : UInt8} (blank : Blank blanks)
    (solid : isSpace c = false) (mem : c ∈ chars) (rest : Str) : FollowedBy chars (blanks ++ c :: rest) := by
  intro d next
  rw [skipSpaces_blank blank, skipSpaces_cons solid] at next
  cases next
  exact mem

theorem FollowedBy.head {chars : List UInt8} {rest : Str} (followed : FollowedBy chars rest) :
    ∀ c ∈ rest.head?, isSpace c = true ∨ c ∈ chars := by
  cases rest with
  | nil => nofun
  | cons c rest =>
    intro d first
    cases first
    cases space : isSpace c with
    | true => exact .inl rfl
    | false => exact .inr (followed c (by rw [skipSpaces_cons space]; rfl))

section Loops

variable {D : Type} [CxxDouble D] (vm : VariableManager D)

/-- Both loops and the closing parenthesis skip white space first. -/
theorem termLoop_skipSpaces (fuel : Nat) (value : D) (s : Str) :
    termLoop vm fuel value (skipSpaces s) = termLoop vm fuel value s := by
  cases fuel with
  | zero => simp only [termLoop]
  | succ fuel => simp only [termLoop, skipSpaces_idem]

theorem expressionLoop_skipSpaces (fuel : Nat) (value : D) (s : Str) :
    expressionLoop vm fuel value (skipSpaces s) = expressionLoop vm fuel value s := by
  cases fuel with
  | zero => simp only [expressionLoop]
  | succ fuel => simp only [expressionLoop, skipSpaces_idem]

theorem termLoop_stop (fuel : Nat) (value : D) {rest : Str} (followed : FollowedBy afterTerm rest) :
    termLoop vm (fuel + 1) value rest = .ok (value, skipSpaces rest) := by
  unfold FollowedBy at followed
  rw [termLoop]
  cases next : skipSpaces rest with
  | nil => rfl
  | cons c s =>
    rw [next] at followed
    have among : c ∈ afterTerm := followed c rfl
    have times : c ≠ ch '*' := fun same => absurd (same ▸ among) (by decide)
    have slash : c ≠ ch '/' := fun same => absurd (same ▸ among) (by decide)
    simp only [times, slash, if_false]

theorem expressionLoop_stop (fuel : Nat) (value : D) {rest : Str} (followed : FollowedBy [ch ')'] rest) :
    expressionLoop vm (fuel + 1) value rest = .ok (value, skipSpaces rest) := by
  unfold FollowedBy at followed
  rw [expressionLoop]
  cases next : skipSpaces rest with
  | nil => rfl
  | cons c s =>
    rw [next] at followed
    have among : c ∈ [ch ')'] := followed c rfl
    have plus : c ≠ ch '+' := fun same => absurd (same ▸ among) (by decide)
    have minus : c ≠ ch '-' := fun same => absurd (same ▸ among) (by decide)
    simp only [plus, minus, if_false]

omit [CxxDouble D] in
theorem closing_skipSpaces (value : D) (missing s : Str) : closing value missing (skipSpaces s) = closing value missing s := by
  simp only [closing, skipSpaces_idem]

omit [CxxDouble D] in
theorem closing_paren (value : D) (missing : Str) {behind : Str} (blank : Blank behind) (rest : Str) :
    closing value missing (behind ++ ch ')' :: rest) = .ok (value, rest) := by
  simp only [closing, skipSpaces_blank blank, skipSpaces_cons (show isSpace (ch ')') = false from rfl), if_true]

/-- One turn of the loop of `parseTerm`. -/
theorem termLoop_op {op : ArithOp} (tight : op.prec = 1) {blanks : Str} (blank : Blank blanks) (fuel : Nat) (value : D)
    (s : Str) :
    termLoop vm (fuel + 1) value (blanks ++ op.symbol :: s) = (parseFactor vm fuel s >>= fun r =>
      if op = .div ∧ nearZero r.1 = true then fail (lit "division by zero")
      else termLoop vm fuel (op.apply value r.1) r.2) := by
  rw [termLoop, skipSpaces_blank blank, skipSpaces_cons (space_symbol op)]
  cases op with
  | add => cases tight
  | sub => cases tight
  | mul =>
    simp only [ArithOp.symbol, if_true, reduceCtorEq, false_and, if_false]
    rfl
  | div =>
    simp only [ArithOp.symbol, show ch '/' ≠ ch '*' by decide, if_true, if_false, true_and]
    rfl

/-- One turn of the loop of `parseExpression`. -/
theorem expressionLoop_op {op : ArithOp} (loose : op.prec = 0) {blanks : Str} (blank : Blank blanks) (fuel : Nat)
    (value : D) (s : Str) :
    expressionLoop vm (fuel + 1) value (blanks ++ op.symbol :: s) = (parseTerm vm fuel s >>= fun r =>
      expressionLoop vm fuel (op.apply value r.1) r.2) := by
  rw [expressionLoop, skipSpaces_blank blank, skipSpaces_cons (space_symbol op)]
  cases op with
  | add =>
    simp only [ArithOp.symbol, if_true]
    rfl
  | sub =>
    simp only [ArithOp.symbol, show ch '-' ≠ ch '+' by decide, if_true, if_false]
    rfl
  | mul => cases loose
  | div => cases loose

end Loops

/-! ## Reading an expression -/

section Reading

variable {D : Type} [CxxDouble D] (vm : VariableManager D)

/-- The value, or what is thrown when a divisor is near zero. -/
def result (e : ArithExp) : Except Stop D :=
  if (e.divisors vm).any nearZero then fail (lit "division by zero") else .ok (e.value vm)

theorem result_minus (e : ArithExp) : result vm (.minus e) = (result vm e).map CxxDouble.neg := by
  show (if (e.divisors vm).any nearZero then fail _ else .ok (CxxDouble.neg (e.value vm))) = _
  unfold result
  by_cases small : (e.divisors vm).any nearZero = true
  · rw [if_pos small, if_pos small]
    rfl
  · rw [if_neg small, if_neg small]
    rfl

theorem result_sqrt (e : ArithExp) : result vm (.sqrt e) = (result vm e).map CxxDouble.sqrt := by
  show (if (e.divisors vm).any nearZero then fail _ else .ok (CxxDouble.sqrt (e.value vm))) = _
  unfold result
  by_cases small : (e.divisors vm).any nearZero = true
  · rw [if_pos small, if_pos small]
    rfl
  · rw [if_neg small, if_neg small]
    rfl

theorem result_binary (op : ArithOp) (l r : ArithExp) :
    result vm (.binary op l r) = (result vm l >>= fun a => result vm r >>= fun b =>
      if op = .div ∧ nearZero b = true then fail (lit "division by zero") else .ok (op.apply a b)) := by
  simp only [result, ArithExp.divisors, ArithExp.value, List.any_append]
  cases left : (l.divisors vm).any nearZero with
  | true => rfl
  | false =>
    cases right : (r.divisors vm).any nearZero with
    | true => rfl
    | false =>
      show _ = if op = .div ∧ nearZero (r.value vm) = true then fail (lit "division by zero") else _
      by_cases division : op = .div
      · simp [division]
      · simp [division]

/-- What each level of the parser does with a text of that level. At the two upper levels the loop goes on behind the
text; the fuel it goes on with is enough for what is left. -/
structure Reads (prec : Nat) (e : ArithExp) (text : Str) : Prop where
  expression : ∀ fuel rest, 3 * (text ++ rest).length + 3 ≤ fuel → FollowedBy afterTerm rest →
    ∃ left, 3 * rest.length + 2 ≤ left ∧
      parseExpression vm fuel (text ++ rest) = (result vm e >>= fun v => expressionLoop vm left v rest)
  term : 1 ≤ prec → ∀ fuel rest, 3 * (text ++ rest).length + 2 ≤ fuel → FollowedBy afterFactor rest →
    ∃ left, 3 * rest.length + 1 ≤ left ∧
      parseTerm vm fuel (text ++ rest) = (result vm e >>= fun v => termLoop vm left v rest)
  factor : 2 ≤ prec → ∀ fuel rest, 3 * (text ++ rest).length + 1 ≤ fuel → FollowedBy afterFactor rest →
    ∃ s, skipSpaces s = skipSpaces rest ∧ parseFactor vm fuel (text ++ rest) = (result vm e).map fun v => (v, s)

variable {vm}

/-- Reading as a factor is enough for a text of that level. -/
theorem Reads.of_factor {e : ArithExp} {text : Str}
    (factor : ∀ fuel rest, 3 * (text ++ rest).length + 1 ≤ fuel → FollowedBy afterFactor rest →
      ∃ s, skipSpaces s = skipSpaces rest ∧ parseFactor vm fuel (text ++ rest) = (result vm e).map fun v => (v, s)) :
    ∀ fuel rest, 3 * (text ++ rest).length + 2 ≤ fuel → FollowedBy afterFactor rest →
      ∃ left, 3 * rest.length + 1 ≤ left ∧
        parseTerm vm fuel (text ++ rest) = (result vm e >>= fun v => termLoop vm left v rest) := by
  intro fuel rest enough followed
  obtain ⟨fuel, rfl⟩ := Nat.exists_eq_add_of_le' (show 1 ≤ fuel by omega)
  obtain ⟨s, same, run⟩ := factor fuel rest (by omega) followed
  refine ⟨fuel, ?_, ?_⟩
  · rw [List.length_append] at enough
    omega
  · rw [parseTerm, run]
    cases result vm e with
    | error what => rfl
    | ok v =>
      show termLoop vm fuel v s = termLoop vm fuel v rest
      rw [← termLoop_skipSpaces, same, termLoop_skipSpaces]

/-- Reading as a term is enough for a text of that level. -/
theorem Reads.of_term {e : ArithExp} {text : Str}
    (term : ∀ fuel rest, 3 * (text ++ rest).length + 2 ≤ fuel → FollowedBy afterFactor rest →
      ∃ left, 3 * rest.length + 1 ≤ left ∧
        parseTerm vm fuel (text ++ rest) = (result vm e >>= fun v => termLoop vm left v rest)) :
    ∀ fuel rest, 3 * (text ++ rest).length + 3 ≤ fuel → FollowedBy afterTerm rest →
      ∃ left, 3 * rest.length + 2 ≤ left ∧
        parseExpression vm fuel (text ++ rest) = (result vm e >>= fun v => expressionLoop vm left v rest) := by
  intro fuel rest enough followed
  obtain ⟨fuel, rfl⟩ := Nat.exists_eq_add_of_le' (show 1 ≤ fuel by omega)
  obtain ⟨left, more, run⟩ := term fuel rest (by omega) (followed.mono (by decide))
  obtain ⟨left, rfl⟩ := Nat.exists_eq_add_of_le' (show 1 ≤ left by omega)
  refine ⟨fuel, ?_, ?_⟩
  · rw [List.length_append] at enough
    omega
  · rw [parseExpression, run]
    cases result vm e with
    | error what => rfl
    | ok v =>
      show (termLoop vm (left + 1) v rest >>= fun r => expressionLoop vm fuel r.1 r.2) = expressionLoop vm fuel v rest
      rw [termLoop_stop vm left v followed]
      exact expressionLoop_skipSpaces vm fuel v rest

theorem Reads.of_operand {prec : Nat} {e : ArithExp} {text : Str}
    (factor : ∀ fuel rest, 3 * (text ++ rest).length + 1 ≤ fuel → FollowedBy afterFactor rest →
      ∃ s, skipSpaces s = skipSpaces rest ∧ parseFactor vm fuel (text ++ rest) = (result vm e).map fun v => (v, s)) :
    Reads vm prec e text where
  expression := Reads.of_term (Reads.of_factor factor)
  term := fun _ => Reads.of_factor factor
  factor := fun _ => factor

theorem reads_number {prec : Nat} {blanks text : Str} (blank : Blank blanks) (decimal : IsDecimal text)
    (literal : ReadsLiteral D text) : Reads vm prec (.number text) (blanks ++ text) := by
  apply Reads.of_operand
  intro fuel rest enough followed
  obtain ⟨fuel, rfl⟩ := Nat.exists_eq_add_of_le' (show 1 ≤ fuel by omega)
  refine ⟨rest, rfl, ?_⟩
  obtain ⟨c, body, rfl, first⟩ := decimal.first
  have range : (48 ≤ c.toNat ∧ c.toNat ≤ 57) ∨ c.toNat = 46 := by
    rcases first with digit | rfl
    · simp [isDigit] at digit
      omega
    · exact .inr rfl
  have apart : ∀ k : UInt8, k.toNat < 46 → c ≠ k := fun k small => ne_of_toNat_lt (by omega)
  have solid : isSpace c = false := by
    simp [isSpace]
    omega
  have number : (parseNumber (c :: body ++ rest) : Except Stop (D × Str)) =
      .ok ((CxxDouble.strtod (c :: body)).1, rest) := by
    rw [parseNumber, literal rest followed.head]
    show (if (c :: body).length = 0 then _ else _) = _
    rw [if_neg (by simp), List.drop_left]
  rw [parseFactor, List.append_assoc, skipSpaces_blank blank, List.cons_append, skipSpaces_cons solid]
  simp only [apart (ch '+') (by decide), apart (ch '-') (by decide), apart (ch '(') (by decide), first, if_true, if_false]
  exact number

theorem variableToDouble_of_value {name : Str} {v : D} (holds : ArithExp.variableValue vm name = some v) :
    variableToDouble vm name = .ok v := by
  unfold ArithExp.variableValue at holds
  unfold variableToDouble
  cases found : vm.lookup name with
  | none =>
    rw [found] at holds
    cases holds
  | some value =>
    rw [found] at holds
    cases value with
    | int n => exact congrArg Except.ok (Option.some.inj holds)
    | double d => exact congrArg Except.ok (Option.some.inj holds)
    | bool b =>
      cases holds
      cases b <;> rfl
    | string text => cases holds
    | unknown => cases holds

theorem not_wordChar_after {c : UInt8} (next : isSpace c = true ∨ c ∈ afterFactor) : isWordChar c = false := by
  rcases next with space | among
  · exact not_wordChar_of_isSpace space
  · have none : afterFactor.all (fun c => !isWordChar c) = true := by decide
    simpa using List.all_eq_true.1 none c among

/-- What `parseFactor` does behind an identifier. -/
def behindName (vm : VariableManager D) (fuel : Nat) (identifier rest : Str) : Except Stop (D × Str) :=
  match skipSpaces rest with
  | [] => do return (← throwing (variableToDouble vm identifier), [])
  | d :: rest =>
    if d = ch '(' then do
      let (arg, s) ← parseExpression vm fuel rest
      let (arg, s) ← closing arg (lit "missing closing ')' for function: " ++ identifier) s
      callFunction identifier arg s
    else do return (← throwing (variableToDouble vm identifier), d :: rest)

/-- Which branch of `parseFactor` a letter leads to. -/
theorem parseFactor_name {c : UInt8} {body blanks rest : Str} (blank : Blank blanks)
    (first : isAlpha c = true ∨ c = ch '_') (inside : ∀ x ∈ body, isWordChar x = true)
    (stop : ∀ x ∈ rest.head?, isWordChar x = false) (fuel : Nat) :
    parseFactor vm (fuel + 1) (blanks ++ (c :: body ++ rest)) = behindName vm fuel (c :: body) rest := by
  have range := toNat_of_wordStart first
  have apart : ∀ k : UInt8, k.toNat < 65 → c ≠ k := fun k small => ne_of_toNat_lt (by omega)
  have digit : isDigit c = false := by
    simp [isDigit]
    omega
  obtain ⟨taken, left⟩ := takeWhile_append_stop inside stop
  rw [parseFactor, skipSpaces_blank blank, List.cons_append, skipSpaces_cons (not_space_of_name first)]
  simp only [apart (ch '+') (by decide), apart (ch '-') (by decide), apart (ch '(') (by decide),
    apart (ch '.') (by decide), digit, Bool.false_eq_true, or_self, if_false, first, if_true, taken, left]
  rfl

theorem reads_named {prec : Nat} {blanks name : Str} (blank : Blank blanks) (word : IsName name) {v : D}
    (holds : ArithExp.variableValue vm name = some v) : Reads vm prec (.named name) (blanks ++ name) := by
  apply Reads.of_operand
  intro fuel rest enough followed
  obtain ⟨fuel, rfl⟩ := Nat.exists_eq_add_of_le' (show 1 ≤ fuel by omega)
  refine ⟨skipSpaces rest, skipSpaces_idem rest, ?_⟩
  obtain ⟨c, body, rfl, first, inside⟩ := word
  have value : result vm (.named (c :: body)) = .ok v := by
    simp [result, ArithExp.divisors, ArithExp.value, holds]
  unfold FollowedBy at followed
  rw [List.append_assoc, parseFactor_name blank first inside fun x next => not_wordChar_after (FollowedBy.head followed x next),
    value, behindName, variableToDouble_of_value holds]
  cases next : skipSpaces rest with
  | nil => rfl
  | cons d behind =>
    rw [next] at followed
    have open' : d ≠ ch '(' := fun same => absurd (same ▸ followed d rfl) (by decide)
    simp only [open', if_false]
    rfl

/-- What a parenthesised text leads to. -/
theorem parens {e : ArithExp} {t behind : Str} (inner : Reads vm 0 e t) (close : Blank behind) (missing : Str) {fuel : Nat}
    {rest : Str} (enough : 3 * (t ++ (behind ++ ch ')' :: rest)).length + 3 ≤ fuel) :
    (parseExpression vm fuel (t ++ (behind ++ ch ')' :: rest)) >>= fun r => closing r.1 missing r.2) =
      (result vm e).map fun v => (v, rest) := by
  have followed : FollowedBy [ch ')'] (behind ++ ch ')' :: rest) :=
    followedBy_cons close rfl List.mem_cons_self rest
  obtain ⟨left, more, run⟩ := inner.expression fuel _ enough (followed.mono (by decide))
  obtain ⟨left, rfl⟩ := Nat.exists_eq_add_of_le' (show 1 ≤ left by omega)
  rw [run]
  cases result vm e with
  | error what => rfl
  | ok v =>
    show (expressionLoop vm (left + 1) v _ >>= _) = Except.ok (v, rest)
    rw [expressionLoop_stop vm left v followed]
    show closing v missing (skipSpaces (behind ++ ch ')' :: rest)) = Except.ok (v, rest)
    rw [closing_skipSpaces]
    exact closing_paren v missing close rest

theorem reads_group {prec : Nat} {e : ArithExp} {blanks t behind : Str} (blank : Blank blanks) (inner : Reads vm 0 e t)
    (close : Blank behind) : Reads vm prec e (blanks ++ ch '(' :: (t ++ (behind ++ [ch ')']))) := by
  apply Reads.of_operand
  intro fuel rest enough followed
  obtain ⟨fuel, rfl⟩ := Nat.exists_eq_add_of_le' (show 1 ≤ fuel by omega)
  refine ⟨rest, rfl, ?_⟩
  have shape : blanks ++ ch '(' :: (t ++ (behind ++ [ch ')'])) ++ rest =
      blanks ++ ch '(' :: (t ++ (behind ++ ch ')' :: rest)) := by simp
  rw [shape] at enough ⊢
  rw [List.length_append, List.length_cons] at enough
  rw [parseFactor, skipSpaces_blank blank, skipSpaces_cons (show isSpace (ch '(') = false from rfl)]
  simp only [show ch '(' ≠ ch '+' by decide, show ch '(' ≠ ch '-' by decide, if_true, if_false]
  exact parens inner close _ (by omega)

theorem reads_sqrt {prec : Nat} {e : ArithExp} {blanks between t behind : Str} (blank : Blank blanks)
    (gap : Blank between) (argument : Reads vm 0 e t) (close : Blank behind) :
    Reads vm prec (.sqrt e) (blanks ++ (lit "sqrt" ++ (between ++ ch '(' :: (t ++ (behind ++ [ch ')']))))) := by
  apply Reads.of_operand
  intro fuel rest enough followed
  obtain ⟨fuel, rfl⟩ := Nat.exists_eq_add_of_le' (show 1 ≤ fuel by omega)
  refine ⟨rest, rfl, ?_⟩
  have shape : blanks ++ (lit "sqrt" ++ (between ++ ch '(' :: (t ++ (behind ++ [ch ')'])))) ++ rest =
      blanks ++ (lit "sqrt" ++ (between ++ ch '(' :: (t ++ (behind ++ ch ')' :: rest)))) := by simp
  have stop : ∀ x ∈ (between ++ ch '(' :: (t ++ (behind ++ ch ')' :: rest))).head?, isWordChar x = false := by
    cases between with
    | nil =>
      intro x next
      cases next
      rfl
    | cons b between =>
      intro x next
      cases next
      exact not_wordChar_of_isSpace (gap b List.mem_cons_self)
  rw [shape] at enough ⊢
  simp only [List.length_append, List.length_cons] at enough
  have name : lit "sqrt" = ch 's' :: lit "qrt" := rfl
  rw [name, parseFactor_name blank (.inl rfl) (List.all_eq_true.1 (by decide)) stop, behindName, skipSpaces_blank gap,
    skipSpaces_cons (show isSpace (ch '(') = false from rfl), result_sqrt]
  have inside := parens argument close (lit "missing closing ')' for function: " ++ ch 's' :: lit "qrt")
    (show 3 * (t ++ (behind ++ ch ')' :: rest)).length + 3 ≤ fuel by
      simp only [List.length_append, List.length_cons]
      omega)
  show (parseExpression vm fuel (t ++ (behind ++ ch ')' :: rest)) >>= fun r => closing r.1 _ r.2 >>= fun r =>
    Except.ok (CxxDouble.sqrt r.1, r.2)) = _
  rw [← bind_assoc, inside]
  cases result vm e <;> rfl

theorem reads_plus {prec : Nat} {e : ArithExp} {blanks t : Str} (blank : Blank blanks) (operand : Reads vm 2 e t) :
    Reads vm prec (.plus e) (blanks ++ ch '+' :: t) := by
  apply Reads.of_operand
  intro fuel rest enough followed
  obtain ⟨fuel, rfl⟩ := Nat.exists_eq_add_of_le' (show 1 ≤ fuel by omega)
  simp only [List.append_assoc, List.cons_append, List.length_append, List.length_cons] at enough
  obtain ⟨s, same, run⟩ := operand.factor (le_refl 2) fuel rest (by rw [List.length_append]; omega) followed
  refine ⟨s, same, ?_⟩
  rw [List.append_assoc, parseFactor, skipSpaces_blank blank, List.cons_append,
    skipSpaces_cons (show isSpace (ch '+') = false from rfl)]
  simp only [if_true]
  exact run

theorem reads_minus {prec : Nat} {e : ArithExp} {blanks t : Str} (blank : Blank blanks) (operand : Reads vm 2 e t) :
    Reads vm prec (.minus e) (blanks ++ ch '-' :: t) := by
  apply Reads.of_operand
  intro fuel rest enough followed
  obtain ⟨fuel, rfl⟩ := Nat.exists_eq_add_of_le' (show 1 ≤ fuel by omega)
  simp only [List.append_assoc, List.cons_append, List.length_append, List.length_cons] at enough
  obtain ⟨s, same, run⟩ := operand.factor (le_refl 2) fuel rest (by rw [List.length_append]; omega) followed
  refine ⟨s, same, ?_⟩
  rw [List.append_assoc, parseFactor, skipSpaces_blank blank, List.cons_append,
    skipSpaces_cons (show isSpace (ch '-') = false from rfl), result_minus]
  simp only [show ch '-' ≠ ch '+' by decide, if_true, if_false, run]
  cases result vm e <;> rfl

/-- A chain of products grows to the right: the loop takes up the value of what was read so far. -/
theorem reads_product {op : ArithOp} (tight : op.prec = 1) {l r : ArithExp} {t blanks u : Str} (left : Reads vm 1 l t)
    (blank : Blank blanks) (right : Reads vm 2 r u) :
    ∀ fuel rest, 3 * (t ++ (blanks ++ op.symbol :: u) ++ rest).length + 2 ≤ fuel → FollowedBy afterFactor rest →
      ∃ left, 3 * rest.length + 1 ≤ left ∧ parseTerm vm fuel (t ++ (blanks ++ op.symbol :: u) ++ rest) =
        (result vm (.binary op l r) >>= fun v => termLoop vm left v rest) := by
  intro fuel rest enough followed
  have shape : t ++ (blanks ++ op.symbol :: u) ++ rest = t ++ (blanks ++ op.symbol :: (u ++ rest)) := by simp
  have symbol : op.symbol ∈ afterFactor := by cases op <;> decide
  rw [shape] at enough ⊢
  obtain ⟨fuel', more, run⟩ :=
    left.term (le_refl 1) fuel _ enough (followedBy_cons blank (space_symbol op) symbol (u ++ rest))
  obtain ⟨fuel', rfl⟩ := Nat.exists_eq_add_of_le' (show 1 ≤ fuel' by omega)
  simp only [List.length_append, List.length_cons] at more
  obtain ⟨s, same, run'⟩ := right.factor (le_refl 2) fuel' rest (by rw [List.length_append]; omega) followed
  refine ⟨fuel', by omega, ?_⟩
  rw [run, result_binary]
  cases result vm l with
  | error what => rfl
  | ok a =>
    show termLoop vm (fuel' + 1) a _ = _
    rw [termLoop_op vm tight blank, run']
    cases result vm r with
    | error what => rfl
    | ok b =>
      show (if op = .div ∧ nearZero b = true then _ else termLoop vm fuel' (op.apply a b) s) =
        ((if op = .div ∧ nearZero b = true then _ else _) >>= _)
      by_cases refused : op = .div ∧ nearZero b = true
      · rw [if_pos refused, if_pos refused]
        rfl
      · rw [if_neg refused, if_neg refused, ← termLoop_skipSpaces, same, termLoop_skipSpaces]
        rfl

theorem reads_sum {op : ArithOp} (loose : op.prec = 0) {l r : ArithExp} {t blanks u : Str} (left : Reads vm 0 l t)
    (blank : Blank blanks) (right : Reads vm 1 r u) :
    ∀ fuel rest, 3 * (t ++ (blanks ++ op.symbol :: u) ++ rest).length + 3 ≤ fuel → FollowedBy afterTerm rest →
      ∃ left, 3 * rest.length + 2 ≤ left ∧ parseExpression vm fuel (t ++ (blanks ++ op.symbol :: u) ++ rest) =
        (result vm (.binary op l r) >>= fun v => expressionLoop vm left v rest) := by
  intro fuel rest enough followed
  have shape : t ++ (blanks ++ op.symbol :: u) ++ rest = t ++ (blanks ++ op.symbol :: (u ++ rest)) := by simp
  have undivided : op ≠ .div := fun same => absurd loose (by rw [same]; decide)
  have symbol : op.symbol ∈ afterTerm := by
    cases op with
    | add => decide
    | sub => decide
    | mul => cases loose
    | div => cases loose
  rw [shape] at enough ⊢
  obtain ⟨fuel', more, run⟩ :=
    left.expression fuel _ enough (followedBy_cons blank (space_symbol op) symbol (u ++ rest))
  obtain ⟨fuel', rfl⟩ := Nat.exists_eq_add_of_le' (show 1 ≤ fuel' by omega)
  simp only [List.length_append, List.length_cons] at more
  obtain ⟨fuel'', more', run'⟩ :=
    right.term (le_refl 1) fuel' rest (by rw [List.length_append]; omega) (followed.mono (by decide))
  obtain ⟨fuel'', rfl⟩ := Nat.exists_eq_add_of_le' (show 1 ≤ fuel'' by omega)
  refine ⟨fuel', by omega, ?_⟩
  rw [run, result_binary]
  cases result vm l with
  | error what => rfl
  | ok a =>
    show expressionLoop vm (fuel' + 1) a _ = _
    rw [expressionLoop_op vm loose blank, run']
    cases result vm r with
    | error what => rfl
    | ok b =>
      show (termLoop vm (fuel'' + 1) b rest >>= fun s => expressionLoop vm fuel' (op.apply a s.1) s.2) =
        ((if op = .div ∧ nearZero b = true then _ else _) >>= _)
      rw [termLoop_stop vm fuel'' b followed, if_neg fun both => undivided both.1]
      exact expressionLoop_skipSpaces vm fuel' (op.apply a b) rest

variable (vm)

/-- Every text an expression is written as is read, given its literals and variables. -/
theorem reads_of_writes {prec : Nat} {e : ArithExp} {text : Str} (writes : Writes prec e text)
    (literals : ∀ t ∈ e.literals, ReadsLiteral D t)
    (holds : ∀ name ∈ e.names, (ArithExp.variableValue vm name).isSome) : Reads vm prec e text := by
  induction writes with
  | number blank decimal => exact reads_number blank decimal (literals _ (List.mem_singleton_self _))
  | named blank word =>
    obtain ⟨v, value⟩ := Option.isSome_iff_exists.1 (holds _ (List.mem_singleton_self _))
    exact reads_named blank word value
  | plus blank _ ih => exact reads_plus blank (ih literals holds)
  | minus blank _ ih => exact reads_minus blank (ih literals holds)
  | sqrt blank gap _ close ih => exact reads_sqrt blank gap (ih literals holds) close
  | group blank _ close ih => exact reads_group blank (ih literals holds) close
  | @binary prec op blanks t u l r binds _ blank _ ihl ihr =>
    obtain ⟨literalsL, literalsR⟩ := List.forall_mem_append.1 literals
    obtain ⟨holdsL, holdsR⟩ := List.forall_mem_append.1 holds
    have left := ihl literalsL holdsL
    have right := ihr literalsR holdsR
    rcases (show op.prec = 1 ∨ op.prec = 0 by cases op <;> decide) with tight | loose
    · rw [tight] at left right binds
      have term := reads_product tight left blank right
      exact ⟨Reads.of_term term, fun _ => term, fun factor => by omega⟩
    · rw [loose] at left right binds
      exact ⟨reads_sum loose left blank right, fun term => by omega, fun factor => by omega⟩

/-- The expression has its value, unless one of its divisors is near zero; then that is what `parse` throws. -/
theorem parse_written {e : ArithExp} {text behind : Str} (writes : Writes 0 e text) (blank : Blank behind)
    (literals : ∀ t ∈ e.literals, ReadsLiteral D t)
    (holds : ∀ name ∈ e.names, (ArithExp.variableValue vm name).isSome) :
    parse vm (text ++ behind) =
      if (e.divisors vm).any nearZero then fail (lit "division by zero") else .ok (e.value vm) := by
  have reads := reads_of_writes vm writes literals holds
  have nothing : skipSpaces behind = [] := List.dropWhile_eq_nil_iff.2 blank
  have followed : FollowedBy [ch ')'] behind := by
    intro c next
    rw [nothing] at next
    cases next
  obtain ⟨left, more, run⟩ := reads.expression _ behind (le_refl _) (followed.mono (by decide))
  obtain ⟨left, rfl⟩ := Nat.exists_eq_add_of_le' (show 1 ≤ left by omega)
  rw [parse, run]
  show _ = result vm e
  cases result vm e with
  | error what => rfl
  | ok v =>
    show (expressionLoop vm (left + 1) v behind >>= _) = _
    rw [expressionLoop_stop vm left v followed, nothing]
    rfl

end Reading

/-- A whole number is a literal the fixed-point instance reads. -/
theorem readsLiteral_digits {text : Str} (some : text ≠ []) (digits : Digits text) : ReadsLiteral FixedPoint text := by
  intro rest next
  obtain ⟨c, body, rfl⟩ := List.exists_cons_of_ne_nil some
  have reads : ∀ s : Str, (∀ d ∈ s.head?, isSpace d = true ∨ d ∈ afterFactor) →
      FixedPoint.strtod (c :: body ++ s) = (⟨digitsValue (c :: body) * FixedPoint.scale⟩, (c :: body).length) := by
    intro s next
    have stop : ∀ d ∈ s.head?, isDigit d = false := by
      intro d first
      have outside := NumericExpressionParser.not_wordChar_after (next d first)
      simp only [isWordChar, isAlnum, Bool.or_eq_false_iff] at outside
      exact outside.1.2
    obtain ⟨taken, left⟩ := takeWhile_append_stop digits stop
    obtain ⟨blanks, kept, unsigned⟩ := signed_front false (body ++ s) (digits c List.mem_cons_self)
    simp only [signed, Bool.false_eq_true, if_false] at blanks kept unsigned
    rw [List.cons_append] at taken left ⊢
    simp only [FixedPoint.strtod, blanks, kept, unsigned, taken, left]
    cases s with
    | nil => simp [digitsValue]
    | cons d t =>
      have pointless : d ≠ ch '.' := by
        rintro rfl
        rcases next (ch '.') rfl with space | among
        · cases space
        · exact absurd among (by decide)
      simp [pointless, digitsValue]
  show FixedPoint.strtod (c :: body ++ rest) = ((FixedPoint.strtod (c :: body)).1, (c :: body).length)
  have alone := reads [] fun d first => by cases first
  rw [List.append_nil] at alone
  rw [reads rest next, alone]

/-- `10 - 4-3 / ( - b ) *sqrt(16)`, with `b` equal to `-2`, is `10 - 4 - 3 / 2 * 4`. -/
theorem parse_written_sample :
    let vm : VariableManager FixedPoint := { globalVars := OrdMap.ofList [(lit "b", .int (-2))] }
    parse vm (lit "10 - 4-3 / ( - b ) *sqrt(16) ") = .ok ⟨0⟩ := by
  intro vm
  let e : ArithExp :=
    .binary .sub (.binary .sub (.number (lit "10")) (.number (lit "4")))
      (.binary .mul (.binary .div (.number (lit "3")) (.minus (.named (lit "b")))) (.sqrt (.number (lit "16"))))
  have blank : ∀ n, Blank (List.replicate n (ch ' ')) := fun n c mem => by rw [List.eq_of_mem_replicate mem]; rfl
  have number : ∀ p n s, s ≠ [] → s.all isDigit = true → Writes p (.number s) (List.replicate n (ch ' ') ++ s) := by
    intro p n s some digits
    exact .number (blank n)
      ⟨s, [], [], [], by simp, List.all_eq_true.1 digits, nofun, by simpa using some, .inl ⟨rfl, rfl⟩, .inl rfl⟩
  have b : Writes 2 (.named (lit "b")) (lit " b") := .named (blank 1) ⟨_, [], rfl, .inl rfl, nofun⟩
  have negative : Writes 0 (.minus (.named (lit "b"))) (lit " - b") := .minus (blank 1) b
  have group : Writes 2 (.minus (.named (lit "b"))) (lit " ( - b )") :=
    @Writes.group 2 (lit " ") (lit " - b") (lit " ") _ (blank 1) negative (blank 1)
  have root : Writes 2 (.sqrt (.number (lit "16"))) (lit "sqrt(16)") :=
    @Writes.sqrt 2 [] [] (lit "16") [] _ (blank 0) (blank 0) (number 0 0 _ (by decide) rfl) (blank 0)
  have quotient : Writes 1 (.binary .div (.number (lit "3")) (.minus (.named (lit "b")))) (lit "3 / ( - b )") :=
    @Writes.binary 1 .div (lit " ") (lit "3") _ _ _ (le_refl 1) (number 1 0 _ (by decide) rfl) (blank 1) group
  have product : Writes 1 (.binary .mul (.binary .div _ _) (.sqrt (.number (lit "16")))) (lit "3 / ( - b ) *sqrt(16)") :=
    @Writes.binary 1 .mul (lit " ") (lit "3 / ( - b )") _ _ _ (le_refl 1) quotient (blank 1) root
  have difference : Writes 0 (.binary .sub (.number (lit "10")) (.number (lit "4"))) (lit "10 - 4") :=
    @Writes.binary 0 .sub (lit " ") (lit "10") (lit " 4") _ _ (le_refl 0) (number 0 0 _ (by decide) rfl) (blank 1)
      (number 1 1 _ (by decide) rfl)
  have whole : Writes 0 e (lit "10 - 4-3 / ( - b ) *sqrt(16)") :=
    @Writes.binary 0 .sub [] (lit "10 - 4") _ _ _ (le_refl 0) difference (blank 0) product
  refine (parse_written vm whole (blank 1) ?_ ?_).trans (by decide +kernel)
  · intro t mem
    have cases' : t ∈ [lit "10", lit "4", lit "3", lit "16"] := mem
    exact readsLiteral_digits (by rintro rfl; revert cases'; decide) (List.all_eq_true.1 (by revert cases'; revert t; decide))
  · decide

end NumericExpressionParser

end Actuator.Executor
