import Actuator.Constraint.Grammar

/-!
# Arithmetic expressions

`NumericExpressionParser`: three mutually recursive functions and their loops.
The parser's position is the text from it on, and each function returns its
value with the new position. As for conditions, the functions are given fuel;
the second half shows that each of them shortens the text it returns on, and
from that that the fuel `parse` supplies never runs out.
-/

namespace Actuator.Executor

open Actuator.Lib
open Actuator.Constraint (Stop Ends isWordChar throwing)

variable {D : Type}

/-- `tryParseNumberLiteral`. The end pointer is compared with a NUL, which a text may also contain. -/
def tryParseNumberLiteral [CxxDouble D] (text : Str) : Option D :=
  let (value, used) := CxxDouble.strtod text
  if text.isEmpty ∨ used = 0 then none
  else if (text.drop used).head?.all (· = 0) then some value
  else none

namespace NumericExpressionParser

def fail {α : Type} (what : Str) : Except Stop α := .error (.exception what)

def skipSpaces (s : Str) : Str := s.dropWhile isSpace

section Parser

variable [CxxDouble D]

def parseNumber (s : Str) : Except Stop (D × Str) :=
  let (value, used) := CxxDouble.strtod s
  if used = 0 then fail (lit "number expected") else .ok (value, s.drop used)

def variableToDouble (vm : VariableManager D) (varName : Str) : Except Exn D :=
  match vm.lookup varName with
  | none => .error (lit "variable not found: " ++ varName)
  | some (.int v) => .ok (CxxDouble.ofInt v)
  | some (.double v) => .ok v
  | some (.bool v) => .ok (if v then CxxDouble.ofInt 1 else CxxDouble.ofInt 0)
  | some (.string v) =>
    match (tryParseNumberLiteral (trim v) : Option D) with
    | some parsed => .ok parsed
    | none => .error (lit "variable is not numeric: " ++ varName)
  | some .unknown => .error (lit "unsupported variable type: " ++ varName)

/-- The `consume(')')` behind a parenthesised expression. -/
def closing (value : D) (missing : Str) (s : Str) : Except Stop (D × Str) :=
  match skipSpaces s with
  | [] => fail missing
  | c :: rest => if c = ch ')' then .ok (value, rest) else fail missing

/-- What a call of the named function gives. -/
def callFunction (identifier : Str) (arg : D) (s : Str) : Except Stop (D × Str) :=
  if identifier = lit "sqrt" then .ok (CxxDouble.sqrt arg, s)
  else fail (lit "unsupported numeric function: " ++ identifier)

mutual

/-- `parseFactor`. Each of its tests skips the same blanks, so they branch on the first character behind them. -/
def parseFactor (vm : VariableManager D) : Nat → Str → Except Stop (D × Str)
  | 0, _ => .error .outOfFuel
  | fuel + 1, s =>
    match skipSpaces s with
    | [] => fail (lit "unexpected end of numeric expression")
    | c :: rest =>
      if c = ch '+' then parseFactor vm fuel rest
      else if c = ch '-' then do
        let (value, s) ← parseFactor vm fuel rest
        return (CxxDouble.neg value, s)
      else if c = ch '(' then do
        let (value, s) ← parseExpression vm fuel rest
        closing value (lit "missing closing ')' in numeric expression") s
      else if isDigit c ∨ c = ch '.' then parseNumber (c :: rest)
      else if isAlpha c ∨ c = ch '_' then
        let identifier := c :: rest.takeWhile isWordChar
        match skipSpaces (rest.dropWhile isWordChar) with
        | [] => do return (← throwing (variableToDouble vm identifier), [])
        | c :: rest =>
          if c = ch '(' then do
            let (arg, s) ← parseExpression vm fuel rest
            let (arg, s) ← closing arg (lit "missing closing ')' for function: " ++ identifier) s
            callFunction identifier arg s
          else do return (← throwing (variableToDouble vm identifier), c :: rest)
      else fail (lit "unexpected token in numeric expression")

def parseTerm (vm : VariableManager D) : Nat → Str → Except Stop (D × Str)
  | 0, _ => .error .outOfFuel
  | fuel + 1, s => do
    let (value, s) ← parseFactor vm fuel s
    termLoop vm fuel value s

/-- The loop of `parseTerm`. -/
def termLoop (vm : VariableManager D) : Nat → D → Str → Except Stop (D × Str)
  | 0, _, _ => .error .outOfFuel
  | fuel + 1, value, s =>
    match skipSpaces s with
    | [] => .ok (value, [])
    | c :: rest =>
      if c = ch '*' then do
        let (rhs, s) ← parseFactor vm fuel rest
        termLoop vm fuel (CxxDouble.mul value rhs) s
      else if c = ch '/' then do
        let (rhs, s) ← parseFactor vm fuel rest
        if CxxDouble.lt (CxxDouble.abs rhs) (CxxDouble.tenToMinus 12) then fail (lit "division by zero")
        else termLoop vm fuel (CxxDouble.div value rhs) s
      else .ok (value, c :: rest)

def parseExpression (vm : VariableManager D) : Nat → Str → Except Stop (D × Str)
  | 0, _ => .error .outOfFuel
  | fuel + 1, s => do
    let (value, s) ← parseTerm vm fuel s
    expressionLoop vm fuel value s

/-- The loop of `parseExpression`. -/
def expressionLoop (vm : VariableManager D) : Nat → D → Str → Except Stop (D × Str)
  | 0, _, _ => .error .outOfFuel
  | fuel + 1, value, s =>
    match skipSpaces s with
    | [] => .ok (value, [])
    | c :: rest =>
      if c = ch '+' then do
        let (rhs, s) ← parseTerm vm fuel rest
        expressionLoop vm fuel (CxxDouble.add value rhs) s
      else if c = ch '-' then do
        let (rhs, s) ← parseTerm vm fuel rest
        expressionLoop vm fuel (CxxDouble.sub value rhs) s
      else .ok (value, c :: rest)

end

def parse (vm : VariableManager D) (expression : Str) : Except Stop D := do
  let (value, s) ← parseExpression vm (3 * expression.length + 3) expression
  match skipSpaces s with
  | [] => .ok value
  | rest => fail (lit "numeric expression trailing characters: " ++ rest)

end Parser

/-! ## Progress -/

/-- The parse ends, and when it succeeds fewer than `n` characters are left. -/
def Finishes (n : Nat) (x : Except Stop (D × Str)) : Prop :=
  Ends x ∧ ∀ value s, x = .ok (value, s) → s.length < n

theorem finishes_ok {n : Nat} (value : D) {s : Str} (short : s.length < n) : Finishes n (.ok (value, s)) := by
  refine ⟨by simp [Ends], ?_⟩
  intro v t eq
  cases eq
  exact short

theorem finishes_fail (n : Nat) (what : Str) : Finishes n (fail what : Except Stop (D × Str)) := by
  refine ⟨by simp [Ends, fail], ?_⟩
  intro v t eq
  cases eq

theorem Finishes.mono {m n : Nat} {x : Except Stop (D × Str)} (finishes : Finishes m x) (le : m ≤ n) : Finishes n x :=
  ⟨finishes.1, fun value s eq => Nat.lt_of_lt_of_le (finishes.2 value s eq) le⟩

theorem Finishes.bind {m n : Nat} {x : Except Stop (D × Str)} {k : D × Str → Except Stop (D × Str)}
    (first : Finishes m x) (next : ∀ value s, s.length < m → Finishes n (k (value, s))) : Finishes n (x >>= k) := by
  constructor
  · exact first.1.bind fun ⟨value, s⟩ run => (next value s (first.2 value s run)).1
  · intro value s run
    obtain ⟨⟨a, t⟩, ran, rest⟩ := except_bind_eq_ok run
    exact (next a t (first.2 a t ran)).2 value s rest

theorem finishes_throwing {n : Nat} (x : Except Exn D) {s : Str} (short : s.length < n) :
    Finishes n (do return (← throwing x, s)) := by
  cases x with
  | ok value => exact finishes_ok value short
  | error what => exact finishes_fail n what

theorem length_of_skipSpaces {s rest : Str} {c : UInt8} (eq : skipSpaces s = c :: rest) : rest.length < s.length := by
  have le := List.length_dropWhile_le isSpace s
  rw [show s.dropWhile isSpace = c :: rest from eq, List.length_cons] at le
  omega

theorem finishes_closing (value : D) (missing : Str) (s : Str) : Finishes s.length (closing value missing s) := by
  unfold closing
  split
  · exact finishes_fail _ _
  · split
    · exact finishes_ok value (length_of_skipSpaces ‹_›)
    · exact finishes_fail _ _

variable [CxxDouble D]

theorem finishes_parseNumber (c : UInt8) (rest : Str) :
    Finishes (rest.length + 1) (parseNumber (c :: rest) : Except Stop (D × Str)) := by
  unfold parseNumber
  dsimp only
  split
  · exact finishes_fail _ _
  · refine finishes_ok _ ?_
    simp only [List.length_drop, List.length_cons]
    omega

theorem finishes_callFunction (identifier : Str) (arg : D) {n : Nat} {s : Str} (short : s.length < n) :
    Finishes n (callFunction identifier arg s) := by
  unfold callFunction
  split
  · exact finishes_ok _ short
  · exact finishes_fail _ _

/-- Fuel in proportion to the text left lets each function end, on a text that is shorter by then. -/
structure Enough (vm : VariableManager D) (fuel : Nat) : Prop where
  factor : ∀ s, 3 * s.length + 1 ≤ fuel → Finishes s.length (parseFactor vm fuel s)
  term : ∀ s, 3 * s.length + 2 ≤ fuel → Finishes s.length (parseTerm vm fuel s)
  termLoop : ∀ value s, 3 * s.length + 1 ≤ fuel → Finishes (s.length + 1) (termLoop vm fuel value s)
  expression : ∀ s, 3 * s.length + 3 ≤ fuel → Finishes s.length (parseExpression vm fuel s)
  expressionLoop : ∀ value s, 3 * s.length + 2 ≤ fuel → Finishes (s.length + 1) (expressionLoop vm fuel value s)

theorem Enough.factor_succ {vm : VariableManager D} {fuel : Nat} (ih : Enough vm fuel) (s : Str)
    (le : 3 * s.length + 1 ≤ fuel + 1) : Finishes s.length (parseFactor vm (fuel + 1) s) := by
  unfold parseFactor
  split
  · exact finishes_fail _ _
  · rename_i c rest eq
    have shorter := length_of_skipSpaces eq
    split
    · exact (ih.factor rest (by omega)).mono (by omega)
    split
    · refine (ih.factor rest (by omega)).bind fun value s short => ?_
      exact finishes_ok _ (by omega)
    split
    · refine (ih.expression rest (by omega)).bind fun value s short => ?_
      exact (finishes_closing value _ s).mono (by omega)
    split
    · exact (finishes_parseNumber c rest).mono (by omega)
    split
    · have behind := List.length_dropWhile_le isWordChar rest
      split
      · exact finishes_throwing _ (by simp only [List.length_nil]; omega)
      · rename_i c' rest' eq'
        have shorter' := length_of_skipSpaces eq'
        split
        · refine (ih.expression rest' (by omega)).bind fun arg s short => ?_
          refine (finishes_closing arg _ s).bind fun arg s short' => ?_
          exact finishes_callFunction _ _ (by omega)
        · exact finishes_throwing _ (by simp only [List.length_cons]; omega)
    · exact finishes_fail _ _

theorem Enough.termLoop_succ {vm : VariableManager D} {fuel : Nat} (ih : Enough vm fuel) (value : D) (s : Str)
    (le : 3 * s.length + 1 ≤ fuel + 1) :
    Finishes (s.length + 1) (NumericExpressionParser.termLoop vm (fuel + 1) value s) := by
  unfold NumericExpressionParser.termLoop
  split
  · exact finishes_ok _ (by simp)
  · rename_i c rest eq
    have shorter := length_of_skipSpaces eq
    split
    · refine (ih.factor rest (by omega)).bind fun rhs s short => ?_
      exact (ih.termLoop _ s (by omega)).mono (by omega)
    split
    · refine (ih.factor rest (by omega)).bind fun rhs s short => ?_
      dsimp only
      split
      · exact finishes_fail _ _
      · exact (ih.termLoop _ s (by omega)).mono (by omega)
    · exact finishes_ok _ (by simp only [List.length_cons]; omega)

theorem Enough.expressionLoop_succ {vm : VariableManager D} {fuel : Nat} (ih : Enough vm fuel) (value : D) (s : Str)
    (le : 3 * s.length + 2 ≤ fuel + 1) :
    Finishes (s.length + 1) (NumericExpressionParser.expressionLoop vm (fuel + 1) value s) := by
  unfold NumericExpressionParser.expressionLoop
  split
  · exact finishes_ok _ (by simp)
  · rename_i c rest eq
    have shorter := length_of_skipSpaces eq
    split
    · refine (ih.term rest (by omega)).bind fun rhs s short => ?_
      exact (ih.expressionLoop _ s (by omega)).mono (by omega)
    split
    · refine (ih.term rest (by omega)).bind fun rhs s short => ?_
      exact (ih.expressionLoop _ s (by omega)).mono (by omega)
    · exact finishes_ok _ (by simp only [List.length_cons]; omega)

theorem enough (vm : VariableManager D) (fuel : Nat) : Enough vm fuel := by
  induction fuel with
  | zero => constructor <;> (intros; omega)
  | succ fuel ih =>
    constructor
    · exact ih.factor_succ
    · intro s le
      unfold parseTerm
      refine (ih.factor s (by omega)).bind fun value s' short => ?_
      exact (ih.termLoop value s' (by omega)).mono (by omega)
    · exact ih.termLoop_succ
    · intro s le
      unfold parseExpression
      refine (ih.term s (by omega)).bind fun value s' short => ?_
      exact (ih.expressionLoop value s' (by omega)).mono (by omega)
    · exact ih.expressionLoop_succ

/-- `parse` never runs out of fuel. -/
theorem parse_ends (vm : VariableManager D) (expression : Str) : Ends (parse vm expression) := by
  unfold parse
  refine ((enough vm _).expression expression (le_refl _)).1.bind fun ⟨value, s⟩ _ => ?_
  show Ends (match skipSpaces s with
    | [] => .ok value
    | rest => fail (lit "numeric expression trailing characters: " ++ rest))
  split
  · simp [Ends]
  · simp [Ends, fail]

end NumericExpressionParser

end Actuator.Executor
