import Actuator.Executor.VariableManager

/-!
# Conditions

`ConstraintEvaluator`: a tokenizer, and five mutually recursive functions that
parse and evaluate at once. The tokenizer is a loop whose rounds each take a
piece off the front of the text; the parser's position is the list of tokens
from it on. Both loops are given fuel, which `evaluateDetailed` supplies from
the length of its input and which never runs out.
-/

namespace Actuator.Constraint

open Actuator.Lib Actuator.Executor

variable {D : Type}

/-! ## Tokens -/

/-- A token: its type, with the text for the types whose text is read. -/
inductive Token where
  | number (value : Str)
  | string (value : Str)
  | identifier (value : Str)
  | operator (value : Str)
  | lparen
  | rparen
  | and
  | or
  | not
  | eof
deriving DecidableEq, Repr

/-- What one round of the tokenizer loop did with the characters it took. -/
inductive Piece where
  | blank (c : UInt8)
  | lexeme (text : Str) (token : Token)
  | dropped (c : UInt8)
deriving DecidableEq, Repr

namespace Piece

/-- The characters of a piece. -/
def text : Piece → Str
  | blank c => [c]
  | lexeme text _ => text
  | dropped c => [c]

/-- The token a piece contributes. -/
def token? : Piece → Option Token
  | lexeme _ token => some token
  | _ => none

end Piece

def isQuote (c : UInt8) : Bool := c = ch '\'' || c = ch '"'

def isWordChar (c : UInt8) : Bool := isAlnum c || c = ch '_'

def isNumberChar (c : UInt8) : Bool := isDigit c || c = ch '.'

/-- The token of a word. -/
def wordToken (word : Str) : Token :=
  if word = lit "and" ∨ word = lit "AND" then .and
  else if word = lit "or" ∨ word = lit "OR" then .or
  else if word = lit "not" ∨ word = lit "NOT" then .not
  else if isTrueWord word then .number (lit "1")
  else if isFalseWord word then .number (lit "0")
  else .identifier word

/-- The token of a two-character operator. -/
def twoCharToken? (c : UInt8) (rest : Str) : Option Token :=
  match rest with
  | [] => none
  | c' :: _ =>
    if [c, c'] = lit "&&" then some .and
    else if [c, c'] = lit "||" then some .or
    else if [c, c'] ∈ [lit "==", lit "!=", lit "<=", lit ">=", lit "<<", lit ">>"] then some (.operator [c, c'])
    else none

/-- One round of the loop at the character `c`: the piece it takes, and the text behind it. -/
def scanPiece (c : UInt8) (rest : Str) : Piece × Str :=
  if isSpace c then (.blank c, rest)
  else if c = ch '(' then (.lexeme [c] .lparen, rest)
  else if c = ch ')' then (.lexeme [c] .rparen, rest)
  else if isQuote c ∧ c ∈ rest then
    let text := rest.takeWhile (· ≠ c)
    (.lexeme (c :: text ++ [c]) (.string text), rest.drop (text.length + 1))
  else if isDigit c ∨ (c = ch '-' ∧ rest.head?.any isDigit) then
    let text := c :: rest.takeWhile isNumberChar
    (.lexeme text (.number text), rest.dropWhile isNumberChar)
  else
    match twoCharToken? c rest with
    | some token => (.lexeme (c :: rest.take 1) token, rest.drop 1)
    | none =>
      if c = ch '<' ∨ c = ch '>' ∨ c = ch '=' ∨ c = ch '!' then (.lexeme [c] (.operator [c]), rest)
      else if isAlpha c ∨ c = ch '_' then
        let word := c :: rest.takeWhile isWordChar
        (.lexeme word (wordToken word), rest.dropWhile isWordChar)
      else (.dropped c, rest)

/-- The rounds of the loop on a text. -/
def scanLoop : Nat → Str → List Piece
  | 0, _ => []
  | _ + 1, [] => []
  | fuel + 1, c :: rest => (scanPiece c rest).1 :: scanLoop fuel (scanPiece c rest).2

/-- The pieces the tokenizer takes an expression apart into. -/
def scan (expr : Str) : List Piece := scanLoop (trim expr).length (trim expr)

def tokenize (expr : Str) : List Token := (scan expr).filterMap Piece.token? ++ [.eof]

/-! ## Comparison -/

/-- The lambda `toBool` of `compare`. -/
def toBool [CxxDouble D] : VariableValue D → Bool
  | .bool v => v
  | .int v => v ≠ 0
  | .double v => CxxDouble.lt (CxxDouble.tenToMinus 9) (CxxDouble.abs v)
  | .string text => if isTrueWord text then true else if isFalseWord text then false else !text.isEmpty
  | .unknown => false

/-- The six comparison operators on a linear order, or `none` for any other operator. -/
def compareBy {α : Type} (eq lt : α → α → Bool) (op : Str) (l r : α) : Option Bool :=
  if op = lit "==" ∨ op = lit "=" then some (eq l r)
  else if op = lit "!=" then some (!eq l r)
  else if op = lit "<" then some (lt l r)
  else if op = lit ">" then some (lt r l)
  else if op = lit "<=" then some (!lt r l)
  else if op = lit ">=" then some (!lt l r)
  else none

/-- The comparison of numbers, equal up to `1e-9`. -/
def compareDoubles [CxxDouble D] (op : Str) (l r : D) : Bool :=
  let epsilon : D := CxxDouble.tenToMinus 9
  let distance := CxxDouble.abs (CxxDouble.sub l r)
  if op = lit "==" ∨ op = lit "=" then CxxDouble.lt distance epsilon
  else if op = lit "!=" then CxxDouble.le epsilon distance
  else if op = lit "<" then CxxDouble.lt l r
  else if op = lit ">" then CxxDouble.lt r l
  else if op = lit "<=" then CxxDouble.le l r
  else if op = lit ">=" then CxxDouble.le r l
  else false

def isBoolValue : VariableValue D → Bool
  | .bool _ => true
  | _ => false

def isStringValue : VariableValue D → Bool
  | .string _ => true
  | _ => false

/-- `compare`. An operator the first two blocks do not know falls through to the numbers. -/
def compare [CxxDouble D] (left : VariableValue D) (op : Str) (right : VariableValue D) : Bool :=
  let asBools : Option Bool :=
    if isBoolValue left ∨ isBoolValue right then
      compareBy (· == ·) (fun a b => !a && b) op (toBool left) (toBool right)
    else none
  let asStrings : Option Bool :=
    if isStringValue left ∨ isStringValue right then
      compareBy (· == ·) (fun a b => decide (a < b)) op left.asString right.asString
    else none
  match asBools, asStrings, left.asDouble, right.asDouble with
  | some result, _, _, _ => result
  | none, some result, _, _ => result
  | none, none, .ok l, .ok r => compareDoubles op l r
  | none, none, _, _ => false

/-! ## Parsing and evaluating -/

/-- Why a parse ends without a value. -/
inductive Stop where
  | exception (what : Exn)
  | outOfFuel
deriving DecidableEq

/-- A value and the tokens from the position on. -/
abbrev Parse := Except Stop (Bool × List Token)

def throwing {α : Type} : Except Exn α → Except Stop α
  | .ok a => .ok a
  | .error what => .error (.exception what)

/-- The right-hand side of a comparison. A token that is no operand leaves the value unset. -/
def operandValue [CxxDouble D] (vm : VariableManager D) : Token → Except Exn (VariableValue D)
  | .number value =>
    if ch '.' ∈ value then
      match (CxxDouble.stod value : Option (D × Nat)) with
      | some (x, _) => .ok (.double x)
      | none => .ok (.string value)
    else
      match stoi value with
      | some (n, _) => .ok (.int n)
      | none => .ok (.string value)
  | .string value => .ok (.string value)
  | .identifier value =>
    if vm.exists? value then vm.get value else .error (lit "Variable not found: " ++ value)
  | _ => .ok .unknown

/-- The value of a comparison, with the right-hand side looked up first. -/
def comparisonValue [CxxDouble D] (vm : VariableManager D) (name op : Str) (right : Token) : Except Exn Bool := do
  let rightVal ← operandValue vm right
  if vm.exists? name then
    let leftVal ← vm.get name
    return compare leftVal op rightVal
  else .error (lit "Variable not found: " ++ name)

/-- The value of an identifier that no operator follows. -/
def bareValue (vm : VariableManager D) (name : Str) : Except Exn Bool :=
  if vm.exists? name then vm.get name >>= VariableValue.asBool
  else .error (lit "Variable not found: " ++ name)

def numberTruth (text : Str) : Bool := text ≠ lit "0" && text ≠ lit "0.0"

variable [CxxDouble D]

/-- The identifier branch of `parsePrimary`, behind the identifier. -/
def parseIdentifier (vm : VariableManager D) (name : Str) : List Token → Parse
  | [.operator _] => .error (.exception (lit "Expected value after operator"))
  | .operator op :: right :: rest => do return (← throwing (comparisonValue vm name op right), rest)
  | ts => do return (← throwing (bareValue vm name), ts)

mutual

def parseOrExpression (vm : VariableManager D) : Nat → List Token → Parse
  | 0, _ => .error .outOfFuel
  | fuel + 1, ts => do
    let (result, ts) ← parseAndExpression vm fuel ts
    orLoop vm fuel result ts

/-- The loop of `parseOrExpression`. -/
def orLoop (vm : VariableManager D) : Nat → Bool → List Token → Parse
  | 0, _, _ => .error .outOfFuel
  | fuel + 1, result, .or :: ts => do
    let (right, ts) ← parseAndExpression vm fuel ts
    orLoop vm fuel (result || right) ts
  | _ + 1, result, ts => .ok (result, ts)

def parseAndExpression (vm : VariableManager D) : Nat → List Token → Parse
  | 0, _ => .error .outOfFuel
  | fuel + 1, ts => do
    let (result, ts) ← parseNotExpression vm fuel ts
    andLoop vm fuel result ts

/-- The loop of `parseAndExpression`. -/
def andLoop (vm : VariableManager D) : Nat → Bool → List Token → Parse
  | 0, _, _ => .error .outOfFuel
  | fuel + 1, result, .and :: ts => do
    let (right, ts) ← parseNotExpression vm fuel ts
    andLoop vm fuel (result && right) ts
  | _ + 1, result, ts => .ok (result, ts)

def parseNotExpression (vm : VariableManager D) : Nat → List Token → Parse
  | 0, _ => .error .outOfFuel
  | fuel + 1, .not :: ts => do
    let (result, ts) ← parseNotExpression vm fuel ts
    return (!result, ts)
  | fuel + 1, ts => parsePrimary vm fuel ts

/-- `parseComparison`, which is `parsePrimary`. -/
def parsePrimary (vm : VariableManager D) : Nat → List Token → Parse
  | 0, _ => .error .outOfFuel
  | _ + 1, [] => .error (.exception (lit "Unexpected end of expression"))
  | fuel + 1, .lparen :: ts => do
    match ← parseOrExpression vm fuel ts with
    | (result, .rparen :: ts) => return (result, ts)
    | _ => .error (.exception (lit "Missing closing parenthesis"))
  | _ + 1, .number value :: ts => .ok (numberTruth value, ts)
  | _ + 1, .identifier value :: ts => parseIdentifier vm value ts
  | _ + 1, _ => .error (.exception (lit "Unexpected token"))

end

/-- `parseExpression` from the first token, with enough fuel for any list of this length. -/
def parseExpression (vm : VariableManager D) (ts : List Token) : Parse := parseOrExpression vm (8 * ts.length + 6) ts

structure ConstraintResult (D : Type) where
  satisfied : Bool
  message : Str
  failedConditions : List Str
  confidence : D

def evaluateDetailed (vm : VariableManager D) (expression : Str) : ConstraintResult D :=
  let tokens := tokenize expression
  let confidence := CxxDouble.ofInt 1
  if tokens = [] ∨ tokens = [.eof] then
    { satisfied := false, message := lit "Empty expression", failedConditions := [expression], confidence }
  else
    match parseExpression vm tokens with
    | .ok (true, _) =>
      { satisfied := true, message := lit "All constraints satisfied", failedConditions := [], confidence }
    | .ok (false, _) =>
      { satisfied := false, message := lit "Constraint not satisfied: " ++ expression
        failedConditions := [expression], confidence }
    | .error (.exception what) =>
      { satisfied := false, message := lit "Evaluation error: " ++ what, failedConditions := [expression], confidence }
    | .error .outOfFuel => { satisfied := false, message := [], failedConditions := [expression], confidence }

def evaluate (vm : VariableManager D) (expression : Str) : Bool := (evaluateDetailed vm expression).satisfied

end Actuator.Constraint
