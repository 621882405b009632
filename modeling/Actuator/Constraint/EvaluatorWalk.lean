import Actuator.Constraint.Grammar
import Actuator.Constraint.TokenizerWalk

/-!
# The walk of the condition parser

The parse functions of `ConstraintEvaluator` once more, now over all tokens and
the position `pos` that they share, as they are written, with a record of their
calls, of every `tokens[pos]`, of every change of `pos` and of every completed
round of their loops. Whatever the tokens, also when the end token was consumed
as an operand, each of these steps is sound, and the walk ends as the parser on
rests of the tokens does. So `evaluateDetailed` always has a result.
-/

namespace Actuator.Constraint.EvaluatorWalk

open Actuator.Lib Actuator.Lib.Walker Actuator.Executor

variable {D : Type}

/-! ## The parser -/

/-- The functions that call each other. -/
inductive Production where
  | primary
  | comparison
  | not
  | and
  | or
  | expression
deriving DecidableEq

def Production.level : Production → Nat
  | primary => 0
  | comparison => 1
  | not => 2
  | and => 3
  | or => 4
  | expression => 5

abbrev Parser (α : Type) := Walker Production Exn α

section Parser

/-- `parseExpression`, which only calls `parseOrExpression`. -/
def parseExpression (orExpression : Parser Bool) : Parser Bool := do
  call .expression (← position) .or orExpression

/-- `parseComparison`, which only calls `parsePrimary`. -/
def parseComparison (primary : Parser Bool) : Parser Bool := do
  call .comparison (← position) .primary primary

variable [CxxDouble D] (tokens : List Token) (vm : VariableManager D)

/-- The text of the operator at the position, if there is one. -/
def operatorAhead : Parser (Option Str) := do
  if (← position) < tokens.length then
    match ← look tokens with
    | .operator op => return some op
    | _ => return none
  else return none

/-- The identifier branch of `parsePrimary`, behind the identifier. -/
def parseIdentifier (name : Str) : Parser Bool := do
  match ← operatorAhead tokens with
  | some op => do
    advance 1
    if (← position) ≥ tokens.length then fail (lit "Expected value after operator")
    else do
      let right ← look tokens
      let rightVal ← value (operandValue vm right)
      advance 1
      if vm.exists? name then do
        let leftVal ← value (vm.get name)
        return compare leftVal op rightVal
      else fail (lit "Variable not found: " ++ name)
  | none => value (bareValue vm name)

mutual

def parseOrExpression : Nat → Parser Bool
  | 0 => halt .outOfFuel
  | fuel + 1 => do
    let entered ← position
    let result ← call .or entered .and (parseAndExpression fuel)
    orLoop entered fuel result

/-- The loop of `parseOrExpression`, which was entered at the given position. -/
def orLoop (entered : Nat) : Nat → Bool → Parser Bool
  | 0, _ => halt .outOfFuel
  | fuel + 1, result => do
    let start ← position
    if ← sees tokens (· = .or) then do
      advance 1
      let right ← call .or entered .and (parseAndExpression fuel)
      again start
      orLoop entered fuel (result || right)
    else return result

def parseAndExpression : Nat → Parser Bool
  | 0 => halt .outOfFuel
  | fuel + 1 => do
    let entered ← position
    let result ← call .and entered .not (parseNotExpression fuel)
    andLoop entered fuel result

/-- The loop of `parseAndExpression`, which was entered at the given position. -/
def andLoop (entered : Nat) : Nat → Bool → Parser Bool
  | 0, _ => halt .outOfFuel
  | fuel + 1, result => do
    let start ← position
    if ← sees tokens (· = .and) then do
      advance 1
      let right ← call .and entered .not (parseNotExpression fuel)
      again start
      andLoop entered fuel (result && right)
    else return result

def parseNotExpression : Nat → Parser Bool
  | 0 => halt .outOfFuel
  | fuel + 1 => do
    let entered ← position
    if ← sees tokens (· = .not) then do
      advance 1
      let result ← call .not entered .not (parseNotExpression fuel)
      return !result
    else call .not entered .comparison (parseComparison (parsePrimary fuel))

def parsePrimary : Nat → Parser Bool
  | 0 => halt .outOfFuel
  | fuel + 1 => do
    let entered ← position
    if entered ≥ tokens.length then fail (lit "Unexpected end of expression")
    else
      match ← look tokens with
      | .lparen => do
        advance 1
        let result ← call .primary entered .expression (parseExpression (parseOrExpression fuel))
        if ← sees tokens (· = .rparen) then do
          advance 1
          return result
        else fail (lit "Missing closing parenthesis")
      | .number value => do
        advance 1
        return numberTruth value
      | .identifier name => do
        advance 1
        parseIdentifier tokens vm name
      | _ => fail (lit "Unexpected token")

end

/-- The walk of `parseExpression` from the first token, with enough fuel for any tokens of this number. -/
def walk : Except (Halt Exn) Bool × Walk Production :=
  parseExpression (parseOrExpression tokens vm (8 * tokens.length + 6)) ⟨0, []⟩

end Parser

/-! ## The parts of a primary -/

/-- How a parse on rests stops, as the halt of a walk. -/
def haltOf : Stop → Halt Exn
  | .exception what => .thrown what
  | .outOfFuel => .outOfFuel

/-- A value looked up without a step. -/
theorem walks_throwing {F A α : Type} {level : F → Nat} {items : List A} {p : Nat} (le : p ≤ items.length)
    (x : Except Exn α) {rest : List A} (left : items.drop p = rest) :
    Walker.Walks level items.length p (value x) (Agrees items haltOf (do return (← throwing x, rest))) := by
  cases x with
  | ok a => exact walks_agree_pure le a left
  | error what => exact walks_halt le rfl

section Parts

variable {tokens : List Token} {p : Nat}

/-- The specification of a part of the parser. -/
abbrev Walks {α : Type} (tokens : List Token) (p : Nat) (x : Parser α) (post : Except (Halt Exn) α → Nat → Prop) :
    Prop :=
  Walker.Walks Production.level tokens.length p x post

theorem walks_operatorAhead_yes {op : Str} {rest : List Token} (here : tokens.drop p = .operator op :: rest) :
    Walks tokens p (operatorAhead tokens) (Returns (some op) p) := by
  obtain ⟨inside, -, -⟩ := drop_eq_cons here
  have le : p ≤ tokens.length := by omega
  refine (walks_position le).after fun _ _ => ?_
  rw [if_pos inside]
  exact (walks_look here).after fun _ _ => walks_pure le ⟨rfl, rfl⟩

theorem walks_operatorAhead_no (le : p ≤ tokens.length) (other : ∀ op rest, tokens.drop p ≠ .operator op :: rest) :
    Walks tokens p (operatorAhead tokens) (Returns none p) := by
  refine (walks_position le).after fun _ _ => ?_
  cases here : tokens.drop p with
  | nil =>
    rw [if_neg (Nat.not_lt.2 (List.drop_eq_nil_iff.1 here))]
    exact walks_pure le ⟨rfl, rfl⟩
  | cons t rest =>
    rw [if_pos (drop_eq_cons here).1]
    refine (walks_look here).after fun _ _ => ?_
    cases t with
    | operator op => exact absurd here (other op rest)
    | _ => exact walks_pure le ⟨rfl, rfl⟩

variable {D : Type} [CxxDouble D] (vm : VariableManager D)

/-- A comparison, behind its operator. The operand may be the last token. -/
theorem walks_comparison {op name : Str} {right : Token} {rest : List Token} (here : tokens.drop p = right :: rest) :
    Walks tokens p (do
      let right ← look tokens
      let rightVal ← value (operandValue vm right)
      advance 1
      if vm.exists? name then do
        let leftVal ← value (vm.get name)
        return compare leftVal op rightVal
      else fail (lit "Variable not found: " ++ name))
    (Agrees tokens haltOf (do return (← throwing (comparisonValue vm name op right), rest))) := by
  obtain ⟨inside, -, behind⟩ := drop_eq_cons here
  have le : p ≤ tokens.length := by omega
  refine (walks_look here).after fun _ _ => ?_
  unfold comparisonValue
  cases operandValue vm right with
  | error what => exact walks_halt le rfl
  | ok rightVal =>
    have returns : Walks tokens p (value (.ok rightVal)) (Returns rightVal p) := walks_pure le ⟨rfl, rfl⟩
    refine returns.after fun _ _ => ?_
    refine (walks_advance inside).after fun _ le' => ?_
    rw [except_ok_bind]
    split
    · cases vm.get name with
      | error what => exact walks_halt le' rfl
      | ok leftVal => exact walks_agree_pure le' (compare leftVal op rightVal) behind
    · exact walks_halt le' rfl

theorem walks_parseIdentifier (le : p ≤ tokens.length) (name : Str) : Walks tokens p (parseIdentifier tokens vm name)
    (Agrees tokens haltOf (Constraint.parseIdentifier vm name (tokens.drop p))) := by
  by_cases operator : ∃ op rest, tokens.drop p = .operator op :: rest
  · obtain ⟨op, rest, here⟩ := operator
    obtain ⟨inside, -, behind⟩ := drop_eq_cons here
    refine (walks_operatorAhead_yes here).after fun _ _ => ?_
    refine (walks_advance inside).after fun _ le' => ?_
    refine (walks_position le').after fun _ _ => ?_
    rw [here]
    cases rest with
    | nil =>
      rw [if_pos (List.drop_eq_nil_iff.1 behind)]
      exact walks_halt le' rfl
    | cons right rest =>
      rw [if_neg (Nat.not_le.2 (drop_eq_cons behind).1)]
      exact walks_comparison vm behind
  · have other : ∀ op rest, tokens.drop p ≠ .operator op :: rest := fun op rest here => operator ⟨op, rest, here⟩
    refine (walks_operatorAhead_no le other).after fun _ _ => ?_
    rw [parseIdentifier_bare vm name _ other]
    cases bareValue vm name with
    | error what => exact walks_halt le rfl
    | ok b => exact walks_agree_pure le b rfl

end Parts

/-! ## The functions -/

section Functions

variable [CxxDouble D] (tokens : List Token) (vm : VariableManager D)

/-- Given `fuel`, each function takes sound steps from every position, and ends as its counterpart on the rest of the
tokens. -/
structure Follows (fuel : Nat) : Prop where
  or : ∀ p, p ≤ tokens.length → Walks tokens p (parseOrExpression tokens vm fuel)
    (Agrees tokens haltOf (Constraint.parseOrExpression vm fuel (tokens.drop p)))
  orLoop : ∀ p entered result, p ≤ tokens.length → entered ≤ p → Walks tokens p (orLoop tokens vm entered fuel result)
    (Agrees tokens haltOf (Constraint.orLoop vm fuel result (tokens.drop p)))
  and : ∀ p, p ≤ tokens.length → Walks tokens p (parseAndExpression tokens vm fuel)
    (Agrees tokens haltOf (Constraint.parseAndExpression vm fuel (tokens.drop p)))
  andLoop : ∀ p entered result, p ≤ tokens.length → entered ≤ p →
    Walks tokens p (andLoop tokens vm entered fuel result)
      (Agrees tokens haltOf (Constraint.andLoop vm fuel result (tokens.drop p)))
  not : ∀ p, p ≤ tokens.length → Walks tokens p (parseNotExpression tokens vm fuel)
    (Agrees tokens haltOf (Constraint.parseNotExpression vm fuel (tokens.drop p)))
  primary : ∀ p, p ≤ tokens.length → Walks tokens p (parsePrimary tokens vm fuel)
    (Agrees tokens haltOf (Constraint.parsePrimary vm fuel (tokens.drop p)))

variable {tokens vm} {fuel : Nat}

/-- A loop that goes on behind one of the binary operators, and else returns its result where it is. -/
theorem walks_operator {t : Token} {caller callee : Production} {entered p : Nat} {result : Bool} {operand : Parser Bool}
    {loop : Bool → Parser Bool} {parse : List Token → Except Stop (Bool × List Token)}
    {k : Bool × List Token → Except Stop (Bool × List Token)} {whole : Except Stop (Bool × List Token)}
    (le : p ≤ tokens.length) (behind : entered ≤ p) (lower : callee.level < caller.level)
    (onOperand : ∀ q, q ≤ tokens.length → Walks tokens q operand (Agrees tokens haltOf (parse (tokens.drop q))))
    (later : ∀ right q, p < q → q ≤ tokens.length →
      Walks tokens q (loop right) (Agrees tokens haltOf (k (right, tokens.drop q))))
    (more : ∀ rest, tokens.drop p = t :: rest → whole = (parse rest >>= k))
    (stop : (∀ rest, tokens.drop p ≠ t :: rest) → whole = .ok (result, tokens.drop p)) :
    Walks tokens p (do
      let start ← position
      if ← sees tokens (· = t) then do
        advance 1
        let right ← call caller entered callee operand
        again start
        loop right
      else return result) (Agrees tokens haltOf whole) := by
  refine (walks_position le).after fun _ _ => ?_
  by_cases operator : ∃ rest, tokens.drop p = t :: rest
  · obtain ⟨rest, here⟩ := operator
    obtain ⟨inside, -, after⟩ := drop_eq_cons here
    rw [more rest here, ← after]
    refine walks_if_sees_yes here ?_
    refine (walks_advance inside).after fun _ le' => ?_
    refine (walks_call le' (by omega) (Or.inr lower) (onOperand _ le')).agree fun right q forward inside' => ?_
    exact (walks_again inside' (by omega)).after fun _ _ => later right q (by omega) inside'
  · rw [stop (not_exists.1 operator)]
    exact walks_if_sees_no le (not_exists.1 operator) (walks_agree_pure le result rfl)

theorem Follows.or_succ (ih : Follows tokens vm fuel) (p : Nat) (le : p ≤ tokens.length) :
    Walks tokens p (parseOrExpression tokens vm (fuel + 1))
      (Agrees tokens haltOf (Constraint.parseOrExpression vm (fuel + 1) (tokens.drop p))) := by
  rw [parseOrExpression, Constraint.parseOrExpression]
  refine (walks_position le).after fun _ _ => ?_
  refine (walks_call le (le_refl p) (Or.inr (by decide)) (ih.and p le)).agree fun result q forward le' => ?_
  exact ih.orLoop q p result le' forward

theorem Follows.orLoop_succ (ih : Follows tokens vm fuel) (p entered : Nat) (result : Bool) (le : p ≤ tokens.length)
    (behind : entered ≤ p) : Walks tokens p (EvaluatorWalk.orLoop tokens vm entered (fuel + 1) result)
      (Agrees tokens haltOf (Constraint.orLoop vm (fuel + 1) result (tokens.drop p))) := by
  rw [EvaluatorWalk.orLoop]
  apply walks_operator (k := fun r => Constraint.orLoop vm fuel (result || r.1) r.2) le behind (by decide) ih.and
  · intro right q further inside
    exact ih.orLoop q entered (result || right) inside (by omega)
  · intro rest here
    rw [here, Constraint.orLoop]
  · exact orLoop_stop vm result

theorem Follows.and_succ (ih : Follows tokens vm fuel) (p : Nat) (le : p ≤ tokens.length) :
    Walks tokens p (parseAndExpression tokens vm (fuel + 1))
      (Agrees tokens haltOf (Constraint.parseAndExpression vm (fuel + 1) (tokens.drop p))) := by
  rw [parseAndExpression, Constraint.parseAndExpression]
  refine (walks_position le).after fun _ _ => ?_
  refine (walks_call le (le_refl p) (Or.inr (by decide)) (ih.not p le)).agree fun result q forward le' => ?_
  exact ih.andLoop q p result le' forward

theorem Follows.andLoop_succ (ih : Follows tokens vm fuel) (p entered : Nat) (result : Bool) (le : p ≤ tokens.length)
    (behind : entered ≤ p) : Walks tokens p (EvaluatorWalk.andLoop tokens vm entered (fuel + 1) result)
      (Agrees tokens haltOf (Constraint.andLoop vm (fuel + 1) result (tokens.drop p))) := by
  rw [EvaluatorWalk.andLoop]
  apply walks_operator (k := fun r => Constraint.andLoop vm fuel (result && r.1) r.2) le behind (by decide) ih.not
  · intro right q further inside
    exact ih.andLoop q entered (result && right) inside (by omega)
  · intro rest here
    rw [here, Constraint.andLoop]
  · exact andLoop_stop vm result

theorem Follows.not_succ (ih : Follows tokens vm fuel) (p : Nat) (le : p ≤ tokens.length) :
    Walks tokens p (parseNotExpression tokens vm (fuel + 1))
      (Agrees tokens haltOf (Constraint.parseNotExpression vm (fuel + 1) (tokens.drop p))) := by
  rw [parseNotExpression]
  refine (walks_position le).after fun _ _ => ?_
  by_cases more : ∃ rest, tokens.drop p = .not :: rest
  · obtain ⟨rest, here⟩ := more
    obtain ⟨inside, -, after⟩ := drop_eq_cons here
    refine walks_if_sees_yes here ?_
    rw [here, Constraint.parseNotExpression, ← after]
    refine (walks_advance inside).after fun _ le' => ?_
    refine (walks_call le' (by omega) (Or.inl (by omega)) (ih.not _ le')).agree fun result q _ inside' => ?_
    exact walks_agree_pure inside' _ rfl
  · refine walks_if_sees_no le (not_exists.1 more) ?_
    rw [Constraint.parseNotExpression]
    · refine walks_call le (le_refl p) (Or.inr (by decide)) ?_
      refine (walks_position le).after fun _ _ => ?_
      exact walks_call le (le_refl p) (Or.inr (by decide)) (ih.primary p le)
    · exact not_exists.1 more

theorem Follows.primary_succ (ih : Follows tokens vm fuel) (p : Nat) (le : p ≤ tokens.length) :
    Walks tokens p (parsePrimary tokens vm (fuel + 1))
      (Agrees tokens haltOf (Constraint.parsePrimary vm (fuel + 1) (tokens.drop p))) := by
  rw [parsePrimary]
  refine (walks_position le).after fun _ _ => ?_
  cases here : tokens.drop p with
  | nil =>
    rw [if_pos (List.drop_eq_nil_iff.1 here)]
    exact walks_halt le rfl
  | cons t rest =>
    obtain ⟨inside, -, after⟩ := drop_eq_cons here
    rw [if_neg (Nat.not_le.2 inside)]
    refine (walks_look here).after fun _ _ => ?_
    cases t with
    | lparen =>
      rw [Constraint.parsePrimary, ← after]
      refine (walks_advance inside).after fun _ le' => ?_
      have inner : Walks tokens (p + 1) (parseExpression (parseOrExpression tokens vm fuel)) _ :=
        (walks_position le').after fun _ _ => walks_call le' (le_refl _) (Or.inr (by decide)) (ih.or _ le')
      refine (walks_call le' (by omega) (Or.inl (by omega)) inner).agree fun result q _ le'' => ?_
      by_cases close : ∃ rest', tokens.drop q = .rparen :: rest'
      · obtain ⟨rest', then_⟩ := close
        obtain ⟨inside', -, after'⟩ := drop_eq_cons then_
        refine walks_if_sees_yes then_ ?_
        rw [then_]
        exact (walks_advance inside').after fun _ le' => walks_agree_pure le' result after'
      · refine walks_if_sees_no le'' (not_exists.1 close) ?_
        split
        · rename_i a rest' same
          exact absurd ⟨rest', (Prod.mk.inj same).2⟩ close
        · exact walks_halt le'' rfl
    | number value => exact (walks_advance inside).after fun _ le' => walks_agree_pure le' _ after
    | identifier name =>
      rw [Constraint.parsePrimary, ← after]
      exact (walks_advance inside).after fun _ le' => walks_parseIdentifier vm le' name
    | _ => exact walks_halt le rfl

theorem follows (fuel : Nat) : Follows tokens vm fuel := by
  induction fuel with
  | zero => constructor <;> (intros; exact walks_halt (by assumption) rfl)
  | succ fuel ih =>
    exact ⟨ih.or_succ, ih.orLoop_succ, ih.and_succ, ih.andLoop_succ, ih.not_succ, ih.primary_succ⟩

end Functions

/-! ## The whole evaluation -/

section Whole

variable [CxxDouble D]

/-- `evaluateDetailed`, with the walks of the tokenizer and the parser. A thrown exception is caught; running out of
fuel or out of the tokens would not be. -/
def evaluateDetailed (vm : VariableManager D) (expression : Str) : Except (Halt Exn) (ConstraintResult D) :=
  let confidence := CxxDouble.ofInt 1
  let attempt : Except (Halt Exn) (ConstraintResult D) := do
    let tokens ← (TokenizerWalk.walk expression).1
    if tokens = [] ∨ tokens = [.eof] then
      return { satisfied := false, message := lit "Empty expression", failedConditions := [expression], confidence }
    else do
      let satisfied ← (walk tokens vm).1
      if satisfied then
        return { satisfied, message := lit "All constraints satisfied", failedConditions := [], confidence }
      else
        return {
          satisfied, message := lit "Constraint not satisfied: " ++ expression, failedConditions := [expression]
          confidence }
  match attempt with
  | .error (.thrown what) =>
    .ok { satisfied := false, message := lit "Evaluation error: " ++ what, failedConditions := [expression], confidence }
  | outcome => outcome

variable (vm : VariableManager D)

theorem walks_parseExpression (tokens : List Token) :
    Walks tokens 0 (parseExpression (parseOrExpression tokens vm (8 * tokens.length + 6)))
      (Agrees tokens haltOf (Constraint.parseExpression vm tokens)) :=
  (walks_position (Nat.zero_le _)).after fun _ _ =>
    walks_call (Nat.zero_le _) (le_refl 0) (Or.inr (by decide)) ((follows _).or 0 (Nat.zero_le _))

theorem walk_sound (tokens : List Token) : Path 0 (walk tokens vm).2.steps (walk tokens vm).2.pos ∧
    ∀ step ∈ (walk tokens vm).2.steps, step.Sound Production.level tokens.length := by
  obtain ⟨path, sound, -⟩ := (walks_parseExpression vm tokens).whole
  exact ⟨path, sound⟩

/-- The walk ends as the parse on rests. -/
theorem walk_eq_parseExpression (tokens : List Token) :
    (walk tokens vm).1 = ((Constraint.parseExpression vm tokens).map Prod.fst).mapError haltOf := by
  have agrees := (walks_parseExpression vm tokens).whole.2.2
  cases ran : Constraint.parseExpression vm tokens with
  | ok result =>
    rw [ran] at agrees
    exact agrees.1
  | error e =>
    rw [ran] at agrees
    exact agrees

/-- A parse ends with a value or an exception. -/
theorem parse_ends (tokens : List Token) :
    (∃ b, (walk tokens vm).1 = .ok b) ∨ ∃ what, (walk tokens vm).1 = .error (.thrown what) := by
  have ends := parseExpression_ends vm tokens
  rw [walk_eq_parseExpression]
  cases ran : Constraint.parseExpression vm tokens with
  | ok result => exact Or.inl ⟨result.1, rfl⟩
  | error e =>
    cases e with
    | exception what => exact Or.inr ⟨what, rfl⟩
    | outOfFuel => exact absurd ran ends

/-- No exception leaves the evaluation, which has the result of the evaluation on rests. -/
theorem evaluateDetailed_eq (expression : Str) :
    evaluateDetailed vm expression = .ok (Constraint.evaluateDetailed vm expression) := by
  have ends := parseExpression_ends vm (tokenize expression)
  unfold evaluateDetailed Constraint.evaluateDetailed
  dsimp only
  rw [(TokenizerWalk.walk_tokenize expression).1, except_ok_bind]
  by_cases empty : tokenize expression = [] ∨ tokenize expression = [.eof]
  · rw [if_pos empty, if_pos empty]
    rfl
  · rw [if_neg empty, if_neg empty, walk_eq_parseExpression]
    cases ran : Constraint.parseExpression vm (tokenize expression) with
    | ok result =>
      obtain ⟨b, rest⟩ := result
      cases b <;> rfl
    | error e =>
      cases e with
      | exception what => rfl
      | outOfFuel => exact absurd ran ends

/-- The walks of an evaluation, and what becomes of them. -/
structure Terminates (expression : Str) : Prop where
  tokens : (TokenizerWalk.walk expression).1 = .ok (tokenize expression)
  scanPath : Path 0 (TokenizerWalk.walk expression).2.steps (trim expression).length
  scanSteps : ∀ step ∈ (TokenizerWalk.walk expression).2.steps,
    step.Sound (fun f : Empty => nomatch f) (trim expression).length
  lastEnd : ∃ front, tokenize expression = front ++ [.eof] ∧ Token.eof ∉ front
  parsePath : Path 0 (walk (tokenize expression) vm).2.steps (walk (tokenize expression) vm).2.pos
  parseSteps : ∀ step ∈ (walk (tokenize expression) vm).2.steps,
    step.Sound Production.level (tokenize expression).length
  parsed : (∃ b, (walk (tokenize expression) vm).1 = .ok b) ∨
    ∃ what, (walk (tokenize expression) vm).1 = .error (.thrown what)
  returns : ∃ result, evaluateDetailed vm expression = .ok result
  failed : ∀ what, (walk (tokenize expression) vm).1 = .error (.thrown what) →
    ∃ result, evaluateDetailed vm expression = .ok result ∧ result.satisfied = false ∧
      result.failedConditions = [expression]

/-- Every expression is evaluated to a result, in sound steps, and a thrown exception makes it a failed condition. -/
theorem evaluateDetailed_terminates (expression : Str) : Terminates vm expression := by
  obtain ⟨tokens, scanPath, scanSteps⟩ := TokenizerWalk.walk_tokenize expression
  obtain ⟨parsePath, parseSteps⟩ := walk_sound vm (tokenize expression)
  refine ⟨tokens, scanPath, scanSteps, TokenizerWalk.tokenize_ends expression, parsePath, parseSteps,
    parse_ends vm _, ⟨_, evaluateDetailed_eq vm expression⟩, fun what thrown => ?_⟩
  refine ⟨_, evaluateDetailed_eq vm expression, ?_⟩
  rw [walk_eq_parseExpression] at thrown
  unfold Constraint.evaluateDetailed
  dsimp only
  split
  · exact ⟨rfl, rfl⟩
  · cases ran : Constraint.parseExpression vm (tokenize expression) with
    | ok result =>
      rw [ran] at thrown
      cases thrown
    | error e => cases e <;> exact ⟨rfl, rfl⟩

end Whole

/-- The end token is consumed as the operand of `x ==`, and the walk ends behind all tokens. -/
example : (walk (tokenize (lit "x ==")) ({} : VariableManager FixedPoint)).2.pos = 3 := rfl

end Actuator.Constraint.EvaluatorWalk
