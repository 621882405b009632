import Actuator.Constraint.EvaluatorWalk
import Actuator.Executor.NumericExpression
import Actuator.Lib.Decimal

/-!
# The walk of the numeric parser

`NumericExpressionParser` once more, now over the whole expression and the
position `pos_`, as it is written, with a record of its calls, of the characters
it reads, of every change of `pos_` and of every completed round of its loops.
Whatever the text, each of these steps is sound, and what the walk ends with is
what the parser on rests of the text ends with.
-/

namespace Actuator.Executor.NumericWalk

open Actuator.Lib Actuator.Lib.Walker
open Actuator.Constraint (Stop isWordChar)
open Actuator.Constraint.EvaluatorWalk (haltOf walks_throwing)
open NumericExpressionParser (variableToDouble)

variable {D : Type}

/-! ## The parser -/

/-- The functions that call each other. -/
inductive Production where
  | factor
  | term
  | expression
deriving DecidableEq

def Production.level : Production → Nat
  | factor => 0
  | term => 1
  | expression => 2

abbrev Parser (α : Type) := Walker Production Exn α

section Parser

variable [CxxDouble D] (text : Str)

def skipSpaces : Parser Unit := pass text isSpace

def consume (expected : UInt8) : Parser Bool := do
  skipSpaces text
  if ← sees text (· = expected) then do
    advance 1
    return true
  else return false

def parseIdentifier : Parser Str := do
  skipSpaces text
  if ← sees text (fun c => isAlpha c || c = ch '_') then do
    let start ← position
    advance 1
    pass text isWordChar
    let stop ← position
    return (text.drop start).take (stop - start)
  else fail (lit "identifier expected")

def parseNumber : Parser D := do
  skipSpaces text
  let start ← position
  let (value, used) := CxxDouble.strtod (text.drop start)
  if used = 0 then fail (lit "number expected")
  else do
    advance used
    return value

/-- The value in front of a closing parenthesis. -/
def closing (value : D) (missing : Str) : Parser D := do
  if ← consume text (ch ')') then return value else fail missing

/-- What a call of the named function gives. -/
def callFunction (identifier : Str) (arg : D) : Parser D :=
  if identifier = lit "sqrt" then return CxxDouble.sqrt arg
  else fail (lit "unsupported numeric function: " ++ identifier)

mutual

def parseFactor (vm : VariableManager D) : Nat → Parser D
  | 0 => halt .outOfFuel
  | fuel + 1 => do
    let entered ← position
    skipSpaces text
    if ← consume text (ch '+') then call .factor entered .factor (parseFactor vm fuel)
    else if ← consume text (ch '-') then do
      let value ← call .factor entered .factor (parseFactor vm fuel)
      return CxxDouble.neg value
    else if ← consume text (ch '(') then do
      let value ← call .factor entered .expression (parseExpression vm fuel)
      closing text value (lit "missing closing ')' in numeric expression")
    else do
      skipSpaces text
      if (← position) ≥ text.length then fail (lit "unexpected end of numeric expression")
      else do
        let c ← look text
        if isDigit c ∨ c = ch '.' then parseNumber text
        else if isAlpha c ∨ c = ch '_' then do
          let identifier ← parseIdentifier text
          if ← consume text (ch '(') then do
            let arg ← call .factor entered .expression (parseExpression vm fuel)
            let arg ← closing text arg (lit "missing closing ')' for function: " ++ identifier)
            callFunction identifier arg
          else value (variableToDouble vm identifier)
        else fail (lit "unexpected token in numeric expression")

def parseTerm (vm : VariableManager D) : Nat → Parser D
  | 0 => halt .outOfFuel
  | fuel + 1 => do
    let entered ← position
    let value ← call .term entered .factor (parseFactor vm fuel)
    termLoop vm entered fuel value

/-- The loop of `parseTerm`, which was entered at the given position. -/
def termLoop (vm : VariableManager D) (entered : Nat) : Nat → D → Parser D
  | 0, _ => halt .outOfFuel
  | fuel + 1, value => do
    let start ← position
    if ← consume text (ch '*') then do
      let rhs ← call .term entered .factor (parseFactor vm fuel)
      again start
      termLoop vm entered fuel (CxxDouble.mul value rhs)
    else if ← consume text (ch '/') then do
      let rhs ← call .term entered .factor (parseFactor vm fuel)
      if CxxDouble.lt (CxxDouble.abs rhs) (CxxDouble.tenToMinus 12) then fail (lit "division by zero")
      else do
        again start
        termLoop vm entered fuel (CxxDouble.div value rhs)
    else return value

def parseExpression (vm : VariableManager D) : Nat → Parser D
  | 0 => halt .outOfFuel
  | fuel + 1 => do
    let entered ← position
    let value ← call .expression entered .term (parseTerm vm fuel)
    expressionLoop vm entered fuel value

/-- The loop of `parseExpression`, which was entered at the given position. -/
def expressionLoop (vm : VariableManager D) (entered : Nat) : Nat → D → Parser D
  | 0, _ => halt .outOfFuel
  | fuel + 1, value => do
    let start ← position
    if ← consume text (ch '+') then do
      let rhs ← call .expression entered .term (parseTerm vm fuel)
      again start
      expressionLoop vm entered fuel (CxxDouble.add value rhs)
    else if ← consume text (ch '-') then do
      let rhs ← call .expression entered .term (parseTerm vm fuel)
      again start
      expressionLoop vm entered fuel (CxxDouble.sub value rhs)
    else return value

end

/-- `parse`, with enough fuel for any text of this length. -/
def parse (vm : VariableManager D) : Parser D := do
  let value ← parseExpression text vm (3 * text.length + 3)
  skipSpaces text
  let pos ← position
  if pos ≠ text.length then fail (lit "numeric expression trailing characters: " ++ text.drop pos)
  else return value

end Parser

/-! ## Blanks and single characters -/

/-- The position behind the blanks. -/
def behindBlanks (text : Str) (p : Nat) : Nat := p + ((text.drop p).takeWhile isSpace).length

theorem drop_behindBlanks (text : Str) (p : Nat) :
    text.drop (behindBlanks text p) = NumericExpressionParser.skipSpaces (text.drop p) := by
  unfold behindBlanks
  rw [← List.drop_drop]
  exact drop_length_takeWhile isSpace _

/-- Behind blanks there are none. -/
theorem behindBlanks_twice (text : Str) (p : Nat) : behindBlanks text (behindBlanks text p) = behindBlanks text p := by
  have none : (text.drop (behindBlanks text p)).takeWhile isSpace = [] := by
    rw [drop_behindBlanks]
    have whole := List.takeWhile_append_dropWhile (p := isSpace) (l := NumericExpressionParser.skipSpaces (text.drop p))
    unfold NumericExpressionParser.skipSpaces at whole ⊢
    rw [List.dropWhile_idempotent] at whole
    exact List.append_left_eq_self.1 whole
  show behindBlanks text p + ((text.drop (behindBlanks text p)).takeWhile isSpace).length = _
  rw [none]
  rfl

section Walks

variable {text : Str} {p : Nat}

/-- The specification of a part of the parser. -/
abbrev Walks {α : Type} (text : Str) (p : Nat) (x : Parser α) (post : Except (Halt Exn) α → Nat → Prop) : Prop :=
  Walker.Walks Production.level text.length p x post

theorem walks_skipSpaces (le : p ≤ text.length) : Walks text p (skipSpaces text) (Returns () (behindBlanks text p)) :=
  walks_pass isSpace le

theorem walks_consume_yes {c : UInt8} {rest : Str} {q : Nat} (le : p ≤ text.length) (blanks : behindBlanks text p = q)
    (here : text.drop q = c :: rest) : Walks text p (consume text c) (Returns true (q + 1)) := by
  subst blanks
  obtain ⟨inside, -, -⟩ := drop_eq_cons here
  refine (walks_skipSpaces le).after fun _ le' => ?_
  refine walks_if_sees_yes here ?_
  exact (walks_advance inside).after fun _ _ => walks_pure inside ⟨rfl, rfl⟩

theorem walks_consume_no {c : UInt8} {q : Nat} (le : p ≤ text.length) (blanks : behindBlanks text p = q)
    (other : ∀ rest, text.drop q ≠ c :: rest) : Walks text p (consume text c) (Returns false q) := by
  subst blanks
  refine (walks_skipSpaces le).after fun _ le' => ?_
  exact walks_if_sees_no le' other (walks_pure le' ⟨rfl, rfl⟩)

variable {α : Type} {post : Except (Halt Exn) α → Nat → Prop} {yes no : Parser α} {c : UInt8} {q : Nat}

/-- The branch taken when the character is there. -/
theorem walks_if_consume_yes {rest : Str} (le : p ≤ text.length) (blanks : behindBlanks text p = q)
    (here : text.drop q = c :: rest) (walks : p < q + 1 → q + 1 ≤ text.length → Walks text (q + 1) yes post) :
    Walks text p (consume text c >>= fun seen => if seen = true then yes else no) post :=
  (walks_consume_yes le blanks here).after fun _ le' =>
    walks (by rw [← blanks]; exact Nat.lt_succ_of_le (Nat.le_add_right _ _)) le'

/-- The branch taken when it is not. -/
theorem walks_if_consume_no (le : p ≤ text.length) (blanks : behindBlanks text p = q)
    (other : ∀ rest, text.drop q ≠ c :: rest) (walks : p ≤ q → q ≤ text.length → Walks text q no post) :
    Walks text p (consume text c >>= fun seen => if seen = true then yes else no) post :=
  (walks_consume_no le blanks other).after fun forward le' => walks forward le'

end Walks

/-! ## The parts of a factor -/

section Parts

variable {text : Str} {p : Nat}

theorem walks_closing (le : p ≤ text.length) (value : D) (missing : Str) :
    Walks text p (closing text value missing)
      (Agrees text haltOf (NumericExpressionParser.closing value missing (text.drop p))) := by
  unfold closing NumericExpressionParser.closing
  rw [← drop_behindBlanks]
  cases here : text.drop (behindBlanks text p) with
  | nil => exact walks_if_consume_no le rfl (by simp [here]) fun _ le' => walks_halt le' rfl
  | cons c rest =>
    obtain ⟨-, -, behind⟩ := drop_eq_cons here
    by_cases close : c = ch ')'
    · subst close
      refine walks_if_consume_yes le rfl here fun _ le' => ?_
      dsimp only
      rw [if_pos rfl]
      exact walks_agree_pure le' value behind
    · refine walks_if_consume_no le rfl (drop_ne_cons here close) fun _ le' => ?_
      dsimp only
      rw [if_neg close]
      exact walks_halt le' rfl

/-- A loop that goes on behind one of two characters, and else returns its value behind the blanks. -/
theorem walks_either {a b : UInt8} {first second : Parser D} {next next' : Str → Except Stop (D × Str)}
    (le : p ≤ text.length) (value : D)
    (onFirst : ∀ q, p < q → q ≤ text.length → Walks text q first (Agrees text haltOf (next (text.drop q))))
    (onSecond : ∀ q, p < q → q ≤ text.length → Walks text q second (Agrees text haltOf (next' (text.drop q)))) :
    Walks text p (do
      if ← consume text a then first
      else if ← consume text b then second
      else return value)
    (Agrees text haltOf
      (match NumericExpressionParser.skipSpaces (text.drop p) with
      | [] => .ok (value, [])
      | c :: rest => if c = a then next rest else if c = b then next' rest else .ok (value, c :: rest))) := by
  have twice := behindBlanks_twice text p
  rw [← drop_behindBlanks]
  cases here : text.drop (behindBlanks text p) with
  | nil =>
    refine walks_if_consume_no le rfl (by simp [here]) fun _ le' => ?_
    exact walks_if_consume_no le' twice (by simp [here]) fun _ _ => walks_agree_pure le' value here
  | cons c rest =>
    obtain ⟨-, -, after⟩ := drop_eq_cons here
    dsimp only
    by_cases isFirst : c = a
    · subst isFirst
      rw [if_pos rfl, ← after]
      exact walks_if_consume_yes le rfl here fun further le' => onFirst _ further le'
    rw [if_neg isFirst]
    refine walks_if_consume_no le rfl (drop_ne_cons here isFirst) fun before le' => ?_
    by_cases isSecond : c = b
    · subst isSecond
      rw [if_pos rfl, ← after]
      exact walks_if_consume_yes le' twice here fun further le'' => onSecond _ (by omega) le''
    · rw [if_neg isSecond]
      exact walks_if_consume_no le' twice (drop_ne_cons here isSecond) fun _ _ => walks_agree_pure le' value here

variable [CxxDouble D]

theorem walks_callFunction (le : p ≤ text.length) (identifier : Str) (arg : D) :
    Walks text p (callFunction identifier arg)
      (Agrees text haltOf (NumericExpressionParser.callFunction identifier arg (text.drop p))) := by
  unfold callFunction NumericExpressionParser.callFunction
  split
  · exact walks_agree_pure le _ rfl
  · exact walks_halt le rfl

/-- A number is as long as the library says, which is no longer than the text. -/
theorem walks_parseNumber (inside : ∀ s, (CxxDouble.strtod s : D × Nat).2 ≤ s.length) (le : p ≤ text.length)
    (blanks : behindBlanks text p = p) : Walks text p (parseNumber text : Parser D)
      (Agrees text haltOf (NumericExpressionParser.parseNumber (text.drop p))) := by
  have short := inside (text.drop p)
  unfold parseNumber NumericExpressionParser.parseNumber
  refine (walks_skipSpaces le).after fun _ _ => ?_
  rw [blanks]
  refine (walks_position le).after fun _ _ => ?_
  generalize (CxxDouble.strtod (text.drop p) : D × Nat) = result at short ⊢
  obtain ⟨x, used⟩ := result
  rw [List.length_drop] at short
  dsimp only at short ⊢
  split
  · exact walks_halt le rfl
  · have le' : p + used ≤ text.length := by omega
    exact (walks_advance le').after fun _ _ => walks_agree_pure le' x List.drop_drop.symm

/-- An identifier is read to its end. -/
theorem walks_parseIdentifier {c : UInt8} {rest : Str} (here : text.drop p = c :: rest)
    (blanks : behindBlanks text p = p) (first : isAlpha c = true ∨ c = ch '_') :
    Walks text p (parseIdentifier text)
      (Returns (c :: rest.takeWhile isWordChar) (p + 1 + (rest.takeWhile isWordChar).length)) := by
  obtain ⟨inside, -, behind⟩ := drop_eq_cons here
  have le : p ≤ text.length := by omega
  have starts : (isAlpha c || c = ch '_') = true := by simpa using first
  refine (walks_skipSpaces le).after fun _ _ => ?_
  rw [blanks]
  refine (walks_sees le _).after fun _ _ => ?_
  rw [here, List.head?_cons, Option.any_some, if_pos starts]
  refine (walks_position le).after fun _ _ => ?_
  refine (walks_advance inside).after fun _ _ => ?_
  refine (walks_pass isWordChar inside).after fun _ le' => ?_
  rw [behind] at le' ⊢
  refine (walks_position le').after fun _ _ => ?_
  refine walks_pure le' ⟨?_, rfl⟩
  have length : p + 1 + (rest.takeWhile isWordChar).length - p = (rest.takeWhile isWordChar).length + 1 := by omega
  rw [length, here, List.take_succ_cons, take_length_takeWhile]

end Parts

/-! ## The productions -/

section Productions

variable [CxxDouble D] (text : Str) (vm : VariableManager D)

/-- Given `fuel`, each function takes sound steps from every position, and ends as its counterpart on the rest of the
text. -/
structure Follows (fuel : Nat) : Prop where
  factor : ∀ p, p ≤ text.length → Walks text p (parseFactor text vm fuel)
    (Agrees text haltOf (NumericExpressionParser.parseFactor vm fuel (text.drop p)))
  term : ∀ p, p ≤ text.length → Walks text p (parseTerm text vm fuel)
    (Agrees text haltOf (NumericExpressionParser.parseTerm vm fuel (text.drop p)))
  termLoop : ∀ p entered value, p ≤ text.length → entered ≤ p → Walks text p (termLoop text vm entered fuel value)
    (Agrees text haltOf (NumericExpressionParser.termLoop vm fuel value (text.drop p)))
  expression : ∀ p, p ≤ text.length → Walks text p (parseExpression text vm fuel)
    (Agrees text haltOf (NumericExpressionParser.parseExpression vm fuel (text.drop p)))
  expressionLoop : ∀ p entered value, p ≤ text.length → entered ≤ p →
    Walks text p (expressionLoop text vm entered fuel value)
      (Agrees text haltOf (NumericExpressionParser.expressionLoop vm fuel value (text.drop p)))

variable {text vm} {fuel : Nat}

theorem Follows.term_succ (ih : Follows text vm fuel) (p : Nat) (le : p ≤ text.length) :
    Walks text p (parseTerm text vm (fuel + 1))
      (Agrees text haltOf (NumericExpressionParser.parseTerm vm (fuel + 1) (text.drop p))) := by
  rw [parseTerm, NumericExpressionParser.parseTerm]
  refine (walks_position le).after fun _ _ => ?_
  refine (walks_call le (le_refl p) (Or.inr (by decide)) (ih.factor p le)).agree fun value q forward le' => ?_
  exact ih.termLoop q p value le' forward

theorem Follows.termLoop_succ (ih : Follows text vm fuel) (p entered : Nat) (value : D) (le : p ≤ text.length)
    (behind : entered ≤ p) : Walks text p (NumericWalk.termLoop text vm entered (fuel + 1) value)
      (Agrees text haltOf (NumericExpressionParser.termLoop vm (fuel + 1) value (text.drop p))) := by
  rw [NumericWalk.termLoop, NumericExpressionParser.termLoop]
  refine (walks_position le).after fun _ _ => ?_
  refine walks_either le value (fun q further le' => ?_) (fun q further le' => ?_)
  · refine (walks_call le' (by omega) (Or.inr (by decide)) (ih.factor q le')).agree fun rhs r forward inside => ?_
    refine (walks_again inside (by omega)).after fun _ _ => ?_
    exact ih.termLoop r entered _ inside (by omega)
  · refine (walks_call le' (by omega) (Or.inr (by decide)) (ih.factor q le')).agree fun rhs r forward inside => ?_
    dsimp only
    split
    · exact walks_halt inside rfl
    · refine (walks_again inside (by omega)).after fun _ _ => ?_
      exact ih.termLoop r entered _ inside (by omega)

theorem Follows.expression_succ (ih : Follows text vm fuel) (p : Nat) (le : p ≤ text.length) :
    Walks text p (parseExpression text vm (fuel + 1))
      (Agrees text haltOf (NumericExpressionParser.parseExpression vm (fuel + 1) (text.drop p))) := by
  rw [parseExpression, NumericExpressionParser.parseExpression]
  refine (walks_position le).after fun _ _ => ?_
  refine (walks_call le (le_refl p) (Or.inr (by decide)) (ih.term p le)).agree fun value q forward le' => ?_
  exact ih.expressionLoop q p value le' forward

theorem Follows.expressionLoop_succ (ih : Follows text vm fuel) (p entered : Nat) (value : D) (le : p ≤ text.length)
    (behind : entered ≤ p) : Walks text p (NumericWalk.expressionLoop text vm entered (fuel + 1) value)
      (Agrees text haltOf (NumericExpressionParser.expressionLoop vm (fuel + 1) value (text.drop p))) := by
  rw [NumericWalk.expressionLoop, NumericExpressionParser.expressionLoop]
  refine (walks_position le).after fun _ _ => ?_
  refine walks_either le value (fun q further le' => ?_) (fun q further le' => ?_)
  · refine (walks_call le' (by omega) (Or.inr (by decide)) (ih.term q le')).agree fun rhs r forward inside => ?_
    refine (walks_again inside (by omega)).after fun _ _ => ?_
    exact ih.expressionLoop r entered _ inside (by omega)
  · refine (walks_call le' (by omega) (Or.inr (by decide)) (ih.term q le')).agree fun rhs r forward inside => ?_
    refine (walks_again inside (by omega)).after fun _ _ => ?_
    exact ih.expressionLoop r entered _ inside (by omega)

/-- Behind an identifier: a call of a function, or a variable. -/
theorem Follows.named (ih : Follows text vm fuel) {p entered : Nat} (le : p ≤ text.length) (behind : entered < p)
    (identifier : Str) :
    Walks text p (do
      if ← consume text (ch '(') then do
        let arg ← call .factor entered .expression (parseExpression text vm fuel)
        let arg ← closing text arg (lit "missing closing ')' for function: " ++ identifier)
        callFunction identifier arg
      else value (variableToDouble vm identifier))
    (Agrees text haltOf
      (match NumericExpressionParser.skipSpaces (text.drop p) with
      | [] => do return (← Constraint.throwing (variableToDouble vm identifier), [])
      | c :: rest =>
        if c = ch '(' then do
          let (arg, s) ← NumericExpressionParser.parseExpression vm fuel rest
          let (arg, s) ← NumericExpressionParser.closing arg (lit "missing closing ')' for function: " ++ identifier) s
          NumericExpressionParser.callFunction identifier arg s
        else do return (← Constraint.throwing (variableToDouble vm identifier), c :: rest))) := by
  rw [← drop_behindBlanks]
  cases here : text.drop (behindBlanks text p) with
  | nil =>
    refine walks_if_consume_no le rfl (by simp [here]) fun _ further => ?_
    exact walks_throwing further (variableToDouble vm identifier) here
  | cons c rest =>
    obtain ⟨-, -, after⟩ := drop_eq_cons here
    dsimp only
    by_cases lparen : c = ch '('
    · subst lparen
      rw [if_pos rfl, ← after]
      refine walks_if_consume_yes le rfl here fun _ further => ?_
      refine (walks_call further (by omega) (Or.inl (by omega)) (ih.expression _ further)).agree fun arg q _ le' => ?_
      refine (walks_closing le' arg _).agree fun arg q' _ le'' => ?_
      exact walks_callFunction le'' identifier arg
    · rw [if_neg lparen]
      refine walks_if_consume_no le rfl (drop_ne_cons here lparen) fun _ further => ?_
      exact walks_throwing further (variableToDouble vm identifier) here

variable (inside : ∀ s, (CxxDouble.strtod s : D × Nat).2 ≤ s.length)

include inside

theorem Follows.factor_succ (ih : Follows text vm fuel) (p : Nat) (le : p ≤ text.length) :
    Walks text p (parseFactor text vm (fuel + 1))
      (Agrees text haltOf (NumericExpressionParser.parseFactor vm (fuel + 1) (text.drop p))) := by
  rw [parseFactor, NumericExpressionParser.parseFactor]
  refine (walks_position le).after fun _ _ => ?_
  refine (walks_skipSpaces le).after fun before le' => ?_
  have twice := behindBlanks_twice text p
  rw [← drop_behindBlanks]
  generalize behindBlanks text p = q at before le' twice ⊢
  cases here : text.drop q with
  | nil =>
    have ended := List.drop_eq_nil_iff.1 here
    refine walks_if_consume_no le' twice (by simp [here]) fun _ _ => ?_
    refine walks_if_consume_no le' twice (by simp [here]) fun _ _ => ?_
    refine walks_if_consume_no le' twice (by simp [here]) fun _ _ => ?_
    refine (walks_skipSpaces le').after fun _ _ => ?_
    rw [twice]
    refine (walks_position le').after fun _ _ => ?_
    rw [if_pos ended]
    exact walks_halt le' rfl
  | cons c rest =>
    obtain ⟨short, -, after⟩ := drop_eq_cons here
    dsimp only
    by_cases plus : c = ch '+'
    · subst plus
      rw [if_pos rfl, ← after]
      refine walks_if_consume_yes le' twice here fun _ further => ?_
      exact walks_call further (by omega) (Or.inl (by omega)) (ih.factor _ further)
    rw [if_neg plus]
    refine walks_if_consume_no le' twice (drop_ne_cons here plus) fun _ _ => ?_
    by_cases minus : c = ch '-'
    · subst minus
      rw [if_pos rfl, ← after]
      refine walks_if_consume_yes le' twice here fun _ further => ?_
      refine (walks_call further (by omega) (Or.inl (by omega)) (ih.factor _ further)).agree fun value r _ inside => ?_
      exact walks_agree_pure inside _ rfl
    rw [if_neg minus]
    refine walks_if_consume_no le' twice (drop_ne_cons here minus) fun _ _ => ?_
    by_cases lparen : c = ch '('
    · subst lparen
      rw [if_pos rfl, ← after]
      refine walks_if_consume_yes le' twice here fun _ further => ?_
      refine (walks_call further (by omega) (Or.inl (by omega)) (ih.expression _ further)).agree fun value r _ inside => ?_
      exact walks_closing inside value _
    rw [if_neg lparen]
    refine walks_if_consume_no le' twice (drop_ne_cons here lparen) fun _ _ => ?_
    refine (walks_skipSpaces le').after fun _ _ => ?_
    rw [twice]
    refine (walks_position le').after fun _ _ => ?_
    rw [if_neg (by omega)]
    refine (walks_look here).after fun _ _ => ?_
    by_cases number : isDigit c = true ∨ c = ch '.'
    · rw [if_pos number, if_pos number, ← here]
      exact walks_parseNumber inside le' twice
    rw [if_neg number, if_neg number]
    by_cases word : isAlpha c = true ∨ c = ch '_'
    · rw [if_pos word, if_pos word]
      refine (walks_parseIdentifier here twice word).after fun _ le'' => ?_
      have later : text.drop (q + 1 + (rest.takeWhile isWordChar).length) = rest.dropWhile isWordChar := by
        rw [← List.drop_drop, after, drop_length_takeWhile]
      rw [← later]
      exact ih.named le'' (by omega) _
    rw [if_neg word, if_neg word]
    exact walks_halt le' rfl

theorem follows (fuel : Nat) : Follows text vm fuel := by
  induction fuel with
  | zero => constructor <;> (intros; exact walks_halt (by assumption) rfl)
  | succ fuel ih =>
    exact ⟨ih.factor_succ inside, ih.term_succ, ih.termLoop_succ, ih.expression_succ, ih.expressionLoop_succ⟩

omit inside

end Productions

/-! ## The whole expression -/

section Whole

variable [CxxDouble D] (inside : ∀ s, (CxxDouble.strtod s : D × Nat).2 ≤ s.length) (vm : VariableManager D) (text : Str)

include inside

/-- A value is returned only at the end of the text. -/
theorem walks_parse : Walks text 0 (parse text vm) fun out q =>
    out = (NumericExpressionParser.parse vm text).mapError haltOf ∧ ∀ value, out = .ok value → q = text.length := by
  have all : Follows text vm (3 * text.length + 3) := follows inside _
  have expression := all.expression 0 (Nat.zero_le _)
  rw [List.drop_zero] at expression
  unfold parse NumericExpressionParser.parse
  refine expression.bind ?_ ?_
  · intro value q _ le agrees
    cases ran : NumericExpressionParser.parseExpression vm (3 * text.length + 3) text with
    | error e =>
      rw [ran] at agrees
      cases agrees
    | ok result =>
      obtain ⟨x, rest⟩ := result
      rw [ran] at agrees
      obtain ⟨same, rfl⟩ := agrees
      cases same
      refine (walks_skipSpaces le).after fun _ le' => ?_
      refine (walks_position le').after fun _ _ => ?_
      rw [except_ok_bind]
      dsimp only
      rw [← drop_behindBlanks]
      by_cases ended : behindBlanks text q = text.length
      · rw [if_neg (not_not.2 ended), ended, List.drop_length]
        exact walks_pure (le_refl _) ⟨rfl, fun _ _ => rfl⟩
      · rw [if_pos ended]
        cases here : text.drop (behindBlanks text q) with
        | nil => exact absurd (Nat.le_antisymm le' (List.drop_eq_nil_iff.1 here)) ended
        | cons c rest => exact walks_halt le' ⟨rfl, nofun⟩
  · intro why q agrees
    cases ran : NumericExpressionParser.parseExpression vm (3 * text.length + 3) text with
    | error e =>
      rw [ran] at agrees
      cases agrees
      exact ⟨rfl, nofun⟩
    | ok result =>
      rw [ran] at agrees
      cases agrees.1

omit inside

/-- The walk of the parser. -/
def walk : Except (Halt Exn) D × Walk Production := parse text vm ⟨0, []⟩

include inside

theorem walk_eq_parse : (walk vm text).1 = (NumericExpressionParser.parse vm text).mapError haltOf :=
  (walks_parse inside vm text).whole.2.2.1

/-- The walk ends with a value or an exception, the steps of its path are sound, and it ends with a value only at the
end of the text. -/
theorem parse_terminates :
    ((∃ value, (walk vm text).1 = .ok value) ∨ ∃ what, (walk vm text).1 = .error (.thrown what)) ∧
      Path 0 (walk vm text).2.steps (walk vm text).2.pos ∧
      (∀ step ∈ (walk vm text).2.steps, step.Sound Production.level text.length) ∧
      ∀ value, (walk vm text).1 = .ok value → (walk vm text).2.pos = text.length := by
  obtain ⟨path, sound, -, whole⟩ := (walks_parse inside vm text).whole
  refine ⟨?_, path, sound, whole⟩
  have ends := NumericExpressionParser.parse_ends vm text
  rw [walk_eq_parse inside]
  cases ran : NumericExpressionParser.parse vm text with
  | ok value => exact Or.inl ⟨value, rfl⟩
  | error e =>
    cases e with
    | exception what => exact Or.inr ⟨what, rfl⟩
    | outOfFuel => exact absurd ran ends

end Whole

/-- `2 * -x + 1` is walked to its end. -/
theorem parse_terminates_sample :
    let vm : VariableManager ℚ := { globalVars := OrdMap.empty.insert (lit "x") (.int 3) }
    (walk vm (lit "2 * -x + 1")).1 = .ok (-5) ∧ (walk vm (lit "2 * -x + 1")).2.pos = 10 ∧
      ∀ step ∈ (walk vm (lit "2 * -x + 1")).2.steps, step.Sound Production.level 10 := by
  intro vm
  have value : (walk vm (lit "2 * -x + 1")).1 = .ok (-5) := by decide +kernel
  obtain ⟨-, -, sound, whole⟩ := parse_terminates Decimal.strtod_used_le vm (lit "2 * -x + 1")
  exact ⟨value, whole _ value, sound⟩

end Actuator.Executor.NumericWalk
