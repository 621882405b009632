import Mathlib.Data.List.Chain
import Actuator.Constraint.Evaluation

/-!
# How much of a text decides

The evaluator drops characters its tokenizer does not know, stops where the
parser stops, and compares with an unset value when an operator has no operand.
A text is reported as satisfied as soon as a true condition leads its tokens.
That uses the whole text exactly for the complete conditions.
-/

namespace Actuator.Constraint

open Actuator.Lib Actuator.Executor

/-- A token that can stand to the right of a comparison operator. -/
def Token.IsOperand (t : Token) : Prop := (∃ v, t = .number v) ∨ (∃ v, t = .string v) ∨ ∃ v, t = .identifier v

/-- If the first token is a comparison operator, the second is an operand. -/
def FollowedByOperand (t t' : Token) : Prop := ∀ op, t = .operator op → t'.IsOperand

/-- No round of the tokenizer skips a character that is not white space. -/
def NothingDropped (expr : Str) : Prop := ∀ p ∈ scan expr, ∀ c, p ≠ .dropped c

section

variable {D : Type} [CxxDouble D] (vm : VariableManager D)

/-- The evaluator used the whole text: every character that is not white space belongs to a token, the parser
stopped at the end token, and every operator it consumed was followed by an operand. -/
structure WholeTextUsed (expr : Str) : Prop where
  characters : NothingDropped expr
  position : ∃ b, parseExpression vm (tokenize expr) = .ok (b, [.eof])
  operands : (tokenize expr).IsChain FollowedByOperand

/-- The text is a condition of the grammar from its first to its last character. -/
def Complete (expr : Str) : Prop :=
  NothingDropped expr ∧ ∃ f : Formula Atom, f.Nested ∧ tokenize expr = f.toks ++ [.eof] ∧
    ∀ name op right, Atom.comparison name op right ∈ f.atoms → right.IsOperand

/-- A condition that is true in the store leads the text, whatever follows it. -/
def LeadingTrue (expr : Str) : Prop := ∃ f rest, Leads f (tokenize expr) rest ∧ f.value vm = .ok true

end

/-! ## Operands in formulas -/

theorem isChain_cons_of_not_operator {t : Token} {ts : List Token} (plain : ∀ op, t ≠ .operator op)
    (chain : ts.IsChain FollowedByOperand) : (t :: ts).IsChain FollowedByOperand := by
  cases ts with
  | nil => exact .singleton t
  | cons t' ts => exact .cons_cons (fun op same => absurd same (plain op)) chain

theorem Token.IsOperand.not_operator {t : Token} (operand : t.IsOperand) (op : Str) : t ≠ .operator op := by
  rcases operand with ⟨v, rfl⟩ | ⟨v, rfl⟩ | ⟨v, rfl⟩ <;> simp

/-- Where all comparisons have operands, the operators of the tokens do too. -/
theorem isChain_toks {f : Formula Atom} (operands : ∀ name op right, Atom.comparison name op right ∈ f.atoms → right.IsOperand)
    {rest : List Token} (chain : rest.IsChain FollowedByOperand) : (f.toks ++ rest).IsChain FollowedByOperand := by
  induction f generalizing rest with
  | atom a =>
    cases a with
    | number text => exact isChain_cons_of_not_operator (by simp) chain
    | bare name => exact isChain_cons_of_not_operator (by simp) chain
    | comparison name op right =>
      have operand := operands name op right List.mem_cons_self
      exact isChain_cons_of_not_operator (by simp)
        (.cons_cons (fun _ _ => operand) (isChain_cons_of_not_operator operand.not_operator chain))
  | group f ih =>
    have shape : (Formula.group f).toks ++ rest = .lparen :: (f.toks ++ .rparen :: rest) := by
      simp [Formula.toks, Formula.tokens]
    rw [shape]
    exact isChain_cons_of_not_operator (by simp) (ih operands (isChain_cons_of_not_operator (by simp) chain))
  | not f ih => exact isChain_cons_of_not_operator (by simp) (ih operands chain)
  | and l r ihl ihr =>
    have shape : (Formula.and l r).toks ++ rest = l.toks ++ .and :: (r.toks ++ rest) := by
      simp [Formula.toks, Formula.tokens]
    rw [shape]
    exact ihl (fun name op right mem => operands name op right (List.mem_append_left _ mem))
      (isChain_cons_of_not_operator (by simp)
        (ihr (fun name op right mem => operands name op right (List.mem_append_right _ mem)) chain))
  | or l r ihl ihr =>
    have shape : (Formula.or l r).toks ++ rest = l.toks ++ .or :: (r.toks ++ rest) := by
      simp [Formula.toks, Formula.tokens]
    rw [shape]
    exact ihl (fun name op right mem => operands name op right (List.mem_append_left _ mem))
      (isChain_cons_of_not_operator (by simp)
        (ihr (fun name op right mem => operands name op right (List.mem_append_right _ mem)) chain))

/-- The tokens of an atom stand together among those of the formula. -/
theorem atom_isInfix {f : Formula Atom} {a : Atom} (mem : a ∈ f.atoms) : a.tokens <:+: f.toks := by
  induction f with
  | atom b =>
    rw [List.mem_singleton.1 mem]
    exact List.infix_rfl
  | group f ih => exact (ih mem).trans ⟨[.lparen], [.rparen], by simp [Formula.toks, Formula.tokens]⟩
  | not f ih => exact (ih mem).trans ⟨[.not], [], by simp [Formula.toks, Formula.tokens]⟩
  | and l r ihl ihr =>
    rcases List.mem_append.1 mem with mem | mem
    · exact (ihl mem).trans ⟨[], .and :: r.toks, by simp [Formula.toks, Formula.tokens]⟩
    · exact (ihr mem).trans ⟨l.toks ++ [.and], [], by simp [Formula.toks, Formula.tokens]⟩
  | or l r ihl ihr =>
    rcases List.mem_append.1 mem with mem | mem
    · exact (ihl mem).trans ⟨[], .or :: r.toks, by simp [Formula.toks, Formula.tokens]⟩
    · exact (ihr mem).trans ⟨l.toks ++ [.or], [], by simp [Formula.toks, Formula.tokens]⟩

theorem operand_of_isChain {f : Formula Atom} {rest : List Token} (chain : (f.toks ++ rest).IsChain FollowedByOperand)
    {name op : Str} {right : Token} (mem : Atom.comparison name op right ∈ f.atoms) : right.IsOperand := by
  obtain ⟨front, back, whole⟩ := (atom_isInfix mem).trans (List.prefix_append f.toks rest).isInfix
  rw [← whole] at chain
  simp only [Atom.tokens, List.append_assoc, List.cons_append, List.nil_append, List.isChain_append_cons_cons,
    List.isChain_cons_cons] at chain
  exact chain.2.2.1 op rfl

/-! ## Satisfaction and use -/

section

variable {D : Type} [CxxDouble D] (vm : VariableManager D)

theorem satisfied_iff (expr : Str) : (evaluateDetailed vm expr).satisfied = true ↔ LeadingTrue vm expr := by
  constructor
  · intro satisfied
    simp only [evaluateDetailed] at satisfied
    split at satisfied
    · cases satisfied
    · split at satisfied
      · rename_i rest run
        obtain ⟨f, leads, value⟩ := (parseExpression_eq_ok vm _ _ _).1 run
        exact ⟨f, rest, leads, value⟩
      all_goals cases satisfied
  · intro leading
    obtain ⟨f, rest, leads, value⟩ := leading
    exact evaluateDetailed_of_leads leads value

/-- Being satisfied implies that the whole text was used exactly when the text is complete or no true condition
leads it. -/
theorem satisfied_imp_used_iff (expr : Str) :
    ((evaluateDetailed vm expr).satisfied = true → WholeTextUsed vm expr) ↔
      Complete expr ∨ ¬LeadingTrue vm expr := by
  rw [satisfied_iff]
  constructor
  · intro used
    by_cases leading : LeadingTrue vm expr
    · obtain ⟨characters, ⟨b, run⟩, operands⟩ := used leading
      obtain ⟨f, leads, -⟩ := (parseExpression_eq_ok vm _ _ _).1 run
      rw [leads.tokens] at operands
      exact .inl ⟨characters, f, leads.nested, leads.tokens, fun name op right => operand_of_isChain operands⟩
    · exact .inr leading
  · intro condition leading
    rcases condition with ⟨characters, f, nested, tokens, operands⟩ | none
    · have leads := leads_eof nested tokens
      obtain ⟨g, rest, leadsG, value⟩ := leading
      have run := (parseExpression_eq_ok vm _ _ _).2 ⟨g, leadsG, value⟩
      refine ⟨characters, ?_, ?_⟩
      · rw [leads.parseExpression] at run ⊢
        cases value : f.value vm with
        | error e =>
          rw [value] at run
          cases run
        | ok b => exact ⟨b, rfl⟩
      · rw [tokens]
        exact isChain_toks operands (.singleton _)
    · exact absurd leading none

/-- `1 )` is reported as satisfied although the parser stops in front of the parenthesis. -/
theorem satisfied_with_leftover :
    let vm : VariableManager FixedPoint := {}
    (evaluateDetailed vm (lit "1 )")).satisfied = true ∧ ¬WholeTextUsed vm (lit "1 )") := by
  refine ⟨rfl, fun used => ?_⟩
  obtain ⟨b, run⟩ := used.position
  have stopped : parseExpression ({} : VariableManager FixedPoint) (tokenize (lit "1 )")) =
      .ok (true, [.rparen, .eof]) := rfl
  rw [stopped] at run
  cases run

/-- `x ==` is reported as satisfied when `x` is the empty text. -/
example : (evaluateDetailed ({ globalVars := OrdMap.ofList [(lit "x", .string [])] } : VariableManager FixedPoint)
    (lit "x ==")).satisfied = true := rfl

end

end Actuator.Constraint
