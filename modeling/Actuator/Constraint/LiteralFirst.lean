import Actuator.Constraint.Evaluation

/-!
# The side of a literal

`parsePrimary` compares only behind an identifier. A number in front is a truth
value, and the operator and the variable behind it are not looked at; a quoted
text in front is an unexpected token. So the two ways of writing a comparison
agree exactly when the comparison happens to have that fixed value.
-/

namespace Actuator.Constraint

open Actuator.Lib Actuator.Executor

section

variable {D : Type} [CxxDouble D] (vm : VariableManager D)

/-! ## Results -/

/-- What `evaluate` makes of a parse: an exception counts as false. -/
def verdict : Parse → Bool
  | .ok (b, _) => b
  | .error _ => false

theorem evaluate_eq_verdict (expr : Str) : evaluate vm expr = verdict (parseExpression vm (tokenize expr)) := by
  unfold evaluate evaluateDetailed
  dsimp only
  split
  · rename_i empty
    rcases empty with empty | empty <;> (rw [empty]; rfl)
  · rcases parseExpression vm (tokenize expr) with (what | _) | ⟨_ | _, rest⟩ <;> rfl

variable {vm}

theorem verdict_of_leads {f : Formula Atom} {ts rest : List Token} (leads : Leads f ts rest) {b : Bool}
    (value : f.value vm = .ok b) : verdict (parseExpression vm ts) = b := by
  rw [leads.parseExpression, value]
  rfl

/-- A comparison behind an identifier has the value of `compare`. What follows it is not looked at, if it does not
continue the condition. -/
theorem evaluate_comparison {expr name op : Str} {right : Token} {rest : List Token} {v r : VariableValue D}
    (tokens : tokenize expr = .identifier name :: .operator op :: right :: rest) (notAnd : ∀ ts, rest ≠ .and :: ts)
    (notOr : ∀ ts, rest ≠ .or :: ts) (holds : vm.lookup name = some v) (operand : operandValue vm right = .ok r) :
    evaluate vm expr = compare v op r := by
  have known : vm.exists? name = true := by rw [vm.exists?_eq, holds]; rfl
  have leads : Leads (.atom (.comparison name op right)) (tokenize expr) rest := {
    nested := trivial
    tokens
    quiet _ _ _ last := by cases last
    notAnd
    notOr }
  have compared : comparisonValue vm name op right = .ok (compare v op r) := by
    unfold comparisonValue
    rw [operand, except_ok_bind, if_pos known, VariableManager.get_of_lookup holds]
    rfl
  have value : (Formula.atom (Atom.comparison name op right)).value vm = .ok (compare v op r) :=
    congrArg throwing compared
  rw [evaluate_eq_verdict, verdict_of_leads leads value]

/-- A comparison that is the whole text. -/
theorem Renders.evaluate_comparison {text name op : Str} {right : Token} {v r : VariableValue D}
    (renders : Renders [.identifier name, .operator op, right] text) (holds : vm.lookup name = some v)
    (operand : operandValue vm right = .ok r) : evaluate vm text = compare v op r :=
  Constraint.evaluate_comparison renders.tokenize (fun _ same => by cases same) (fun _ same => by cases same) holds
    operand

/-- A number in front decides alone. -/
theorem evaluate_number {expr text : Str} {op : Str} {rest : List Token}
    (tokens : tokenize expr = .number text :: .operator op :: rest) : evaluate vm expr = numberTruth text := by
  have leads : Leads (.atom (.number text)) (tokenize expr) (.operator op :: rest) := {
    nested := trivial
    tokens
    quiet _ _ _ last := by cases last
    notAnd _ same := by cases same
    notOr _ same := by cases same }
  rw [evaluate_eq_verdict, verdict_of_leads leads rfl]

/-- A quoted text in front is no condition. -/
theorem evaluate_string {expr text : Str} {rest : List Token} (tokens : tokenize expr = .string text :: rest) :
    evaluate vm expr = false := by
  rw [evaluate_eq_verdict, tokens]
  rfl

end

/-- Three texts with a space between them. -/
def spaced (s₁ s₂ s₃ : Str) : Str := s₁ ++ ch ' ' :: (s₂ ++ ch ' ' :: s₃)

theorem renders_spaced {t₁ t₂ t₃ : Token} {s₁ s₂ s₃ : Str} (first : Spells t₁ s₁) (second : Spells t₂ s₂)
    (third : Spells t₃ s₃) : Renders [t₁, t₂, t₃] (spaced s₁ s₂ s₃) := by
  have blank : ∀ c ∈ [ch ' '], isSpace c = true := List.all_eq_true.1 (by decide)
  have next : ∀ s : Str, Separated (ch ' ' :: s) := fun s c front => by cases front; rfl
  have last : Renders [t₃] ([ch ' '] ++ s₃ ++ []) := .cons blank third nofun (.nil nofun)
  have middle : Renders [t₂, t₃] ([ch ' '] ++ s₂ ++ _) := .cons blank second (next _) last
  have whole : Renders [t₁, t₂, t₃] ([] ++ s₁ ++ _) := .cons nofun first (next _) middle
  simpa [spaced] using whole

/-! ## The two ways to write a comparison -/

/-- A literal operand. -/
inductive Literal where
  | number (text : Str)
  | quoted (text : Str)

namespace Literal

def token : Literal → Token
  | number text => .number text
  | quoted text => .string text

/-- What the condition amounts to when the literal is written first. -/
def truth : Literal → Bool
  | number text => numberTruth text
  | quoted _ => false

variable {D : Type} [CxxDouble D]

/-- The value of the literal as a right-hand side; no variable is looked up for it. -/
def value (l : Literal) : VariableValue D := ((operandValue {} l.token).toOption).getD .unknown

theorem operandValue_token (vm : VariableManager D) (l : Literal) : operandValue vm l.token = .ok l.value := by
  have given : ∃ v : VariableValue D, operandValue {} l.token = .ok v := by
    cases l with
    | number text =>
      unfold token operandValue
      dsimp only
      split
      · split
        · exact ⟨_, rfl⟩
        · exact ⟨_, rfl⟩
      · split
        · exact ⟨_, rfl⟩
        · exact ⟨_, rfl⟩
    | quoted text => exact ⟨_, rfl⟩
  have same : operandValue vm l.token = operandValue {} l.token := by cases l <;> rfl
  obtain ⟨v, read⟩ := given
  unfold value
  rw [same, read]
  rfl

end Literal

namespace CompareOp

/-- The operator with its sides exchanged. -/
def mirror : CompareOp → CompareOp
  | eq => eq
  | assign => assign
  | ne => ne
  | lt => gt
  | gt => lt
  | le => ge
  | ge => le

end CompareOp

variable {D : Type} [CxxDouble D]

/-- `l op x` agrees with `x op' l` exactly when the comparison of `x` with `l` has
the value that the literal alone has as a condition. -/
theorem literal_first_iff (vm : VariableManager D) (l : Literal) (op : CompareOp) (name : Str) (v : VariableValue D)
    (holds : vm.lookup name = some v) (literalFirst variableFirst : Str)
    (first : Renders [l.token, .operator op.text, .identifier name] literalFirst)
    (second : Renders [.identifier name, .operator op.mirror.text, l.token] variableFirst) :
    evaluate vm literalFirst = evaluate vm variableFirst ↔ compare v op.mirror.text l.value = l.truth := by
  have compared : evaluate vm variableFirst = compare v op.mirror.text l.value :=
    second.evaluate_comparison holds (l.operandValue_token vm)
  have alone : evaluate vm literalFirst = l.truth := by
    have tokens := first.tokenize
    cases l with
    | number text => exact evaluate_number tokens
    | quoted text => exact evaluate_string tokens
  rw [compared, alone]
  exact eq_comm

/-! ## `5 < x` and `x > 5` -/

/-- A store in which `x` is 3. -/
def smallX : VariableManager FixedPoint := { localVars := OrdMap.empty.insert (lit "x") (.int 3) }

theorem spells_x : Spells (.identifier (lit "x")) (lit "x") :=
  .identifier ⟨⟨ch 'x', [], rfl, by decide, nofun⟩, by unfold Reserved; decide⟩

theorem spells_five : Spells (.number (lit "5")) (lit "5") := .number ⟨ch '5', [], rfl, by decide, nofun⟩

theorem literal_first_iff_sample :
    evaluate smallX (spaced (lit "5") (lit ">") (lit "x")) = evaluate smallX (spaced (lit "x") (lit "<") (lit "5")) :=
  (literal_first_iff smallX (.number (lit "5")) .gt (lit "x") (.int 3) rfl _ _
    (renders_spaced spells_five (.operator (by decide)) spells_x)
    (renders_spaced spells_x (.operator (by decide)) spells_five)).2 (by decide)

/-- The number in front is true by itself; the text in front is an unexpected token. -/
theorem literal_first_differs :
    evaluate smallX (lit "5 < x") = true ∧ evaluate smallX (lit "x > 5") = false ∧
      evaluate smallX (lit "'a' != x") = false ∧ evaluate smallX (lit "x != 'a'") = true := by
  decide

end Actuator.Constraint
