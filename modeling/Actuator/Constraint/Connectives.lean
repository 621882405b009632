import Actuator.Constraint.Disjunction

/-!
# Two conditions in one text

`(L) && (R)` and `(L) || (R)` are complete conditions when L and R are, and are
defined when both sides are. The conjunction is true exactly when both sides are,
in every store. For the disjunction both sides must be defined besides
(`evaluate_or`): an error in one side ends the evaluation.
-/

namespace Actuator.Constraint

open Actuator.Lib Actuator.Executor

/-- What the tokenizer skips in the trimmed text it skips in the text. -/
theorem nothingDropped_of_skipped {expr : Str} (kept : NothingSkipped expr) : NothingDropped expr := by
  obtain ⟨front, behind, pieces⟩ := scanAll_trim expr
  intro p mem
  refine kept p ?_
  rw [pieces]
  exact List.mem_append_left _ (List.mem_append_right _ mem)

/-! ## Conditions with a value -/

section

variable {D : Type} [CxxDouble D] (vm : VariableManager D)

/-- The formula of a complete condition decides what the evaluator reports and what is defined. -/
theorem formula_decides {expr : Str} {f : Formula Atom} (nested : f.Nested) (tokens : tokenize expr = f.toks ++ [.eof]) :
    (evaluate vm expr = true ↔ f.value vm = .ok true) ∧ (DefinedIn vm expr ↔ ∃ b, f.value vm = .ok b) := by
  have leads := leads_eof nested tokens
  constructor
  · rw [evaluate_eq_verdict, leads.parseExpression]
    cases f.value vm with
    | error e => exact iff_of_false (fun satisfied => by cases satisfied) (fun value => by cases value)
    | ok b => exact ⟨fun satisfied => congrArg _ satisfied, fun value => Except.ok.inj value⟩
  · constructor
    · rintro ⟨g, nestedG, tokensG, defined⟩
      obtain ⟨b, value⟩ := (g.value_ok_iff vm).2 defined
      have same := leads.parseExpression vm
      rw [(leads_eof nestedG tokensG).parseExpression, value] at same
      cases own : f.value vm with
      | error e =>
        rw [own] at same
        cases same
      | ok b => exact ⟨b, rfl⟩
    · intro value
      exact ⟨f, nested, tokens, (f.value_ok_iff vm).1 value⟩

end

/-! ## The two connectives -/

/-- A way to put two conditions into one. -/
inductive Connective where
  | and
  | or
deriving DecidableEq

namespace Connective

def text : Connective → Str
  | and => lit "&&"
  | or => lit "||"

def token : Connective → Token
  | and => .and
  | or => .or

/-- What no condition at all stands for: the literal that changes nothing beside another condition. -/
def unit : Connective → Str
  | and => lit "true"
  | or => lit "false"

/-- `(L) && (R)` or `(L) || (R)`. -/
def join (c : Connective) (l r : Str) : Str := lit "(" ++ (l ++ (lit ") " ++ c.text ++ lit " (" ++ (r ++ lit ")")))

def formula (c : Connective) (f g : Formula Atom) : Formula Atom :=
  match c with
  | and => .and (.group f) (.group g)
  | or => .or (.group f) (.group g)

variable {c : Connective} {f g : Formula Atom}

theorem nested_formula (nestedL : f.Nested) (nestedR : g.Nested) : (c.formula f g).Nested := by
  cases c with
  | and => exact ⟨nestedL, nestedR, by simp [Formula.prec], by simp [Formula.prec]⟩
  | or => exact ⟨nestedL, nestedR, by simp [Formula.prec]⟩

theorem toks_formula (c : Connective) (f g : Formula Atom) :
    (c.formula f g).toks = .lparen :: (f.toks ++ .rparen :: c.token :: .lparen :: (g.toks ++ [.rparen])) := by
  cases c <;> simp [formula, token, Formula.toks, Formula.tokens]

theorem atoms_formula (c : Connective) (f g : Formula Atom) : (c.formula f g).atoms = f.atoms ++ g.atoms := by
  cases c <;> rfl

/-! ## The text of both sides -/

/-- The tokenizer takes a joined text apart where it was put together. -/
theorem scanAll_join (c : Connective) {l r : Str} (keptL : NothingSkipped l) (keptR : NothingSkipped r) :
    scanAll (c.join l r) = .lexeme (lit "(") .lparen :: (scanAll l ++ .lexeme (lit ")") .rparen :: .blank (ch ' ') ::
      .lexeme c.text c.token :: .blank (ch ' ') :: .lexeme (lit "(") .lparen ::
        (scanAll r ++ [.lexeme (lit ")") .rparen])) := by
  have starts : ∀ tail, StartsApart (ch ')' :: tail) := fun tail b first => by cases first; exact Or.inr (Or.inr rfl)
  have opens : ∀ tail, scanAll (ch '(' :: tail) = .lexeme (lit "(") .lparen :: scanAll tail := fun tail => by
    rw [scanAll_cons, show scanPiece (ch '(') tail = (.lexeme (lit "(") .lparen, tail) from rfl]
  have closes : ∀ tail, scanAll (ch ')' :: tail) = .lexeme (lit ")") .rparen :: scanAll tail := fun tail => by
    rw [scanAll_cons, show scanPiece (ch ')') tail = (.lexeme (lit ")") .rparen, tail) from rfl]
  have blank : ∀ tail, scanAll (ch ' ' :: tail) = .blank (ch ' ') :: scanAll tail := fun tail => by
    rw [scanAll_cons, show scanPiece (ch ' ') tail = (.blank (ch ' '), tail) from rfl]
  have operator : ∀ tail, scanAll (c.text ++ ch ' ' :: tail) = .lexeme c.text c.token :: scanAll (ch ' ' :: tail) := by
    intro tail
    cases c with
    | and =>
      show scanAll (ch '&' :: ch '&' :: ch ' ' :: tail) = _
      rw [scanAll_cons, show scanPiece (ch '&') (ch '&' :: ch ' ' :: tail) = (.lexeme (lit "&&") .and, _) from rfl]
      rfl
    | or =>
      show scanAll (ch '|' :: ch '|' :: ch ' ' :: tail) = _
      rw [scanAll_cons, show scanPiece (ch '|') (ch '|' :: ch ' ' :: tail) = (.lexeme (lit "||") .or, _) from rfl]
      rfl
  have whole : c.join l r =
      ch '(' :: (l ++ ch ')' :: ch ' ' :: (c.text ++ ch ' ' :: ch '(' :: (r ++ ch ')' :: []))) := by
    unfold join
    rw [List.append_assoc, List.append_assoc]
    rfl
  rw [whole, opens, scanAll_append (starts _) (Or.inl keptL), closes, blank, operator, blank, opens,
    scanAll_append (starts _) (Or.inl keptR), closes, scanAll_nil]

theorem nothingSkipped_join {l r : Str} (keptL : NothingSkipped l) (keptR : NothingSkipped r) :
    NothingSkipped (c.join l r) := by
  intro p mem d same
  rw [scanAll_join c keptL keptR, same] at mem
  simp only [List.mem_cons, List.mem_append, List.not_mem_nil, or_false, reduceCtorEq, false_or] at mem
  rcases mem with mem | mem
  · exact keptL _ mem d rfl
  · exact keptR _ mem d rfl

/-- The tokens of a joined text are those of its sides, each in parentheses. -/
theorem tokenize_join (c : Connective) {l r : Str} (keptL : NothingSkipped l) (keptR : NothingSkipped r)
    (left : tokenize l = f.toks ++ [.eof]) (right : tokenize r = g.toks ++ [.eof]) :
    tokenize (c.join l r) = (c.formula f g).toks ++ [.eof] := by
  rw [tokenize_eq] at left right
  have sideL := List.append_cancel_right left
  have sideR := List.append_cancel_right right
  unfold tokensOf at sideL sideR
  rw [tokenize_eq, toks_formula, ← sideL, ← sideR]
  unfold tokensOf
  rw [scanAll_join c keptL keptR, List.filterMap_cons, List.filterMap_append]
  simp [List.filterMap_cons, List.filterMap_append, Piece.token?]

theorem complete_join (c : Connective) {l r : Str} (completeL : Complete l) (completeR : Complete r) :
    Complete (c.join l r) := by
  obtain ⟨keptL, f, nestedL, left, operandsL⟩ := completeL
  obtain ⟨keptR, g, nestedR, right, operandsR⟩ := completeR
  have skipsL := nothingSkipped_of_scan keptL
  have skipsR := nothingSkipped_of_scan keptR
  refine ⟨nothingDropped_of_skipped (nothingSkipped_join skipsL skipsR), c.formula f g, nested_formula nestedL nestedR,
    tokenize_join c skipsL skipsR left right, ?_⟩
  intro name op token mem
  rw [atoms_formula] at mem
  rcases List.mem_append.1 mem with mem | mem
  · exact operandsL name op token mem
  · exact operandsR name op token mem

/-! ## What a joined text says -/

section

variable {D : Type} [CxxDouble D] (vm : VariableManager D)

theorem value_formula (c : Connective) (f g : Formula Atom) :
    (c.formula f g).value vm = f.value vm >>= fun a => g.value vm >>= fun b =>
      .ok (match c with | and => a && b | or => a || b) := by
  cases c <;> rfl

/-- A joined text is defined exactly when both sides are. -/
theorem definedIn_join (c : Connective) {l r : Str} (completeL : Complete l) (completeR : Complete r) :
    DefinedIn vm (c.join l r) ↔ DefinedIn vm l ∧ DefinedIn vm r := by
  obtain ⟨keptL, f, nestedL, left, -⟩ := completeL
  obtain ⟨keptR, g, nestedR, right, -⟩ := completeR
  have tokens := tokenize_join c (nothingSkipped_of_scan keptL) (nothingSkipped_of_scan keptR) left right
  rw [(formula_decides vm (nested_formula nestedL nestedR) tokens).2, (formula_decides vm nestedL left).2,
    (formula_decides vm nestedR right).2, value_formula]
  cases f.value vm with
  | error e => simp [Bind.bind, Except.bind]
  | ok a =>
    cases g.value vm with
    | error e => simp [Bind.bind, Except.bind]
    | ok b => simp [Bind.bind, Except.bind]

/-- A conjunction is true exactly when both sides are. -/
theorem evaluate_and {l r : Str} (completeL : Complete l) (completeR : Complete r) :
    evaluate vm (and.join l r) = true ↔ evaluate vm l = true ∧ evaluate vm r = true := by
  obtain ⟨keptL, f, nestedL, left, -⟩ := completeL
  obtain ⟨keptR, g, nestedR, right, -⟩ := completeR
  have tokens := tokenize_join and (nothingSkipped_of_scan keptL) (nothingSkipped_of_scan keptR) left right
  rw [(formula_decides vm (nested_formula nestedL nestedR) tokens).1, (formula_decides vm nestedL left).1,
    (formula_decides vm nestedR right).1, value_formula]
  cases f.value vm with
  | error e => simp [Bind.bind, Except.bind]
  | ok a =>
    cases g.value vm with
    | error e => simp [Bind.bind, Except.bind]
    | ok b => simp [Bind.bind, Except.bind]

/-- A disjunction is true exactly when a side is and both are defined. -/
theorem evaluate_or {l r : Str} (completeL : Complete l) (completeR : Complete r) :
    evaluate vm (or.join l r) = true ↔
      (evaluate vm l = true ∨ evaluate vm r = true) ∧ DefinedIn vm l ∧ DefinedIn vm r := by
  obtain ⟨keptL, f, nestedL, left, -⟩ := completeL
  obtain ⟨keptR, g, nestedR, right, -⟩ := completeR
  have tokens := tokenize_join or (nothingSkipped_of_scan keptL) (nothingSkipped_of_scan keptR) left right
  obtain ⟨trueL, definedL⟩ := formula_decides vm nestedL left
  obtain ⟨trueR, definedR⟩ := formula_decides vm nestedR right
  rw [(formula_decides vm (nested_formula nestedL nestedR) tokens).1, trueL, trueR, definedL, definedR, value_formula]
  cases f.value vm with
  | error e => simp [Bind.bind, Except.bind]
  | ok a =>
    cases g.value vm with
    | error e => simp [Bind.bind, Except.bind]
    | ok b => simp [Bind.bind, Except.bind]

end

/-! ## No condition at all -/

theorem complete_unit (c : Connective) : Complete c.unit := by
  cases c with
  | and => exact ⟨not_dropped_of_all rfl, .atom (.number (lit "1")), trivial, rfl, by simp [Formula.atoms]⟩
  | or => exact ⟨not_dropped_of_all rfl, .atom (.number (lit "0")), trivial, rfl, by simp [Formula.atoms]⟩

theorem evaluate_unit {D : Type} [CxxDouble D] (vm : VariableManager D) (c : Connective) :
    evaluate vm c.unit = true ↔ c = and := by
  cases c with
  | and => exact iff_of_true rfl rfl
  | or => exact iff_of_false (fun satisfied => by cases satisfied) (fun same => by cases same)

theorem definedIn_unit {D : Type} [CxxDouble D] (vm : VariableManager D) (c : Connective) : DefinedIn vm c.unit := by
  cases c with
  | and => exact ⟨.atom (.number (lit "1")), trivial, rfl, by simp [Formula.atoms, Atom.Defined]⟩
  | or => exact ⟨.atom (.number (lit "0")), trivial, rfl, by simp [Formula.atoms, Atom.Defined]⟩

end Connective

end Actuator.Constraint
