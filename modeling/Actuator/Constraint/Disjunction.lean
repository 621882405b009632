import Actuator.Constraint.Negation

/-!
# A disjunction and its right side

Evaluation is fused with parsing, so the right side of `||` is evaluated even
when the left side decides, and an error in it ends the whole evaluation. So a
disjunction with a true left side is true exactly when every atom of the right
side has what it looks up.
-/

namespace Actuator.Constraint

open Actuator.Lib Actuator.Executor

/-! ## Formulas that have a value -/

/-- A formula has a value when each of its atoms has, the deciding ones and the others. -/
theorem Formula.run_ok_iff {A ε : Type} {truth : A → Except ε Bool} (f : Formula A) :
    (∃ b, f.run truth = .ok b) ↔ ∀ a ∈ f.atoms, ∃ b, truth a = .ok b := by
  induction f with
  | atom a => exact ⟨fun value b mem => by rwa [List.mem_singleton.1 mem], fun all => all a List.mem_cons_self⟩
  | group f ih => exact ih
  | not f ih =>
    refine Iff.trans ?_ ih
    constructor
    · rintro ⟨b, run⟩
      obtain ⟨a, value, -⟩ := except_bind_eq_ok run
      exact ⟨a, value⟩
    · rintro ⟨a, value⟩
      exact ⟨!a, by rw [Formula.run, value]; rfl⟩
  | and l r ihl ihr =>
    rw [Formula.atoms, List.forall_mem_append, ← ihl, ← ihr]
    constructor
    · rintro ⟨b, run⟩
      obtain ⟨x, left, later⟩ := except_bind_eq_ok run
      obtain ⟨y, right, -⟩ := except_bind_eq_ok later
      exact ⟨⟨x, left⟩, y, right⟩
    · rintro ⟨⟨x, left⟩, y, right⟩
      exact ⟨x && y, by rw [Formula.run, left, right]; rfl⟩
  | or l r ihl ihr =>
    rw [Formula.atoms, List.forall_mem_append, ← ihl, ← ihr]
    constructor
    · rintro ⟨b, run⟩
      obtain ⟨x, left, later⟩ := except_bind_eq_ok run
      obtain ⟨y, right, -⟩ := except_bind_eq_ok later
      exact ⟨⟨x, left⟩, y, right⟩
    · rintro ⟨⟨x, left⟩, y, right⟩
      exact ⟨x || y, by rw [Formula.run, left, right]; rfl⟩

section

variable {D : Type} (vm : VariableManager D)

/-! ## Atoms that have a value -/

/-- What an atom looks up is there: a variable by itself has a value that converts to a truth value, and the variables
of a comparison exist. -/
def Atom.Defined : Atom → Prop
  | number _ => True
  | bare name => ∃ v b, vm.lookup name = some v ∧ v.asBool = .ok b
  | comparison name _ right =>
    (vm.lookup name).isSome = true ∧ ∀ other, right = .identifier other → (vm.lookup other).isSome = true

/-- The text is a condition of which every atom is defined. -/
def DefinedIn (expr : Str) : Prop :=
  ∃ f : Formula Atom, f.Nested ∧ tokenize expr = f.toks ++ [.eof] ∧ ∀ a ∈ f.atoms, a.Defined vm

theorem throwing_ok_iff {α : Type} {x : Except Exn α} : (∃ a, throwing x = .ok a) ↔ ∃ a, x = .ok a := by
  cases x <;> simp [throwing]

theorem bareValue_ok_iff (name : Str) : (∃ b, bareValue vm name = .ok b) ↔ (Atom.bare name).Defined vm := by
  unfold bareValue
  rw [VariableManager.exists?_eq]
  constructor
  · rintro ⟨b, value⟩
    split at value
    · obtain ⟨v, got, truth⟩ := except_bind_eq_ok value
      exact ⟨v, b, (vm.get_ok_iff name v).1 got, truth⟩
    · cases value
  · rintro ⟨v, b, found, truth⟩
    refine ⟨b, ?_⟩
    rw [if_pos (by rw [found]; rfl), (vm.get_ok_iff name v).2 found]
    exact truth

variable [CxxDouble D]

/-- The right-hand side of a comparison has a value unless it is a variable that does not exist. -/
theorem operandValue_ok_iff (right : Token) :
    (∃ v, operandValue vm right = .ok v) ↔ ∀ other, right = .identifier other → (vm.lookup other).isSome = true := by
  cases right with
  | identifier name =>
    simp only [operandValue, VariableManager.exists?_eq, Token.identifier.injEq, forall_eq']
    constructor
    · rintro ⟨v, value⟩
      split at value
      · assumption
      · cases value
    · intro exists_
      obtain ⟨v, found⟩ := Option.isSome_iff_exists.1 exists_
      exact ⟨v, by rw [if_pos exists_, (vm.get_ok_iff name v).2 found]⟩
  | number text =>
    refine iff_of_true ?_ (by simp)
    simp only [operandValue]
    split <;> split <;> exact ⟨_, rfl⟩
  | _ => exact iff_of_true ⟨_, rfl⟩ (by simp)

theorem comparisonValue_ok_iff (name op : Str) (right : Token) :
    (∃ b, comparisonValue vm name op right = .ok b) ↔ (Atom.comparison name op right).Defined vm := by
  unfold comparisonValue
  show _ ↔ (vm.lookup name).isSome = true ∧ ∀ other, right = .identifier other → (vm.lookup other).isSome = true
  rw [← operandValue_ok_iff, VariableManager.exists?_eq]
  constructor
  · rintro ⟨b, value⟩
    obtain ⟨r, operand, later⟩ := except_bind_eq_ok value
    split at later
    · exact ⟨by assumption, r, operand⟩
    · cases later
  · rintro ⟨exists_, r, operand⟩
    obtain ⟨v, found⟩ := Option.isSome_iff_exists.1 exists_
    refine ⟨compare v op r, ?_⟩
    rw [operand]
    show (if (vm.lookup name).isSome = true then vm.get name >>= fun v => Except.ok (compare v op r) else _) = _
    rw [if_pos exists_, (vm.get_ok_iff name v).2 found]
    rfl

theorem Atom.truth_ok_iff (a : Atom) : (∃ b, a.truth vm = .ok b) ↔ a.Defined vm := by
  cases a with
  | number text => exact ⟨fun _ => trivial, fun _ => ⟨_, rfl⟩⟩
  | bare name => exact throwing_ok_iff.trans (bareValue_ok_iff vm name)
  | comparison name op right => exact throwing_ok_iff.trans (comparisonValue_ok_iff vm name op right)

/-- A formula over the parser's atoms has a value exactly when each atom is defined. -/
theorem Formula.value_ok_iff (f : Formula Atom) : (∃ b, f.value vm = .ok b) ↔ ∀ a ∈ f.atoms, a.Defined vm := by
  rw [Formula.run_ok_iff]
  exact forall₂_congr fun a _ => a.truth_ok_iff vm

/-! ## The text of a disjunction -/

/-- `(L) || (R)`. -/
def disjunction (l r : Str) : Str := lit "(" ++ (l ++ (lit ") || (" ++ (r ++ lit ")")))

theorem tokensOf_parenthesised {s tail : Str} (kept : NothingDropped s) :
    tokensOf (ch '(' :: (s ++ ch ')' :: tail)) = .lparen :: (tokensOf s ++ .rparen :: tokensOf tail) := by
  have apart : StartsApart (ch ')' :: tail) := fun c first => by cases first; exact Or.inr (Or.inr rfl)
  rw [tokensOf_cons (show scanPiece (ch '(') (s ++ ch ')' :: tail) = (.lexeme (lit "(") .lparen, _) from rfl),
    tokensOf_append apart (Or.inl (nothingSkipped_of_scan kept)),
    tokensOf_cons (show scanPiece (ch ')') tail = (.lexeme (lit ")") .rparen, tail) from rfl)]

/-- The tokens of a disjunction are those of its sides, each in parentheses. -/
theorem tokenize_disjunction {l r : Str} (keptL : NothingDropped l) (keptR : NothingDropped r) {f g : Formula Atom}
    (left : tokenize l = f.toks ++ [.eof]) (right : tokenize r = g.toks ++ [.eof]) :
    tokenize (disjunction l r) = (Formula.or (.group f) (.group g)).toks ++ [.eof] := by
  rw [tokenize_eq] at left right
  have sideL := List.append_cancel_right left
  have sideR := List.append_cancel_right right
  have between : tokensOf (lit " || (" ++ (r ++ lit ")")) = .or :: tokensOf (lit "(" ++ (r ++ lit ")")) := by
    show tokensOf (ch ' ' :: ch '|' :: ch '|' :: ch ' ' :: _) = _
    unfold tokensOf
    rw [scanAll_cons, show scanPiece (ch ' ') (ch '|' :: ch '|' :: ch ' ' :: _) = (.blank (ch ' '), _) from rfl,
      scanAll_cons, show scanPiece (ch '|') (ch '|' :: ch ' ' :: _) = (.lexeme (lit "||") .or, ch ' ' :: _) from rfl,
      scanAll_cons, show scanPiece (ch ' ') _ = (.blank (ch ' '), _) from rfl]
    rfl
  have whole : tokensOf (disjunction l r) = .lparen :: (f.toks ++ .rparen :: .or :: .lparen :: (g.toks ++ [.rparen])) := by
    show tokensOf (ch '(' :: (l ++ ch ')' :: (lit " || (" ++ (r ++ lit ")")))) = _
    rw [tokensOf_parenthesised keptL, between]
    show Token.lparen :: (tokensOf l ++ .rparen :: .or :: tokensOf (ch '(' :: (r ++ ch ')' :: []))) = _
    rw [tokensOf_parenthesised keptR, sideL, sideR]
    rfl
  rw [tokenize_eq, whole]
  simp [Formula.toks, Formula.tokens]

/-! ## Its evaluation -/

/-- With a true left side, a disjunction of two complete conditions is true exactly when its right side is defined. -/
theorem disjunction_satisfied_iff {l r : Str} (completeL : Complete l) (completeR : Complete r)
    (satisfied : evaluate vm l = true) : evaluate vm (disjunction l r) = true ↔ DefinedIn vm r := by
  obtain ⟨keptL, f, nestedL, left, -⟩ := completeL
  obtain ⟨keptR, g, nestedR, right, -⟩ := completeR
  have leadsL := leads_eof nestedL left
  have valueL : f.value vm = .ok true := by
    rw [evaluate_eq_verdict, leadsL.parseExpression] at satisfied
    cases value : f.value vm with
    | error e =>
      rw [value] at satisfied
      cases satisfied
    | ok b =>
      rw [value] at satisfied
      exact congrArg _ satisfied
  have evaluated : ∀ g : Formula Atom, g.Nested → tokenize r = g.toks ++ [.eof] →
      (evaluate vm (disjunction l r) = true ↔ ∀ a ∈ g.atoms, a.Defined vm) := by
    intro g nestedR right
    have nested : (Formula.or (.group f) (.group g)).Nested := ⟨nestedL, nestedR, by simp [Formula.prec]⟩
    have leads := leads_eof nested (tokenize_disjunction keptL keptR left right)
    rw [evaluate_eq_verdict, leads.parseExpression, ← Formula.value_ok_iff]
    show verdict ((f.value vm >>= fun a => g.value vm >>= fun b => Except.ok (a || b)).map _) = true ↔ _
    rw [valueL]
    cases g.value vm with
    | error e => simp [Bind.bind, Except.bind, Except.map, verdict]
    | ok b => simp [Bind.bind, Except.bind, Except.map, verdict]
  constructor
  · intro true_
    exact ⟨g, nestedR, right, (evaluated g nestedR right).1 true_⟩
  · rintro ⟨g, nestedR, right, defined⟩
    exact (evaluated g nestedR right).2 defined

end

/-! ## Two comparisons -/

theorem complete_comparison {expr name op : Str} {right : Token} (kept : (scan expr).all Piece.isKept = true)
    (tokens : tokenize expr = [.identifier name, .operator op, right, .eof]) (operand : right.IsOperand) :
    Complete expr := by
  refine ⟨not_dropped_of_all kept, .atom (.comparison name op right), trivial, tokens, ?_⟩
  intro name' op' right' mem
  cases List.mem_singleton.1 mem
  exact operand

theorem disjunction_satisfied_iff_sample :
    evaluate smallX (disjunction (lit "x == 3") (lit "x == 4")) = true ↔ DefinedIn smallX (lit "x == 4") :=
  disjunction_satisfied_iff smallX (complete_comparison rfl rfl (Or.inl ⟨_, rfl⟩))
    (complete_comparison rfl rfl (Or.inl ⟨_, rfl⟩)) rfl

/-- `x == 3` is true, and `(x == 3) || (y == 2)` is not, when there is no `y`. -/
theorem disjunction_missing :
    Complete (lit "x == 3") ∧ Complete (lit "y == 2") ∧ evaluate smallX (lit "x == 3") = true ∧
      evaluate smallX (disjunction (lit "x == 3") (lit "y == 2")) = false :=
  ⟨complete_comparison rfl rfl (Or.inl ⟨_, rfl⟩), complete_comparison rfl rfl (Or.inl ⟨_, rfl⟩), rfl, rfl⟩

end Actuator.Constraint
