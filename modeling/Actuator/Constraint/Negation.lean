import Actuator.Constraint.WholeText
import Actuator.Constraint.LiteralFirst

/-!
# The two spellings of negation

The tokenizer makes an operator of a `!` that no `=` follows, and the parser
knows negation only as the words. So `!(E)` stands where a condition is expected
with a token no condition starts with: whatever E is and whatever surrounds it,
the parse throws, and the text is not satisfied.
-/

namespace Actuator.Constraint

open Actuator.Lib Actuator.Executor

/-! ## An operator where a condition is expected -/

/-- The parse throws. -/
def Throws {ε α : Type} (x : Except ε α) : Prop := ∃ e, x = .error e

theorem Throws.bind {ε α β : Type} {x : Except ε α} (throws : Throws x) (k : α → Except ε β) : Throws (x >>= k) := by
  obtain ⟨e, rfl⟩ := throws
  exact ⟨e, rfl⟩

theorem throws_bind {ε α β : Type} (x : Except ε α) {k : α → Except ε β} (throws : ∀ a, Throws (k a)) :
    Throws (x >>= k) := by
  cases x with
  | error e => exact ⟨e, rfl⟩
  | ok a => exact throws a

/-- Where the tokens `l`, `t`, `r` are cut in front of a `not`: inside `l`, or behind `t`. -/
theorem cut_at_not {t : Token} (other : t ≠ .not) {r back : List Token} :
    ∀ {l front : List Token}, l ++ t :: r = front ++ .not :: back →
      (∃ rest, l = front ++ .not :: rest) ∨ ∃ front', front = l ++ t :: front' ∧ r = front' ++ .not :: back
  | [], [], same => absurd (List.cons.inj same).1 other
  | [], _ :: front, same => by
    obtain ⟨rfl, rest⟩ := List.cons.inj same
    exact Or.inr ⟨front, rfl, rest⟩
  | _ :: l, [], same => by
    obtain ⟨rfl, -⟩ := List.cons.inj same
    exact Or.inl ⟨l, rfl⟩
  | _ :: l, _ :: front, same => by
    obtain ⟨rfl, later⟩ := List.cons.inj same
    rcases cut_at_not other later with ⟨rest, inside⟩ | ⟨front', behind, inside⟩
    · exact Or.inl ⟨rest, congrArg _ inside⟩
    · exact Or.inr ⟨front', congrArg _ behind, inside⟩

section

variable {D : Type} [CxxDouble D] (vm : VariableManager D)

/-- At no level at which the formula can be read does the parser get past an operator behind `front`. -/
structure Fails (f : Formula Atom) (front : List Token) : Prop where
  or : ∀ fuel op tail, 8 * (front ++ Token.operator op :: tail).length + 6 ≤ fuel →
    Throws (parseOrExpression vm fuel (front ++ Token.operator op :: tail))
  and : 1 ≤ f.prec → ∀ fuel op tail, 8 * (front ++ Token.operator op :: tail).length + 4 ≤ fuel →
    Throws (parseAndExpression vm fuel (front ++ Token.operator op :: tail))
  not : 2 ≤ f.prec → ∀ fuel op tail, 8 * (front ++ Token.operator op :: tail).length + 2 ≤ fuel →
    Throws (parseNotExpression vm fuel (front ++ Token.operator op :: tail))

variable {vm} {f : Formula Atom} {front : List Token}

theorem Fails.of_and (and : ∀ fuel op tail, 8 * (front ++ Token.operator op :: tail).length + 4 ≤ fuel →
      Throws (parseAndExpression vm fuel (front ++ Token.operator op :: tail))) :
    ∀ fuel op tail, 8 * (front ++ Token.operator op :: tail).length + 6 ≤ fuel →
      Throws (parseOrExpression vm fuel (front ++ Token.operator op :: tail)) := by
  intro fuel op tail enough
  obtain ⟨fuel, rfl⟩ := Nat.exists_eq_add_of_le' (show 1 ≤ fuel by omega)
  rw [parseOrExpression]
  exact (and fuel op tail (by omega)).bind _

theorem Fails.of_not (not : ∀ fuel op tail, 8 * (front ++ Token.operator op :: tail).length + 2 ≤ fuel →
      Throws (parseNotExpression vm fuel (front ++ Token.operator op :: tail))) : Fails vm f front := by
  have and : ∀ fuel op tail, 8 * (front ++ Token.operator op :: tail).length + 4 ≤ fuel →
      Throws (parseAndExpression vm fuel (front ++ Token.operator op :: tail)) := by
    intro fuel op tail enough
    obtain ⟨fuel, rfl⟩ := Nat.exists_eq_add_of_le' (show 1 ≤ fuel by omega)
    rw [parseAndExpression]
    exact (not fuel op tail (by omega)).bind _
  exact ⟨Fails.of_and and, fun _ => and, fun _ => not⟩

/-- The `not` of the formula itself. -/
theorem fails_here : Fails vm f [] := by
  apply Fails.of_not
  intro fuel op tail enough
  obtain ⟨fuel, rfl⟩ := Nat.exists_eq_add_of_le' (show 2 ≤ fuel by omega)
  exact ⟨_, rfl⟩

theorem Fails.group (inside : Fails vm f front) : Fails vm (.group f) (.lparen :: front) := by
  apply Fails.of_not
  intro fuel op tail enough
  obtain ⟨fuel, rfl⟩ := Nat.exists_eq_add_of_le' (show 2 ≤ fuel by omega)
  simp only [List.cons_append, List.length_cons] at enough
  have throws := inside.or fuel op tail (by omega)
  rw [List.cons_append, parseNotExpression, parsePrimary]
  · exact throws.bind _
  · intro ts same
    cases same

theorem Fails.under_not (inside : Fails vm f front) (tight : 2 ≤ f.prec) : Fails vm (.not f) (.not :: front) := by
  apply Fails.of_not
  intro fuel op tail enough
  obtain ⟨fuel, rfl⟩ := Nat.exists_eq_add_of_le' (show 1 ≤ fuel by omega)
  simp only [List.cons_append, List.length_cons] at enough
  rw [List.cons_append, parseNotExpression]
  exact (inside.not tight fuel op tail (by omega)).bind _

theorem Fails.right_of_and {l : Formula Atom} (reads : Reads vm l) (tightL : 1 ≤ l.prec) (inside : Fails vm f front)
    (tight : 2 ≤ f.prec) : Fails vm (.and l f) (l.toks ++ .and :: front) := by
  have and : ∀ fuel op tail, 8 * ((l.toks ++ Token.and :: front) ++ Token.operator op :: tail).length + 4 ≤ fuel →
      Throws (parseAndExpression vm fuel ((l.toks ++ Token.and :: front) ++ Token.operator op :: tail)) := by
    intro fuel op tail enough
    rw [List.append_assoc, List.cons_append] at enough ⊢
    obtain ⟨left, more, run⟩ := reads.and tightL fuel _ enough (fun _ _ _ _ same => by cases same)
    obtain ⟨left, rfl⟩ := Nat.exists_eq_add_of_le' (show 1 ≤ left by omega)
    simp only [List.length_cons] at more
    rw [run]
    apply throws_bind
    intro b
    rw [andLoop]
    exact (inside.not tight left op tail (by omega)).bind _
  exact ⟨Fails.of_and and, fun _ => and, fun tight => absurd tight (by simp [Formula.prec])⟩

theorem Fails.right_of_or {l : Formula Atom} (reads : Reads vm l) (inside : Fails vm f front) (tight : 1 ≤ f.prec) :
    Fails vm (.or l f) (l.toks ++ .or :: front) := by
  refine ⟨?_, fun tight => absurd tight (by simp [Formula.prec]), fun tight => absurd tight (by simp [Formula.prec])⟩
  intro fuel op tail enough
  rw [List.append_assoc, List.cons_append] at enough ⊢
  obtain ⟨left, more, run⟩ := reads.or fuel _ enough (fun _ _ _ _ same => by cases same) (fun _ same => by cases same)
  obtain ⟨left, rfl⟩ := Nat.exists_eq_add_of_le' (show 1 ≤ left by omega)
  simp only [List.length_cons] at more
  rw [run]
  apply throws_bind
  intro b
  rw [orLoop]
  exact (inside.and tight left op tail (by omega)).bind _

/-- An operator in place of any `not` of a formula makes the parse throw, by induction on the formula. -/
theorem fails_at_not {f : Formula Atom} (nested : f.Nested)
    (operands : ∀ name op right, Atom.comparison name op right ∈ f.atoms → right.IsOperand) {front back : List Token}
    (cut : f.toks = front ++ .not :: back) : Fails vm f front := by
  induction f generalizing front back with
  | atom a =>
    have mem : Token.not ∈ a.tokens := by
      rw [show a.tokens = front ++ .not :: back from cut]
      exact List.mem_append_right _ List.mem_cons_self
    cases a with
    | number text => simp [Atom.tokens] at mem
    | bare name => simp [Atom.tokens] at mem
    | comparison name op right =>
      have same : right = .not := by simpa [Atom.tokens, eq_comm] using mem
      have operand := operands name op right List.mem_cons_self
      rw [same] at operand
      rcases operand with ⟨v, other⟩ | ⟨v, other⟩ | ⟨v, other⟩ <;> cases other
  | group f ih =>
    cases front with
    | nil => cases cut
    | cons t front =>
      obtain ⟨rfl, later⟩ := List.cons.inj cut
      rcases cut_at_not (by decide) later with ⟨rest, inside⟩ | ⟨front', -, none⟩
      · exact (ih nested operands inside).group
      · simp at none
  | not f ih =>
    cases front with
    | nil => exact fails_here
    | cons t front =>
      obtain ⟨rfl, later⟩ := List.cons.inj cut
      exact (ih nested.1 operands later).under_not nested.2
  | and l r ihl ihr =>
    rcases cut_at_not (by decide) cut with ⟨rest, inside⟩ | ⟨front', rfl, inside⟩
    · have own := fun name op right mem => operands name op right (List.mem_append_left _ mem)
      have left := ihl nested.1 own inside
      exact ⟨left.or, fun _ => left.and nested.2.2.1, fun tight => absurd tight (by simp [Formula.prec])⟩
    · have own := fun name op right mem => operands name op right (List.mem_append_right _ mem)
      have right := ihr nested.2.1 own inside
      exact right.right_of_and (nested.1.reads vm) nested.2.2.1 nested.2.2.2
  | or l r ihl ihr =>
    rcases cut_at_not (by decide) cut with ⟨rest, inside⟩ | ⟨front', rfl, inside⟩
    · have own := fun name op right mem => operands name op right (List.mem_append_left _ mem)
      have left := ihl nested.1 own inside
      exact ⟨left.or, fun tight => absurd tight (by simp [Formula.prec]),
        fun tight => absurd tight (by simp [Formula.prec])⟩
    · have own := fun name op right mem => operands name op right (List.mem_append_right _ mem)
      have right := ihr nested.2.1 own inside
      exact right.right_of_or (nested.1.reads vm) nested.2.2

end

/-! ## The two texts -/

/-- `!(E)` inside a larger text. -/
def banged (front e back : Str) : Str := front ++ (lit "!(" ++ (e ++ lit ")" ++ back))

/-- `not (E)` at the same place. -/
def negated (front e back : Str) : Str := front ++ (lit "not (" ++ (e ++ lit ")" ++ back))

/-- The tokenizer cuts between the texts: no token reaches from one into the other. -/
def CutsBetween (front s : Str) : Prop := scanAll (front ++ s) = scanAll front ++ scanAll s

theorem CutsBetween.tokensOf {front s : Str} (cuts : CutsBetween front s) :
    tokensOf (front ++ s) = tokensOf front ++ tokensOf s := by
  unfold Constraint.tokensOf
  rw [show scanAll (front ++ s) = _ from cuts, List.filterMap_append]

theorem scanAll_boundary {c : UInt8} (boundary : IsBoundary c) (s : Str) :
    scanAll (c :: s) = scanAll [c] ++ scanAll s := by
  have piece : ∀ rest, scanPiece c rest = ((scanPiece c []).1, rest) := by
    intro rest
    rcases boundary with space | rfl | rfl
    · unfold scanPiece
      rw [if_pos space, if_pos space]
    · rfl
    · rfl
  rw [scanAll_cons, piece, scanAll_cons, piece]
  rfl

/-- Behind white space or a parenthesis the tokenizer cuts, if nothing is left open in front. -/
theorem cutsBetween_of_boundary {body : Str} {c : UInt8} (boundary : IsBoundary c) (nothing : NothingSkipped body)
    (s : Str) : CutsBetween (body ++ [c]) s := by
  have starts : ∀ rest, StartsApart (c :: rest) := fun rest b first => by cases first; exact boundary
  have whole : body ++ [c] ++ s = body ++ c :: s := by simp
  unfold CutsBetween
  rw [whole, scanAll_append (starts s) (Or.inl nothing), scanAll_boundary boundary,
    scanAll_append (starts []) (Or.inl nothing), List.append_assoc]

theorem tokensOf_bang (s : Str) : tokensOf (lit "!(" ++ s) = .operator (lit "!") :: .lparen :: tokensOf s := by
  show tokensOf (ch '!' :: ch '(' :: s) = _
  unfold tokensOf
  rw [scanAll_cons,
    show scanPiece (ch '!') (ch '(' :: s) = (.lexeme (lit "!") (.operator (lit "!")), ch '(' :: s) from rfl,
    scanAll_cons, show scanPiece (ch '(') s = (.lexeme (lit "(") .lparen, s) from rfl]
  rfl

theorem tokensOf_notWord (s : Str) : tokensOf (lit "not (" ++ s) = .not :: .lparen :: tokensOf s := by
  show tokensOf (ch 'n' :: (lit "ot (" ++ s)) = _
  unfold tokensOf
  rw [scanAll_cons,
    show scanPiece (ch 'n') (lit "ot (" ++ s) = (.lexeme (lit "not") .not, ch ' ' :: ch '(' :: s) from rfl,
    scanAll_cons, show scanPiece (ch ' ') (ch '(' :: s) = (.blank (ch ' '), ch '(' :: s) from rfl,
    scanAll_cons, show scanPiece (ch '(') s = (.lexeme (lit "(") .lparen, s) from rfl]
  rfl

section

variable {D : Type} [CxxDouble D] (vm : VariableManager D)

/-- Nothing that starts with `!(` is satisfied. -/
theorem evaluate_bang (e : Str) : evaluate vm (banged [] e []) = false := by
  rw [evaluate_eq_verdict, tokenize_eq, banged, List.nil_append, tokensOf_bang]
  rfl

/-- With `!` in place of a `not`, a complete condition is not satisfied, whatever it was. -/
theorem evaluate_banged {front e back : Str} (cutsBang : CutsBetween front (lit "!(" ++ (e ++ lit ")" ++ back)))
    (cutsNot : CutsBetween front (lit "not (" ++ (e ++ lit ")" ++ back))) (complete : Complete (negated front e back)) :
    evaluate vm (banged front e back) = false := by
  obtain ⟨-, f, nested, tokens, operands⟩ := complete
  rw [tokenize_eq, negated, cutsNot.tokensOf, tokensOf_notWord, List.append_assoc, List.cons_append] at tokens
  rcases cut_at_not (by decide) tokens.symm with ⟨rest, cut⟩ | ⟨front', -, none⟩
  · have fails : Fails vm f _ := fails_at_not nested operands cut
    obtain ⟨e, throws⟩ := fails.or _ (lit "!") _ (le_refl _)
    rw [evaluate_eq_verdict, tokenize_eq, banged, cutsBang.tokensOf, tokensOf_bang, List.append_assoc,
      List.cons_append, parseExpression, throws]
    rfl
  · simp at none

/-- `!(E)` is satisfied exactly when E is not, if and only if a true condition leads
E. Inside a complete condition it gives the result of `not (E)` exactly when that
condition is not true. -/
theorem bang_agrees_iff :
    (∀ e, ((evaluateDetailed vm (banged [] e [])).satisfied = true ↔ ¬(evaluateDetailed vm e).satisfied = true) ↔
      LeadingTrue vm e) ∧
    ∀ front e back, CutsBetween front (lit "!(" ++ (e ++ lit ")" ++ back)) →
      CutsBetween front (lit "not (" ++ (e ++ lit ")" ++ back)) → Complete (negated front e back) →
      ((evaluateDetailed vm (banged front e back)).satisfied = (evaluateDetailed vm (negated front e back)).satisfied ↔
        ¬LeadingTrue vm (negated front e back)) := by
  constructor
  · intro e
    have never : ¬(evaluateDetailed vm (banged [] e [])).satisfied = true := by
      rw [show (evaluateDetailed vm (banged [] e [])).satisfied = false from evaluate_bang vm e]
      decide
    rw [iff_false_left never, not_not]
    exact satisfied_iff vm e
  · intro front e back cutsBang cutsNot complete
    have never : (evaluateDetailed vm (banged front e back)).satisfied = false :=
      evaluate_banged vm cutsBang cutsNot complete
    rw [never, ← satisfied_iff, Bool.not_eq_true]
    exact eq_comm

end

/-! ## `!(x == 1)` with `x` not 1 -/

/-- Whether the piece is not a skipped character. -/
def Piece.isKept : Piece → Bool
  | dropped _ => false
  | _ => true

theorem not_dropped_of_all {ps : List Piece} (kept : ps.all Piece.isKept = true) : ∀ p ∈ ps, ∀ c, p ≠ .dropped c := by
  intro p mem c same
  have here := List.all_eq_true.1 kept p mem
  rw [same] at here
  cases here

/-- The condition negated, alone and behind another one. -/
theorem bang_agrees_iff_sample :
    ((evaluateDetailed smallX (banged [] (lit "x == 3") [])).satisfied = true ↔
      ¬(evaluateDetailed smallX (lit "x == 3")).satisfied = true) ∧
    (evaluateDetailed smallX (banged (lit "x == 3 and ") (lit "x < 5") [])).satisfied =
      (evaluateDetailed smallX (negated (lit "x == 3 and ") (lit "x < 5") [])).satisfied := by
  obtain ⟨alone, inside⟩ := bang_agrees_iff smallX
  have complete : Complete (negated (lit "x == 3 and ") (lit "x < 5") []) := by
    refine ⟨not_dropped_of_all rfl, .and (.atom (.comparison (lit "x") (lit "==") (.number (lit "3"))))
      (.not (.group (.atom (.comparison (lit "x") (lit "<") (.number (lit "5")))))), ⟨trivial, ⟨trivial, by decide⟩,
      by decide, by decide⟩, rfl, ?_⟩
    intro name op right mem
    simp only [Formula.atoms, List.cons_append, List.nil_append, List.mem_cons, List.not_mem_nil, or_false,
      Atom.comparison.injEq] at mem
    rcases mem with ⟨-, -, rfl⟩ | ⟨-, -, rfl⟩
    · exact Or.inl ⟨_, rfl⟩
    · exact Or.inl ⟨_, rfl⟩
  refine ⟨(alone (lit "x == 3")).2 ((satisfied_iff smallX _).1 rfl), ?_⟩
  have cuts : ∀ s, CutsBetween (lit "x == 3 and" ++ [ch ' ']) s :=
    cutsBetween_of_boundary (Or.inl rfl) (not_dropped_of_all rfl)
  refine (inside _ _ _ (cuts _) (cuts _) complete).2 fun leading => ?_
  cases (satisfied_iff smallX _).2 leading

/-- `x == 1` is false, and so is its negation written with `!`. -/
theorem bang_differs :
    (evaluateDetailed smallX (lit "x == 1")).satisfied = false ∧
      (evaluateDetailed smallX (lit "!(x == 1)")).satisfied = false ∧
      (evaluateDetailed smallX (lit "not (x == 1)")).satisfied = true := by
  decide

end Actuator.Constraint
