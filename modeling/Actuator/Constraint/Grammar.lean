import Actuator.Constraint.Evaluator
import Actuator.Lib.Effect

/-!
# The grammar of conditions

A `Formula` is a condition as it is written, parentheses included. `Nested`
says that its shape is the one operator precedence gives to its tokens: `!`
over `&&` over `||`, the binary operators grouping to the left. The parser
accepts a list of tokens exactly when the tokens of a nested formula lead it,
stops behind them, and returns the value of that formula.
-/

namespace Actuator.Constraint

open Actuator.Lib Actuator.Executor

/-! ## Formulas -/

/-- A written condition over atoms of type `A`. -/
inductive Formula (A : Type) where
  | atom (a : A)
  | group (f : Formula A)
  | not (f : Formula A)
  | and (l r : Formula A)
  | or (l r : Formula A)

namespace Formula

variable {A B : Type}

/-- How tightly the outermost operator binds. -/
def prec : Formula A → Nat
  | atom _ => 3
  | group _ => 3
  | not _ => 2
  | and _ _ => 1
  | or _ _ => 0

/-- Every operand binds at least as tightly as its place requires. -/
def Nested : Formula A → Prop
  | atom _ => True
  | group f => f.Nested
  | not f => f.Nested ∧ 2 ≤ f.prec
  | and l r => l.Nested ∧ r.Nested ∧ 1 ≤ l.prec ∧ 2 ≤ r.prec
  | or l r => l.Nested ∧ r.Nested ∧ 1 ≤ r.prec

/-- The tokens of a formula, given those of its atoms. -/
def tokens (spell : A → List Token) : Formula A → List Token
  | atom a => spell a
  | group f => .lparen :: f.tokens spell ++ [.rparen]
  | not f => .not :: f.tokens spell
  | and l r => l.tokens spell ++ .and :: r.tokens spell
  | or l r => l.tokens spell ++ .or :: r.tokens spell

/-- The value of a formula whose atoms may fail. Both operands are always evaluated, left to right. -/
def run {ε : Type} (truth : A → Except ε Bool) : Formula A → Except ε Bool
  | atom a => truth a
  | group f => f.run truth
  | not f => do return !(← f.run truth)
  | and l r => do
    let a ← l.run truth
    let b ← r.run truth
    return a && b
  | or l r => do
    let a ← l.run truth
    let b ← r.run truth
    return a || b

/-- The rightmost atom. -/
def lastAtom : Formula A → Option A
  | atom a => some a
  | group _ => none
  | not f => f.lastAtom
  | and _ r => r.lastAtom
  | or _ r => r.lastAtom

/-- The atoms from left to right. -/
def atoms : Formula A → List A
  | atom a => [a]
  | group f => f.atoms
  | not f => f.atoms
  | and l r => l.atoms ++ r.atoms
  | or l r => l.atoms ++ r.atoms

end Formula

/-! ## The parser's atoms -/

/-- What `parsePrimary` reads besides a parenthesis. The right-hand side of a comparison is any token. -/
inductive Atom where
  | number (text : Str)
  | bare (name : Str)
  | comparison (name op : Str) (right : Token)
deriving DecidableEq

namespace Atom

def tokens : Atom → List Token
  | number text => [.number text]
  | bare name => [.identifier name]
  | comparison name op right => [.identifier name, .operator op, right]

variable {D : Type} [CxxDouble D]

def truth (vm : VariableManager D) : Atom → Except Stop Bool
  | number text => .ok (numberTruth text)
  | bare name => throwing (bareValue vm name)
  | comparison name op right => throwing (comparisonValue vm name op right)

end Atom

/-- What follows the formula does not extend its last atom to a comparison. -/
def Quiet (f : Formula Atom) (rest : List Token) : Prop :=
  ∀ name op ts, f.lastAtom = some (.bare name) → rest ≠ .operator op :: ts

/-- The tokens of a formula over the parser's atoms. -/
abbrev Formula.toks (f : Formula Atom) : List Token := f.tokens Atom.tokens

/-! ## Stopping -/

section Parser

variable {D : Type} [CxxDouble D] (vm : VariableManager D)

/-- The value of a formula over the parser's atoms. -/
abbrev Formula.value (f : Formula Atom) : Except Stop Bool := f.run (Atom.truth vm)

theorem parseIdentifier_bare (name : Str) (rest : List Token) (quiet : ∀ op ts, rest ≠ .operator op :: ts) :
    parseIdentifier vm name rest = (throwing (bareValue vm name)).map fun b => (b, rest) := by
  unfold parseIdentifier
  split
  · exact absurd rfl (quiet _ _)
  · exact absurd rfl (quiet _ _)
  · rfl

theorem orLoop_stop {fuel : Nat} (b : Bool) {rest : List Token} (stop : ∀ ts, rest ≠ .or :: ts) :
    orLoop vm (fuel + 1) b rest = .ok (b, rest) := by
  unfold orLoop
  split
  · omega
  · exact absurd rfl (stop _)
  · rfl

theorem andLoop_stop {fuel : Nat} (b : Bool) {rest : List Token} (stop : ∀ ts, rest ≠ .and :: ts) :
    andLoop vm (fuel + 1) b rest = .ok (b, rest) := by
  unfold andLoop
  split
  · omega
  · exact absurd rfl (stop _)
  · rfl

/-! ## The parser reads formulas -/

theorem Except.bind_assoc_map {α β γ : Type} (x : Except Stop α) (f : α → β) (k : β → Except Stop γ) :
    (x.map f >>= k) = (x >>= fun a => k (f a)) := by cases x <;> rfl

/-- What each level of the parser does with the tokens of a formula of that level. At the two upper levels the
loop goes on behind the formula; the fuel it goes on with is enough for the tokens left. -/
structure Reads (f : Formula Atom) : Prop where
  or : ∀ fuel rest, 8 * (f.toks ++ rest).length + 6 ≤ fuel → Quiet f rest → (∀ ts, rest ≠ .and :: ts) →
    ∃ left, 8 * rest.length + 5 ≤ left ∧
      parseOrExpression vm fuel (f.toks ++ rest) = (f.value vm >>= fun b => orLoop vm left b rest)
  and : 1 ≤ f.prec → ∀ fuel rest, 8 * (f.toks ++ rest).length + 4 ≤ fuel → Quiet f rest →
    ∃ left, 8 * rest.length + 3 ≤ left ∧
      parseAndExpression vm fuel (f.toks ++ rest) = (f.value vm >>= fun b => andLoop vm left b rest)
  not : 2 ≤ f.prec → ∀ fuel rest, 8 * (f.toks ++ rest).length + 2 ≤ fuel → Quiet f rest →
    parseNotExpression vm fuel (f.toks ++ rest) = (f.value vm).map fun b => (b, rest)

variable {vm}

/-- Reading at the level of `!` is enough for a formula of that level. -/
theorem Reads.of_not {f : Formula Atom}
    (not : ∀ fuel rest, 8 * (f.toks ++ rest).length + 2 ≤ fuel → Quiet f rest →
      parseNotExpression vm fuel (f.toks ++ rest) = (f.value vm).map fun b => (b, rest)) :
    ∀ fuel rest, 8 * (f.toks ++ rest).length + 4 ≤ fuel → Quiet f rest →
      ∃ left, 8 * rest.length + 3 ≤ left ∧
        parseAndExpression vm fuel (f.toks ++ rest) = (f.value vm >>= fun b => andLoop vm left b rest) := by
  intro fuel rest enough quiet
  obtain ⟨fuel, rfl⟩ := Nat.exists_eq_add_of_le' (show 1 ≤ fuel by omega)
  refine ⟨fuel, ?_, ?_⟩
  · rw [List.length_append] at enough
    omega
  · rw [parseAndExpression, not fuel rest (by omega) quiet, Except.bind_assoc_map]

/-- Reading at the level of `&&` is enough for a formula of that level. -/
theorem Reads.of_and {f : Formula Atom}
    (and : ∀ fuel rest, 8 * (f.toks ++ rest).length + 4 ≤ fuel → Quiet f rest →
      ∃ left, 8 * rest.length + 3 ≤ left ∧
        parseAndExpression vm fuel (f.toks ++ rest) = (f.value vm >>= fun b => andLoop vm left b rest)) :
    ∀ fuel rest, 8 * (f.toks ++ rest).length + 6 ≤ fuel → Quiet f rest → (∀ ts, rest ≠ .and :: ts) →
      ∃ left, 8 * rest.length + 5 ≤ left ∧
        parseOrExpression vm fuel (f.toks ++ rest) = (f.value vm >>= fun b => orLoop vm left b rest) := by
  intro fuel rest enough quiet stop
  obtain ⟨fuel, rfl⟩ := Nat.exists_eq_add_of_le' (show 1 ≤ fuel by omega)
  refine ⟨fuel, ?_, ?_⟩
  · rw [List.length_append] at enough
    omega
  · obtain ⟨left, more, run⟩ := and fuel rest (by omega) quiet
    obtain ⟨left, rfl⟩ := Nat.exists_eq_add_of_le' (show 1 ≤ left by omega)
    rw [parseOrExpression, run]
    cases f.value vm with
    | error e => rfl
    | ok b =>
      show (andLoop vm (left + 1) b rest >>= _) = _
      rw [andLoop_stop vm b stop]
      rfl

theorem Reads.of_primary {f : Formula Atom}
    (not : ∀ fuel rest, 8 * (f.toks ++ rest).length + 2 ≤ fuel → Quiet f rest →
      parseNotExpression vm fuel (f.toks ++ rest) = (f.value vm).map fun b => (b, rest)) : Reads vm f where
  or := Reads.of_and (Reads.of_not not)
  and := fun _ => Reads.of_not not
  not := fun _ => not

theorem reads_atom (a : Atom) : Reads vm (.atom a) := by
  apply Reads.of_primary
  intro fuel rest enough quiet
  obtain ⟨fuel, rfl⟩ := Nat.exists_eq_add_of_le' (show 2 ≤ fuel by omega)
  cases a with
  | number text => rfl
  | bare name =>
    have primary : parseNotExpression vm (fuel + 2) (.identifier name :: rest) = parseIdentifier vm name rest := rfl
    have plain : ∀ op ts, rest ≠ .operator op :: ts := fun op ts => quiet name op ts rfl
    exact primary.trans (parseIdentifier_bare vm name rest plain)
  | comparison name op right =>
    show (throwing (comparisonValue vm name op right) >>= fun b => Except.ok (b, rest)) =
      (throwing (comparisonValue vm name op right)).map fun b => (b, rest)
    cases throwing (comparisonValue vm name op right) <;> rfl

theorem reads_group {f : Formula Atom} (ih : Reads vm f) : Reads vm (.group f) := by
  apply Reads.of_primary
  intro fuel rest enough _
  obtain ⟨fuel, rfl⟩ := Nat.exists_eq_add_of_le' (show 2 ≤ fuel by omega)
  have shape : (Formula.group f).toks ++ rest = .lparen :: (f.toks ++ .rparen :: rest) := by
    simp [Formula.toks, Formula.tokens]
  have quiet : Quiet f (.rparen :: rest) := by
    intro name op ts _ same
    cases same
  rw [shape] at enough ⊢
  simp only [List.length_cons] at enough
  obtain ⟨left, more, run⟩ := ih.or fuel (.rparen :: rest) (by omega) quiet (fun ts same => by cases same)
  obtain ⟨left, rfl⟩ := Nat.exists_eq_add_of_le' (show 1 ≤ left by omega)
  simp only [parseNotExpression, parsePrimary, run]
  show _ = (f.value vm).map fun b => (b, rest)
  cases f.value vm with
  | error e => rfl
  | ok b => rfl

theorem reads_not {f : Formula Atom} (ih : Reads vm f) (tight : 2 ≤ f.prec) : Reads vm (.not f) := by
  apply Reads.of_primary
  intro fuel rest enough quiet
  obtain ⟨fuel, rfl⟩ := Nat.exists_eq_add_of_le' (show 1 ≤ fuel by omega)
  have shape : (Formula.not f).toks ++ rest = .not :: (f.toks ++ rest) := rfl
  rw [shape] at enough ⊢
  simp only [List.length_cons] at enough
  simp only [parseNotExpression, ih.not tight fuel rest (by omega) quiet]
  show _ = (f.value vm >>= fun b => Except.ok !b).map fun b => (b, rest)
  cases f.value vm <;> rfl

theorem reads_and {l r : Formula Atom} (ihl : Reads vm l) (ihr : Reads vm r) (tightL : 1 ≤ l.prec)
    (tightR : 2 ≤ r.prec) : Reads vm (.and l r) := by
  have and : ∀ fuel rest, 8 * ((Formula.and l r).toks ++ rest).length + 4 ≤ fuel → Quiet (.and l r) rest →
      ∃ left, 8 * rest.length + 3 ≤ left ∧ parseAndExpression vm fuel ((Formula.and l r).toks ++ rest) =
        ((Formula.and l r).value vm >>= fun b => andLoop vm left b rest) := by
    intro fuel rest enough quiet
    have shape : (Formula.and l r).toks ++ rest = l.toks ++ .and :: (r.toks ++ rest) := by
      simp [Formula.toks, Formula.tokens]
    have quietL : Quiet l (.and :: (r.toks ++ rest)) := by
      intro name op ts _ same
      cases same
    rw [shape] at enough ⊢
    obtain ⟨left, more, run⟩ := ihl.and tightL fuel _ enough quietL
    obtain ⟨left, rfl⟩ := Nat.exists_eq_add_of_le' (show 1 ≤ left by omega)
    simp only [List.length_cons] at more
    refine ⟨left, ?_, ?_⟩
    · rw [List.length_append] at more
      omega
    · rw [run]
      show _ = ((l.value vm >>= fun a => r.value vm >>= fun b => Except.ok (a && b)) >>= _)
      cases l.value vm with
      | error e => rfl
      | ok a =>
        show andLoop vm (left + 1) a (.and :: (r.toks ++ rest)) = _
        rw [andLoop, ihr.not tightR left rest (by omega) quiet, Except.bind_assoc_map]
        cases r.value vm <;> rfl
  exact ⟨Reads.of_and and, fun _ => and, fun tight => absurd tight (by simp [Formula.prec])⟩

theorem reads_or {l r : Formula Atom} (ihl : Reads vm l) (ihr : Reads vm r) (tightR : 1 ≤ r.prec) :
    Reads vm (.or l r) := by
  refine ⟨?_, fun tight => absurd tight (by simp [Formula.prec]), fun tight => absurd tight (by simp [Formula.prec])⟩
  intro fuel rest enough quiet stop
  have shape : (Formula.or l r).toks ++ rest = l.toks ++ .or :: (r.toks ++ rest) := by
    simp [Formula.toks, Formula.tokens]
  have quietL : Quiet l (.or :: (r.toks ++ rest)) := by
    intro name op ts _ same
    cases same
  rw [shape] at enough ⊢
  obtain ⟨left, more, run⟩ := ihl.or fuel _ enough quietL (fun ts same => by cases same)
  obtain ⟨left, rfl⟩ := Nat.exists_eq_add_of_le' (show 1 ≤ left by omega)
  simp only [List.length_cons] at more
  refine ⟨left, ?_, ?_⟩
  · rw [List.length_append] at more
    omega
  · rw [run]
    show _ = ((l.value vm >>= fun a => r.value vm >>= fun b => Except.ok (a || b)) >>= _)
    cases l.value vm with
    | error e => rfl
    | ok a =>
      obtain ⟨left', more', run'⟩ := ihr.and tightR left rest (by omega) quiet
      obtain ⟨left', rfl⟩ := Nat.exists_eq_add_of_le' (show 1 ≤ left' by omega)
      show orLoop vm (left + 1) a (.or :: (r.toks ++ rest)) = _
      rw [orLoop, run']
      cases r.value vm with
      | error e => rfl
      | ok b =>
        show (andLoop vm (left' + 1) b rest >>= _) = _
        rw [andLoop_stop vm b stop]
        rfl

variable (vm)

/-- Every nested formula is read. -/
theorem Formula.Nested.reads {f : Formula Atom} (nested : f.Nested) : Reads vm f := by
  induction f with
  | atom a => exact reads_atom a
  | group f ih => exact reads_group (ih nested)
  | not f ih => exact reads_not (ih nested.1) nested.2
  | and l r ihl ihr => exact reads_and (ihl nested.1) (ihr nested.2.1) nested.2.2.1 nested.2.2.2
  | or l r ihl ihr => exact reads_or (ihl nested.1) (ihr nested.2.1) nested.2.2

/-- The formula `f` leads the tokens `ts`, and `rest` behind it does not continue it. -/
structure Leads (f : Formula Atom) (ts rest : List Token) : Prop where
  nested : f.Nested
  tokens : ts = f.toks ++ rest
  quiet : Quiet f rest
  notAnd : ∀ ts, rest ≠ .and :: ts
  notOr : ∀ ts, rest ≠ .or :: ts

/-- Nothing continues a formula that takes all tokens. -/
theorem leads_eof {f : Formula Atom} {ts : List Token} (nested : f.Nested) (tokens : ts = f.toks ++ [Token.eof]) :
    Leads f ts [.eof] where
  nested := nested
  tokens := tokens
  quiet _ _ _ _ same := by cases same
  notAnd _ same := by cases same
  notOr _ same := by cases same

/-- The parser evaluates the formula that leads its tokens and stops behind it. -/
theorem Leads.parseExpression {f : Formula Atom} {ts rest : List Token} (leads : Leads f ts rest) :
    parseExpression vm ts = (f.value vm).map fun b => (b, rest) := by
  obtain ⟨left, more, run⟩ := (leads.nested.reads vm).or (8 * ts.length + 6) rest
    (by rw [← leads.tokens]) leads.quiet leads.notAnd
  obtain ⟨left, rfl⟩ := Nat.exists_eq_add_of_le' (show 1 ≤ left by omega)
  rw [← leads.tokens] at run
  rw [Constraint.parseExpression, run]
  cases f.value vm with
  | error e => rfl
  | ok b => exact orLoop_stop vm b leads.notOr

/-! ## What the parser reads is a formula -/

/-- The formula `f`, binding at least as tightly as `level`, leads the tokens `ts`. -/
structure Found (level : Nat) (f : Formula Atom) (ts rest : List Token) : Prop where
  nested : f.Nested
  tight : level ≤ f.prec
  tokens : ts = f.toks ++ rest
  quiet : Quiet f rest

/-- Each function of the parser, given `fuel`, returns the value of a formula that leads its tokens. -/
structure Sound (fuel : Nat) : Prop where
  or : ∀ ts b rest, parseOrExpression vm fuel ts = .ok (b, rest) → ∃ f, Leads f ts rest ∧ f.value vm = .ok b
  orLoop : ∀ l a ts b rest, l.Nested → Quiet l ts → (∀ ts', ts ≠ .and :: ts') → l.value vm = .ok a →
    orLoop vm fuel a ts = .ok (b, rest) → ∃ f, Leads f (l.toks ++ ts) rest ∧ f.value vm = .ok b
  and : ∀ ts b rest, parseAndExpression vm fuel ts = .ok (b, rest) →
    ∃ f, Found 1 f ts rest ∧ (∀ ts', rest ≠ .and :: ts') ∧ f.value vm = .ok b
  andLoop : ∀ l a ts b rest, l.Nested → 1 ≤ l.prec → Quiet l ts → l.value vm = .ok a →
    andLoop vm fuel a ts = .ok (b, rest) →
    ∃ f, Found 1 f (l.toks ++ ts) rest ∧ (∀ ts', rest ≠ .and :: ts') ∧ f.value vm = .ok b
  not : ∀ ts b rest, parseNotExpression vm fuel ts = .ok (b, rest) → ∃ f, Found 2 f ts rest ∧ f.value vm = .ok b
  primary : ∀ ts b rest, parsePrimary vm fuel ts = .ok (b, rest) → ∃ f, Found 3 f ts rest ∧ f.value vm = .ok b

variable {vm}

theorem parseIdentifier_sound {name : Str} {ts rest : List Token} {b : Bool}
    (run : parseIdentifier vm name ts = .ok (b, rest)) :
    ∃ f, Found 3 f (.identifier name :: ts) rest ∧ f.value vm = .ok b := by
  unfold parseIdentifier at run
  split at run
  · cases run
  · rename_i op right rest'
    obtain ⟨a, value, same⟩ := except_bind_eq_ok run
    obtain ⟨rfl, rfl⟩ := Prod.mk.inj (Except.ok.inj same)
    refine ⟨.atom (.comparison name op right), ⟨trivial, le_refl 3, rfl, ?_⟩, value⟩
    intro name' op' ts' last
    cases last
  · rename_i notLast notOperator
    obtain ⟨a, value, same⟩ := except_bind_eq_ok run
    obtain ⟨rfl, rfl⟩ := Prod.mk.inj (Except.ok.inj same)
    refine ⟨.atom (.bare name), ⟨trivial, le_refl 3, rfl, ?_⟩, value⟩
    intro name' op ts' _ same
    cases ts' with
    | nil => exact notLast op same
    | cons right ts' => exact notOperator op right ts' same

theorem Sound.primary_succ {fuel : Nat} (ih : Sound vm fuel) (ts : List Token) (b : Bool) (rest : List Token)
    (run : parsePrimary vm (fuel + 1) ts = .ok (b, rest)) : ∃ f, Found 3 f ts rest ∧ f.value vm = .ok b := by
  unfold parsePrimary at run
  split at run
  · cases run
  · cases run
  · rename_i fuel' ts' eq
    obtain rfl := Nat.succ.inj eq
    obtain ⟨⟨a, rest'⟩, inner, close⟩ := except_bind_eq_ok run
    split at close
    · rename_i a' rest'' same
      obtain ⟨rfl, rfl⟩ := Prod.mk.inj same
      obtain ⟨rfl, rfl⟩ := Prod.mk.inj (Except.ok.inj close)
      obtain ⟨f, leads, value⟩ := ih.or _ _ _ inner
      refine ⟨.group f, ⟨leads.nested, le_refl 3, ?_, ?_⟩, value⟩
      · rw [leads.tokens]
        simp [Formula.toks, Formula.tokens]
      · intro name op ts' last
        cases last
    · cases close
  · rename_i text ts' _
    obtain ⟨rfl, rfl⟩ := Prod.mk.inj (Except.ok.inj run)
    refine ⟨.atom (.number text), ⟨trivial, le_refl 3, rfl, ?_⟩, rfl⟩
    intro name op ts' last
    cases last
  · exact parseIdentifier_sound run
  · cases run

theorem Sound.not_succ {fuel : Nat} (ih : Sound vm fuel) (ts : List Token) (b : Bool) (rest : List Token)
    (run : parseNotExpression vm (fuel + 1) ts = .ok (b, rest)) : ∃ f, Found 2 f ts rest ∧ f.value vm = .ok b := by
  unfold parseNotExpression at run
  split at run
  · cases run
  · rename_i fuel' ts' eq
    obtain rfl := Nat.succ.inj eq
    obtain ⟨⟨a, rest'⟩, inner, same⟩ := except_bind_eq_ok run
    obtain ⟨rfl, rfl⟩ := Prod.mk.inj (Except.ok.inj same)
    obtain ⟨f, found, value⟩ := ih.not _ _ _ inner
    refine ⟨.not f, ⟨⟨found.nested, found.tight⟩, le_refl 2, ?_, found.quiet⟩, ?_⟩
    · rw [found.tokens]
      rfl
    · show (f.value vm >>= fun b => Except.ok !b) = _
      rw [value]
      rfl
  · rename_i eq _
    obtain rfl := Nat.succ.inj eq
    obtain ⟨f, found, value⟩ := ih.primary _ _ _ run
    exact ⟨f, ⟨found.nested, by have := found.tight; omega, found.tokens, found.quiet⟩, value⟩

theorem Sound.andLoop_succ {fuel : Nat} (ih : Sound vm fuel) (l : Formula Atom) (a : Bool) (ts : List Token) (b : Bool)
    (rest : List Token) (nested : l.Nested) (tight : 1 ≤ l.prec) (quiet : Quiet l ts) (value : l.value vm = .ok a)
    (run : Constraint.andLoop vm (fuel + 1) a ts = .ok (b, rest)) :
    ∃ f, Found 1 f (l.toks ++ ts) rest ∧ (∀ ts', rest ≠ .and :: ts') ∧ f.value vm = .ok b := by
  by_cases more : ∃ ts', ts = .and :: ts'
  · obtain ⟨ts', rfl⟩ := more
    rw [Constraint.andLoop] at run
    obtain ⟨⟨right, rest'⟩, inner, again⟩ := except_bind_eq_ok run
    obtain ⟨r, found, valueR⟩ := ih.not _ _ _ inner
    have valueLR : (Formula.and l r).value vm = .ok (a && right) := by
      show (l.value vm >>= fun a => r.value vm >>= fun b => Except.ok (a && b)) = _
      rw [value, valueR]
      rfl
    obtain ⟨f, foundF, stop, valueF⟩ := ih.andLoop (.and l r) _ rest' b rest
      ⟨nested, found.nested, tight, found.tight⟩ (le_refl 1) found.quiet valueLR again
    refine ⟨f, ⟨foundF.nested, foundF.tight, ?_, foundF.quiet⟩, stop, valueF⟩
    rw [found.tokens, ← foundF.tokens]
    simp [Formula.toks, Formula.tokens]
  · rw [andLoop_stop vm a (not_exists.1 more)] at run
    obtain ⟨rfl, rfl⟩ := Prod.mk.inj (Except.ok.inj run)
    exact ⟨l, ⟨nested, tight, rfl, quiet⟩, not_exists.1 more, value⟩

theorem Sound.and_succ {fuel : Nat} (ih : Sound vm fuel) (ts : List Token) (b : Bool) (rest : List Token)
    (run : parseAndExpression vm (fuel + 1) ts = .ok (b, rest)) :
    ∃ f, Found 1 f ts rest ∧ (∀ ts', rest ≠ .and :: ts') ∧ f.value vm = .ok b := by
  unfold parseAndExpression at run
  obtain ⟨⟨a, ts'⟩, inner, again⟩ := except_bind_eq_ok run
  obtain ⟨l, found, value⟩ := ih.not _ _ _ inner
  rw [found.tokens]
  exact ih.andLoop l a ts' b rest found.nested (by have := found.tight; omega) found.quiet value again

theorem Sound.orLoop_succ {fuel : Nat} (ih : Sound vm fuel) (l : Formula Atom) (a : Bool) (ts : List Token) (b : Bool)
    (rest : List Token) (nested : l.Nested) (quiet : Quiet l ts) (notAnd : ∀ ts', ts ≠ .and :: ts')
    (value : l.value vm = .ok a) (run : Constraint.orLoop vm (fuel + 1) a ts = .ok (b, rest)) :
    ∃ f, Leads f (l.toks ++ ts) rest ∧ f.value vm = .ok b := by
  by_cases more : ∃ ts', ts = .or :: ts'
  · obtain ⟨ts', rfl⟩ := more
    rw [Constraint.orLoop] at run
    obtain ⟨⟨right, rest'⟩, inner, again⟩ := except_bind_eq_ok run
    obtain ⟨r, found, notAnd', valueR⟩ := ih.and _ _ _ inner
    have valueLR : (Formula.or l r).value vm = .ok (a || right) := by
      show (l.value vm >>= fun a => r.value vm >>= fun b => Except.ok (a || b)) = _
      rw [value, valueR]
      rfl
    obtain ⟨f, leads, valueF⟩ := ih.orLoop (.or l r) _ rest' b rest ⟨nested, found.nested, found.tight⟩ found.quiet
      notAnd' valueLR again
    refine ⟨f, ⟨leads.nested, ?_, leads.quiet, leads.notAnd, leads.notOr⟩, valueF⟩
    rw [found.tokens, ← leads.tokens]
    simp [Formula.toks, Formula.tokens]
  · rw [orLoop_stop vm a (not_exists.1 more)] at run
    obtain ⟨rfl, rfl⟩ := Prod.mk.inj (Except.ok.inj run)
    exact ⟨l, ⟨nested, rfl, quiet, notAnd, not_exists.1 more⟩, value⟩

theorem Sound.or_succ {fuel : Nat} (ih : Sound vm fuel) (ts : List Token) (b : Bool) (rest : List Token)
    (run : parseOrExpression vm (fuel + 1) ts = .ok (b, rest)) : ∃ f, Leads f ts rest ∧ f.value vm = .ok b := by
  unfold parseOrExpression at run
  obtain ⟨⟨a, ts'⟩, inner, again⟩ := except_bind_eq_ok run
  obtain ⟨l, found, notAnd, value⟩ := ih.and _ _ _ inner
  rw [found.tokens]
  exact ih.orLoop l a ts' b rest found.nested found.quiet notAnd value again

variable (vm)

theorem sound (fuel : Nat) : Sound vm fuel := by
  induction fuel with
  | zero =>
    constructor
    all_goals
      intros
      rename_i run
      simp only [parseOrExpression, Constraint.orLoop, parseAndExpression, Constraint.andLoop, parseNotExpression,
        parsePrimary, reduceCtorEq] at run
  | succ fuel ih =>
    exact ⟨ih.or_succ, ih.orLoop_succ, ih.and_succ, ih.andLoop_succ, ih.not_succ, ih.primary_succ⟩

/-- The parser returns a value exactly for the formula that leads its tokens. -/
theorem parseExpression_eq_ok (ts rest : List Token) (b : Bool) :
    parseExpression vm ts = .ok (b, rest) ↔ ∃ f, Leads f ts rest ∧ f.value vm = .ok b := by
  constructor
  · exact (sound vm _).or ts b rest
  · intro ⟨f, leads, value⟩
    rw [leads.parseExpression, value]
    rfl

/-! ## The fuel is enough -/

theorem Formula.toks_ne_nil (f : Formula Atom) : f.toks ≠ [] := by
  induction f with
  | atom a => cases a <;> exact List.cons_ne_nil _ _
  | group f _ => exact List.cons_ne_nil _ _
  | not f _ => exact List.cons_ne_nil _ _
  | and l r ihl _ => simp [Formula.toks, Formula.tokens]
  | or l r ihl _ => simp [Formula.toks, Formula.tokens]

theorem Found.length_lt {level : Nat} {f : Formula Atom} {ts rest : List Token} (found : Found level f ts rest) :
    rest.length < ts.length := by
  have some := List.length_pos_iff.2 f.toks_ne_nil
  rw [found.tokens, List.length_append]
  omega

/-- The computation ends within its fuel. -/
def Ends {α : Type} (x : Except Stop α) : Prop := x ≠ .error .outOfFuel

theorem Ends.bind {α β : Type} {x : Except Stop α} {k : α → Except Stop β} (first : Ends x)
    (rest : ∀ a, x = .ok a → Ends (k a)) : Ends (x >>= k) := by
  cases x with
  | error e =>
    intro same
    exact first (congrArg Except.error (Except.error.inj same))
  | ok a => exact rest a rfl

theorem ends_throwing {α : Type} (x : Except Exn α) : Ends (throwing x) := by cases x <;> simp [Ends, throwing]

theorem ends_parseIdentifier (name : Str) (ts : List Token) : Ends (parseIdentifier vm name ts) := by
  unfold parseIdentifier
  split
  · simp [Ends]
  · exact (ends_throwing _).bind fun a _ => by simp [Ends, Pure.pure, Except.pure]
  · exact (ends_throwing _).bind fun a _ => by simp [Ends, Pure.pure, Except.pure]

/-- Fuel in proportion to the tokens left lets each function of the parser end. -/
structure Enough (fuel : Nat) : Prop where
  or : ∀ ts, 8 * ts.length + 6 ≤ fuel → Ends (parseOrExpression vm fuel ts)
  orLoop : ∀ a ts, 8 * ts.length + 5 ≤ fuel → Ends (orLoop vm fuel a ts)
  and : ∀ ts, 8 * ts.length + 4 ≤ fuel → Ends (parseAndExpression vm fuel ts)
  andLoop : ∀ a ts, 8 * ts.length + 3 ≤ fuel → Ends (andLoop vm fuel a ts)
  not : ∀ ts, 8 * ts.length + 2 ≤ fuel → Ends (parseNotExpression vm fuel ts)
  primary : ∀ ts, 8 * ts.length + 1 ≤ fuel → Ends (parsePrimary vm fuel ts)

theorem enough (fuel : Nat) : Enough vm fuel := by
  induction fuel with
  | zero => constructor <;> (intros; omega)
  | succ fuel ih =>
    constructor
    · intro ts le
      refine (ih.and ts (by omega)).bind fun ⟨a, ts'⟩ run => ?_
      obtain ⟨f, found, -⟩ := (sound vm fuel).and _ _ _ run
      exact ih.orLoop a ts' (by have := found.length_lt; omega)
    · intro a ts le
      by_cases more : ∃ ts', ts = .or :: ts'
      · obtain ⟨ts', rfl⟩ := more
        simp only [List.length_cons] at le
        rw [Constraint.orLoop]
        refine (ih.and ts' (by omega)).bind fun ⟨b, ts''⟩ run => ?_
        obtain ⟨f, found, -⟩ := (sound vm fuel).and _ _ _ run
        exact ih.orLoop _ ts'' (by have := found.length_lt; omega)
      · rw [orLoop_stop vm a (not_exists.1 more)]
        simp [Ends]
    · intro ts le
      refine (ih.not ts (by omega)).bind fun ⟨a, ts'⟩ run => ?_
      obtain ⟨f, found, -⟩ := (sound vm fuel).not _ _ _ run
      exact ih.andLoop a ts' (by have := found.length_lt; omega)
    · intro a ts le
      by_cases more : ∃ ts', ts = .and :: ts'
      · obtain ⟨ts', rfl⟩ := more
        simp only [List.length_cons] at le
        rw [Constraint.andLoop]
        refine (ih.not ts' (by omega)).bind fun ⟨b, ts''⟩ run => ?_
        obtain ⟨f, found, -⟩ := (sound vm fuel).not _ _ _ run
        exact ih.andLoop _ ts'' (by have := found.length_lt; omega)
      · rw [andLoop_stop vm a (not_exists.1 more)]
        simp [Ends]
    · intro ts le
      unfold parseNotExpression
      split
      · omega
      · rename_i ts' eq
        obtain rfl := Nat.succ.inj eq
        simp only [List.length_cons] at le
        exact (ih.not ts' (by omega)).bind fun a _ => by simp [Ends, Pure.pure, Except.pure]
      · rename_i eq _
        obtain rfl := Nat.succ.inj eq
        exact ih.primary _ (by omega)
    · intro ts le
      unfold parsePrimary
      split
      · omega
      · simp [Ends]
      · rename_i ts' eq
        obtain rfl := Nat.succ.inj eq
        simp only [List.length_cons] at le
        refine (ih.or ts' (by omega)).bind fun r _ => ?_
        split <;> simp [Ends, Pure.pure, Except.pure]
      · simp [Ends]
      · exact ends_parseIdentifier vm _ _
      · simp [Ends]

/-- `evaluateDetailed` never runs out of fuel. -/
theorem parseExpression_ends (ts : List Token) : Ends (parseExpression vm ts) := (enough vm _).or ts (le_refl _)

end Parser

end Actuator.Constraint
