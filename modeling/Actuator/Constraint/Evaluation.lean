import Actuator.Constraint.Grammar
import Actuator.Constraint.Rendering

/-!
# The value of a condition

An abstract boolean expression has a value under the usual meaning of its
connectives. Written down in any way that respects precedence, it is evaluated
to that value.
-/

namespace Actuator.Constraint

open Actuator.Lib Actuator.Executor

/-! ## Boolean expressions -/

/-- An expression over atoms of type `A`. -/
inductive BoolExp (A : Type) where
  | atom (a : A)
  | not (e : BoolExp A)
  | and (l r : BoolExp A)
  | or (l r : BoolExp A)

namespace BoolExp

variable {A : Type}

def value (truth : A → Bool) : BoolExp A → Bool
  | atom a => truth a
  | not e => !e.value truth
  | and l r => l.value truth && r.value truth
  | or l r => l.value truth || r.value truth

def atoms : BoolExp A → List A
  | atom a => [a]
  | not e => e.atoms
  | and l r => l.atoms ++ r.atoms
  | or l r => l.atoms ++ r.atoms

end BoolExp

namespace Formula

variable {A B : Type}

/-- The expression a written condition stands for. -/
def erase : Formula A → BoolExp A
  | atom a => .atom a
  | group f => f.erase
  | not f => .not f.erase
  | and l r => .and l.erase r.erase
  | or l r => .or l.erase r.erase

def map (g : A → B) : Formula A → Formula B
  | atom a => .atom (g a)
  | group f => .group (f.map g)
  | not f => .not (f.map g)
  | and l r => .and (l.map g) (r.map g)
  | or l r => .or (l.map g) (r.map g)

@[simp] theorem prec_map (g : A → B) (f : Formula A) : (f.map g).prec = f.prec := by cases f <;> rfl

theorem nested_map (g : A → B) {f : Formula A} (nested : f.Nested) : (f.map g).Nested := by
  induction f with
  | atom a => trivial
  | group f ih => exact ih nested
  | not f ih => exact ⟨ih nested.1, by simpa using nested.2⟩
  | and l r ihl ihr => exact ⟨ihl nested.1, ihr nested.2.1, by simpa using nested.2.2.1, by simpa using nested.2.2.2⟩
  | or l r ihl ihr => exact ⟨ihl nested.1, ihr nested.2.1, by simpa using nested.2.2⟩

theorem tokens_map (g : A → B) (spell : B → List Token) (f : Formula A) :
    (f.map g).tokens spell = f.tokens fun a => spell (g a) := by
  induction f <;> simp [map, tokens, *]

/-- A formula whose atoms all have a value has the value of its expression. -/
theorem run_map {ε : Type} (g : A → B) (truth : A → Bool) (eval : B → Except ε Bool) (f : Formula A)
    (agree : ∀ a ∈ f.erase.atoms, eval (g a) = .ok (truth a)) : (f.map g).run eval = .ok (f.erase.value truth) := by
  induction f with
  | atom a => exact agree a (by simp [erase, BoolExp.atoms])
  | group f ih => exact ih agree
  | not f ih =>
    rw [map, run, ih agree]
    rfl
  | and l r ihl ihr =>
    rw [map, run, ihl fun a mem => agree a (List.mem_append_left _ mem),
      ihr fun a mem => agree a (List.mem_append_right _ mem)]
    rfl
  | or l r ihl ihr =>
    rw [map, run, ihl fun a mem => agree a (List.mem_append_left _ mem),
      ihr fun a mem => agree a (List.mem_append_right _ mem)]
    rfl

end Formula

/-! ## The atoms of a condition -/

inductive CompareOp where
  | eq
  | assign
  | ne
  | lt
  | gt
  | le
  | ge

def CompareOp.text : CompareOp → Str
  | eq => lit "=="
  | assign => lit "="
  | ne => lit "!="
  | lt => lit "<"
  | gt => lit ">"
  | le => lit "<="
  | ge => lit ">="

/-- The right-hand side of a comparison. -/
inductive Operand where
  | integer (negative : Bool) (digits : Str)
  | decimal (negative : Bool) (whole fraction : Str)
  | quoted (text : Str)
  | named (name : Str)

/-- A leaf of an expression. -/
inductive Condition where
  | literal (b : Bool)
  | bare (name : Str)
  | comparison (name : Str) (op : CompareOp) (right : Operand)

/-- A nonempty string of digits. -/
def IsDigits (s : Str) : Prop := s ≠ [] ∧ ∀ c ∈ s, isDigit c = true

section Meaning

variable {D : Type} [CxxDouble D] (vm : VariableManager D)

def Operand.token : Operand → Token
  | integer negative digits => .number (signed negative digits)
  | decimal negative whole fraction => .number (signed negative (whole ++ ch '.' :: fraction))
  | quoted text => .string text
  | named name => .identifier name

/-- The value an operand denotes. -/
def Operand.value : Operand → VariableValue D
  | integer negative digits => .int (Int32.ofInt (signedValue negative digits))
  | decimal negative whole fraction =>
    match (CxxDouble.stod (signed negative (whole ++ ch '.' :: fraction)) : Option (D × Nat)) with
    | some (x, _) => .double x
    | none => .unknown
  | quoted text => .string text
  | named name => (vm.lookup name).getD .unknown

/-- An integer in range, a decimal `std::stod` accepts, a text, or an existing variable. -/
def Operand.Valid : Operand → Prop
  | integer negative digits => IsDigits digits ∧ InIntRange (signedValue negative digits)
  | decimal negative whole fraction =>
    IsDigits whole ∧ IsDigits fraction ∧
      (CxxDouble.stod (signed negative (whole ++ ch '.' :: fraction)) : Option (D × Nat)).isSome = true
  | quoted _ => True
  | named name => vm.exists? name = true

/-- The parser's atom for a leaf. -/
def Condition.toAtom : Condition → Atom
  | literal b => .number (if b then lit "1" else lit "0")
  | bare name => .bare name
  | comparison name op right => .comparison name op.text right.token

def Condition.tokens (c : Condition) : List Token := c.toAtom.tokens

/-- The truth of a leaf. A bare variable that is no truth value, integer or text counts as false. -/
def Condition.truth : Condition → Bool
  | literal b => b
  | bare name =>
    match vm.lookup name with
    | some (.bool b) => b
    | some (.int v) => v ≠ 0
    | some (.string s) => !s.isEmpty
    | _ => false
  | comparison name op right => compare ((vm.lookup name).getD .unknown) op.text (right.value vm)

/-- The variables of a leaf exist, and a bare one is a truth value, an integer or a text. -/
def Condition.Valid : Condition → Prop
  | literal _ => True
  | bare name => (∃ b, vm.lookup name = some (.bool b)) ∨ (∃ v, vm.lookup name = some (.int v)) ∨
      ∃ s, vm.lookup name = some (.string s)
  | comparison name _ right => vm.exists? name = true ∧ right.Valid vm

variable {vm}

theorem operandValue_of_valid {right : Operand} (valid : right.Valid vm) :
    operandValue vm right.token = .ok (right.value vm) := by
  cases right with
  | integer negative digits =>
    obtain ⟨⟨some, all⟩, range⟩ := valid
    have noPoint : ch '.' ∉ signed negative digits := by
      have inDigits : ch '.' ∉ digits := fun mem => digit_ne (all _ mem) (ch '.') (by decide) rfl
      cases negative
      · exact inDigits
      · simpa [signed, show ch '.' ≠ ch '-' by decide] using inDigits
    simp only [Operand.token, operandValue, if_neg noPoint, stoi_signed negative some all range, Operand.value]
  | decimal negative whole fraction =>
    obtain ⟨-, -, accepted⟩ := valid
    have point : ch '.' ∈ signed negative (whole ++ ch '.' :: fraction) := by cases negative <;> simp [signed]
    obtain ⟨⟨x, pos⟩, read⟩ := Option.isSome_iff_exists.1 accepted
    simp only [Operand.token, operandValue, if_pos point, read, Operand.value]
  | quoted text => rfl
  | named name =>
    have known : vm.exists? name = true := valid
    obtain ⟨v, found⟩ := Option.isSome_iff_exists.1 ((vm.exists?_eq name).symm.trans known)
    simp only [Operand.token, operandValue, if_pos known, VariableManager.get_of_lookup found, Operand.value, found,
      Option.getD_some]

/-- The parser computes the truth of a valid leaf. -/
theorem truth_toAtom {c : Condition} (valid : c.Valid vm) : c.toAtom.truth vm = .ok (c.truth vm) := by
  cases c with
  | literal b => cases b <;> rfl
  | bare name =>
    have value : ∀ v b, vm.lookup name = some v → v.asBool = .ok b → bareValue vm name = .ok b := by
      intro v b found truth
      have known : vm.exists? name = true := by rw [vm.exists?_eq, found]; rfl
      rw [bareValue, if_pos known, VariableManager.get_of_lookup found]
      exact truth
    simp only [Condition.toAtom, Atom.truth, Condition.truth]
    rcases valid with ⟨b, found⟩ | ⟨v, found⟩ | ⟨s, found⟩
    · rw [value _ _ found rfl, found]
      rfl
    · rw [value _ _ found rfl, found]
      rfl
    · rw [value _ _ found rfl, found]
      rfl
  | comparison name op right =>
    obtain ⟨known, validRight⟩ := valid
    obtain ⟨v, found⟩ := Option.isSome_iff_exists.1 ((vm.exists?_eq name).symm.trans known)
    have value : comparisonValue vm name op.text right.token = .ok (compare v op.text (right.value vm)) := by
      rw [comparisonValue, operandValue_of_valid validRight]
      show (if vm.exists? name = true then vm.get name >>= fun l => .ok (compare l op.text (right.value vm)) else _) = _
      rw [if_pos known, VariableManager.get_of_lookup found]
      rfl
    simp only [Condition.toAtom, Atom.truth, Condition.truth, value, found, Option.getD_some]
    rfl

/-- The evaluator on a text whose tokens are led by a formula: its result is the value of that formula. -/
theorem evaluateDetailed_of_leads {expr : Str} {f : Formula Atom} {rest : List Token}
    (leads : Leads f (tokenize expr) rest) {b : Bool} (value : f.value vm = .ok b) :
    (evaluateDetailed vm expr).satisfied = b := by
  have run : parseExpression vm (tokenize expr) = .ok (b, rest) :=
    (parseExpression_eq_ok vm _ _ _).2 ⟨f, leads, value⟩
  have nonempty : ¬(tokenize expr = [] ∨ tokenize expr = [.eof]) := by
    intro empty
    rcases empty with empty | empty <;> rw [empty] at run <;> cases run
  simp only [evaluateDetailed, if_neg nonempty, run]
  cases b <;> rfl

/-- A condition written with the parentheses precedence asks for, or more, with white space between its tokens,
evaluates to the value of the expression it stands for. -/
theorem evaluate_rendering (vm : VariableManager D) (e : BoolExp Condition) (f : Formula Condition) (text : Str)
    (written : f.erase = e) (nested : f.Nested) (renders : Renders (f.tokens Condition.tokens) text)
    (valid : ∀ c ∈ e.atoms, c.Valid vm) : evaluate vm text = e.value (Condition.truth vm) := by
  subst written
  have toks : (f.map Condition.toAtom).toks = f.tokens Condition.tokens := Formula.tokens_map _ _ f
  have value : (f.map Condition.toAtom).value vm = .ok (f.erase.value (Condition.truth vm)) :=
    Formula.run_map _ _ _ f fun c mem => truth_toAtom (valid c mem)
  have leads : Leads (f.map Condition.toAtom) (tokenize text) [.eof] :=
    leads_eof (Formula.nested_map _ nested) (by rw [renders.tokenize, toks])
  exact evaluateDetailed_of_leads leads value

end Meaning

/-- `not ( a == -5 ) || b`, with the integer `a` equal to `-5` and the text `b` not empty. -/
theorem evaluate_rendering_sample :
    let vm : VariableManager FixedPoint :=
      { globalVars := OrdMap.ofList [(lit "a", .int (-5)), (lit "b", .string (lit "x"))] }
    evaluate vm (lit "not ( a == -5 )  || b") = true := by
  intro vm
  let f : Formula Condition :=
    .or (.not (.group (.atom (.comparison (lit "a") .eq (.integer true (lit "5")))))) (.atom (.bare (lit "b")))
  have word : ∀ c : UInt8, isAlpha c = true → ¬Reserved [c] → Spells (.identifier [c]) [c] :=
    fun c alpha free => .identifier ⟨⟨c, [], rfl, .inl alpha, nofun⟩, free⟩
  have freeA : ¬Reserved (lit "a") := by unfold Reserved; decide
  have freeB : ¬Reserved (lit "b") := by unfold Reserved; decide
  have five : Spells (.number (lit "-5")) (lit "-5") := .number ⟨ch '-', lit "5", rfl, by decide, List.all_eq_true.1 (by decide)⟩
  have blank : ∀ c ∈ lit " ", isSpace c = true := List.all_eq_true.1 (by decide)
  have next : ∀ s : Str, Separated (lit " " ++ s) := fun s c first => by cases first; rfl
  have r8 : Renders [.identifier (lit "b")] (lit " " ++ lit "b" ++ []) :=
    .cons blank (word _ rfl freeB) nofun (.nil nofun)
  have r7 : Renders (.or :: _) (lit "  " ++ lit "||" ++ _) := .cons (List.all_eq_true.1 (by decide)) (.or (by decide)) (next _) r8
  have r6 : Renders (.rparen :: _) (lit " " ++ lit ")" ++ _) := .cons blank .rparen (next (lit " || b")) r7
  have r5 : Renders (.number (lit "-5") :: _) (lit " " ++ lit "-5" ++ _) := .cons blank five (next _) r6
  have r4 : Renders (.operator (lit "==") :: _) (lit " " ++ lit "==" ++ _) :=
    .cons blank (.operator (by decide)) (next _) r5
  have r3 : Renders (.identifier (lit "a") :: _) (lit " " ++ lit "a" ++ _) :=
    .cons blank (word _ rfl freeA) (next _) r4
  have r2 : Renders (.lparen :: _) (lit " " ++ lit "(" ++ _) := .cons blank .lparen (next _) r3
  have r1 : Renders (f.tokens Condition.tokens) (lit "not ( a == -5 )  || b") :=
    Renders.cons (show ∀ c ∈ [], isSpace c = true from nofun) (.not (List.mem_cons_self)) (next _) r2
  have nested : f.Nested := ⟨⟨trivial, by decide⟩, trivial, by decide⟩
  refine (evaluate_rendering vm f.erase f _ rfl nested r1 ?_).trans rfl
  intro c mem
  rcases List.mem_cons.1 mem with rfl | mem
  · exact ⟨rfl, ⟨by decide, List.all_eq_true.1 (by decide)⟩, by decide⟩
  · rw [List.mem_singleton.1 mem]
    exact .inr (.inr ⟨lit "x", rfl⟩)

end Actuator.Constraint
