import Actuator.Constraint.WholeText
import Actuator.Executor.GenericExecutor

/-!
# The names in an expression

Whatever an expression looks up in the store stands in its text: as the whole
text, as an operand of a condition, or as a variable of an arithmetic expression.
So a variable whose name does not occur in the text makes no difference to the
value (`evaluateValueExpression_congr`).
-/

namespace Actuator.Executor

open Actuator.Lib
open Actuator.Constraint (Stop Token Piece Atom Formula isWordChar throwing evaluate)

variable {D : Type}

/-- The stores have the same variables, as far as their names occur in the text. -/
def AgreesOn (text : Str) (vm vm' : VariableManager D) : Prop := ∀ name, name <:+: text → vm.lookup name = vm'.lookup name

variable {text : Str} {vm vm' : VariableManager D}

theorem AgreesOn.part {part : Str} (agrees : AgreesOn text vm vm') (inside : part <:+: text) : AgreesOn part vm vm' :=
  fun name occurs => agrees name (occurs.trans inside)

theorem exists?_congr {name : Str} (same : vm.lookup name = vm'.lookup name) : vm.exists? name = vm'.exists? name := by
  rw [VariableManager.exists?_eq, VariableManager.exists?_eq, same]

theorem get_congr {name : Str} (same : vm.lookup name = vm'.lookup name) : vm.get name = vm'.get name := by
  unfold VariableManager.get
  rw [same]

theorem trim_isInfix (text : Str) : trim text <:+: text :=
  (List.rdropWhile_prefix isSpace _).isInfix.trans (List.dropWhile_suffix isSpace).isInfix

variable [CxxDouble D]

/-! ## Conditions -/

theorem wordToken_identifier {word name : Str} (same : Constraint.wordToken word = .identifier name) : word = name := by
  unfold Constraint.wordToken at same
  (repeat' split at same) <;> cases same
  rfl

theorem twoCharToken?_ne_identifier {c : UInt8} {rest : Str} {token : Token}
    (found : Constraint.twoCharToken? c rest = some token) (name : Str) : token ≠ .identifier name := by
  unfold Constraint.twoCharToken? at found
  (repeat' split at found) <;> cases found <;> intro same <;> cases same

/-- The piece of an identifier is its name. -/
theorem scanPiece_identifier {c : UInt8} {rest name : Str}
    (token : (Constraint.scanPiece c rest).1.token? = some (.identifier name)) :
    (Constraint.scanPiece c rest).1.text = name := by
  have round := Constraint.round_scanPiece c rest
  generalize Constraint.scanPiece c rest = p at round token ⊢
  cases round with
  | two found => exact absurd (Option.some.inj token) (twoCharToken?_ne_identifier found name)
  | word => exact wordToken_identifier (Option.some.inj token)
  | _ => cases token

theorem scanLoop_identifier {name : Str} (fuel : Nat) (s : Str) :
    ∀ piece ∈ Constraint.scanLoop fuel s, piece.token? = some (.identifier name) → piece.text = name := by
  induction fuel generalizing s with
  | zero => exact fun piece mem => nomatch mem
  | succ fuel ih =>
    intro piece mem token
    cases s with
    | nil => cases mem
    | cons c rest =>
      rcases List.mem_cons.1 mem with rfl | later
      · exact scanPiece_identifier token
      · exact ih _ piece later token

/-- The name of an identifier is one piece of the text that is tokenized. -/
theorem isInfix_of_mem_tokenize {expr name : Str} (mem : Token.identifier name ∈ Constraint.tokenize expr) :
    name <:+: expr := by
  unfold Constraint.tokenize at mem
  rcases List.mem_append.1 mem with token | last
  · obtain ⟨piece, inside, named⟩ := List.mem_filterMap.1 token
    have part : piece.text <:+: (Constraint.scan expr).flatMap Piece.text :=
      List.infix_of_mem_flatten (List.mem_map_of_mem inside)
    rw [Constraint.text_scan, scanLoop_identifier _ _ piece inside named] at part
    exact part.trans (trim_isInfix expr)
  · cases List.mem_singleton.1 last

theorem operandValue_congr {token : Token} (same : ∀ name, token = .identifier name → vm.lookup name = vm'.lookup name) :
    Constraint.operandValue vm token = Constraint.operandValue vm' token := by
  cases token with
  | identifier name =>
    simp only [Constraint.operandValue, exists?_congr (same name rfl), get_congr (same name rfl)]
  | _ => rfl

/-- The truth of an atom depends on the variables that it names. -/
theorem truth_congr {atom : Atom} (same : ∀ name, Token.identifier name ∈ atom.tokens → vm.lookup name = vm'.lookup name) :
    atom.truth vm = atom.truth vm' := by
  cases atom with
  | number text => rfl
  | bare name =>
    have own := same name (by simp [Atom.tokens])
    simp only [Atom.truth, Constraint.bareValue, exists?_congr own, get_congr own]
  | comparison name op right =>
    have own := same name (by simp [Atom.tokens])
    have operand : Constraint.operandValue vm right = Constraint.operandValue vm' right :=
      operandValue_congr fun other is => same other (by simp [Atom.tokens, is])
    simp only [Atom.truth, Constraint.comparisonValue, exists?_congr own, get_congr own, operand]

theorem value_congr {f : Formula Atom} (same : ∀ atom ∈ f.atoms, atom.truth vm = atom.truth vm') :
    f.run (Atom.truth vm) = f.run (Atom.truth vm') := by
  induction f with
  | atom a => exact same a List.mem_cons_self
  | group f ih => exact ih same
  | not f ih =>
    simp only [Formula.run, ih same]
  | and l r ihl ihr =>
    have left := ihl fun a mem => same a (List.mem_append_left _ mem)
    have right := ihr fun a mem => same a (List.mem_append_right _ mem)
    simp only [Formula.run, left, right]
  | or l r ihl ihr =>
    have left := ihl fun a mem => same a (List.mem_append_left _ mem)
    have right := ihr fun a mem => same a (List.mem_append_right _ mem)
    simp only [Formula.run, left, right]

theorem AgreesOn.leadingTrue (agrees : AgreesOn text vm vm') (leading : Constraint.LeadingTrue vm text) :
    Constraint.LeadingTrue vm' text := by
  obtain ⟨f, rest, leads, holds⟩ := leading
  refine ⟨f, rest, leads, ?_⟩
  have value : f.run (Atom.truth vm) = f.run (Atom.truth vm') := by
    refine value_congr fun atom mem => truth_congr fun name token => agrees name ?_
    have inside : Token.identifier name ∈ f.toks := (Constraint.atom_isInfix mem).subset token
    exact isInfix_of_mem_tokenize (leads.tokens ▸ List.mem_append_left _ inside)
  exact value.symm.trans holds

omit [CxxDouble D] in
theorem AgreesOn.symm (agrees : AgreesOn text vm vm') : AgreesOn text vm' vm :=
  fun name occurs => (agrees name occurs).symm

theorem AgreesOn.evaluate (agrees : AgreesOn text vm vm') : evaluate vm text = evaluate vm' text := by
  refine Bool.eq_iff_iff.2 ?_
  show (Constraint.evaluateDetailed vm text).satisfied = true ↔ (Constraint.evaluateDetailed vm' text).satisfied = true
  rw [Constraint.satisfied_iff, Constraint.satisfied_iff]
  exact ⟨agrees.leadingTrue, agrees.symm.leadingTrue⟩

/-! ## Arithmetic expressions -/

namespace NumericExpressionParser

/-- Both parses give the same, and what they leave is a part of the text. -/
structure Alike (text : Str) (x y : Except Stop (D × Str)) : Prop where
  same : x = y
  part : ∀ value s, x = .ok (value, s) → s <:+: text

omit [CxxDouble D] in
theorem alike_ok {value : D} {s : Str} (part : s <:+: text) : Alike text (.ok (value, s)) (.ok (value, s)) :=
  ⟨rfl, fun _ _ eq => by cases eq; exact part⟩

omit [CxxDouble D] in
theorem alike_error (stop : Stop) : Alike text (.error stop : Except Stop (D × Str)) (.error stop) :=
  ⟨rfl, fun _ _ eq => nomatch eq⟩

omit [CxxDouble D] in
theorem Alike.bind {x y : Except Stop (D × Str)} {k k' : D × Str → Except Stop (D × Str)} (first : Alike text x y)
    (next : ∀ value s, s <:+: text → Alike text (k (value, s)) (k' (value, s))) : Alike text (x >>= k) (y >>= k') := by
  obtain ⟨rfl, part⟩ := first
  cases x with
  | error stop => exact alike_error stop
  | ok result => exact next result.1 result.2 (part _ _ rfl)

omit [CxxDouble D] in
theorem Alike.ite {c : Prop} [Decidable c] {x y x' y' : Except Stop (D × Str)} (yes : c → Alike text x y)
    (no : ¬c → Alike text x' y') : Alike text (if c then x else x') (if c then y else y') := by
  by_cases holds : c
  · rw [if_pos holds, if_pos holds]
    exact yes holds
  · rw [if_neg holds, if_neg holds]
    exact no holds

theorem skipSpaces_isInfix {s : Str} (part : s <:+: text) : skipSpaces s <:+: text :=
  (List.dropWhile_suffix isSpace).isInfix.trans part

theorem isInfix_of_cons {c : UInt8} {s : Str} (part : c :: s <:+: text) : s <:+: text :=
  (List.suffix_cons c s).isInfix.trans part

omit [CxxDouble D] in
theorem alike_closing (value : D) (missing : Str) {s : Str} (part : s <:+: text) :
    Alike text (closing value missing s) (closing value missing s) := by
  have behind := skipSpaces_isInfix part
  unfold closing
  cases skipped : skipSpaces s with
  | nil => exact alike_error _
  | cons c rest =>
    rw [skipped] at behind
    exact .ite (fun _ => alike_ok (isInfix_of_cons behind)) fun _ => alike_error _

theorem alike_callFunction (identifier : Str) (arg : D) {s : Str} (part : s <:+: text) :
    Alike text (callFunction identifier arg s) (callFunction identifier arg s) := by
  unfold callFunction
  exact .ite (fun _ => alike_ok part) fun _ => alike_error _

theorem alike_parseNumber {s : Str} (part : s <:+: text) :
    Alike text (parseNumber s : Except Stop (D × Str)) (parseNumber s) := by
  unfold parseNumber
  dsimp only
  exact .ite (fun _ => alike_error _) fun _ => alike_ok ((List.drop_suffix _ _).isInfix.trans part)

theorem alike_variable {name s : Str} (same : vm.lookup name = vm'.lookup name) (part : s <:+: text) :
    Alike text (do return (← throwing (variableToDouble vm name), s))
      (do return (← throwing (variableToDouble vm' name), s)) := by
  have value : variableToDouble vm name = variableToDouble vm' name := by
    unfold variableToDouble
    rw [same]
  rw [value]
  cases variableToDouble vm' name with
  | error what => exact alike_error _
  | ok value => exact alike_ok part

/-- With this fuel each of the functions does the same on both stores. -/
structure AlikeFrom (text : Str) (vm vm' : VariableManager D) (fuel : Nat) : Prop where
  factor : ∀ s, s <:+: text → Alike text (parseFactor vm fuel s) (parseFactor vm' fuel s)
  term : ∀ s, s <:+: text → Alike text (parseTerm vm fuel s) (parseTerm vm' fuel s)
  termLoop : ∀ value s, s <:+: text → Alike text (termLoop vm fuel value s) (termLoop vm' fuel value s)
  expression : ∀ s, s <:+: text → Alike text (parseExpression vm fuel s) (parseExpression vm' fuel s)
  expressionLoop : ∀ value s, s <:+: text →
    Alike text (expressionLoop vm fuel value s) (expressionLoop vm' fuel value s)

theorem AlikeFrom.factor_succ {fuel : Nat} (agrees : AgreesOn text vm vm') (ih : AlikeFrom text vm vm' fuel) (s : Str)
    (part : s <:+: text) : Alike text (parseFactor vm (fuel + 1) s) (parseFactor vm' (fuel + 1) s) := by
  have behind := skipSpaces_isInfix part
  unfold parseFactor
  cases skipped : skipSpaces s with
  | nil => exact alike_error _
  | cons c rest =>
    rw [skipped] at behind
    have inside := isInfix_of_cons behind
    refine .ite (fun _ => ih.factor rest inside) fun _ => ?_
    refine .ite (fun _ => (ih.factor rest inside).bind fun value s part => alike_ok part) fun _ => ?_
    refine .ite (fun _ => (ih.expression rest inside).bind fun value s part => alike_closing value _ part) fun _ => ?_
    refine .ite (fun _ => alike_parseNumber behind) fun _ => ?_
    refine .ite (fun _ => ?_) fun _ => alike_error _
    have named : c :: rest.takeWhile isWordChar <:+: text :=
      (List.prefix_cons_inj c |>.2 (List.takeWhile_prefix isWordChar)).isInfix.trans behind
    have after : skipSpaces (rest.dropWhile isWordChar) <:+: text :=
      skipSpaces_isInfix ((List.dropWhile_suffix isWordChar).isInfix.trans inside)
    dsimp only
    cases called : skipSpaces (rest.dropWhile isWordChar) with
    | nil => exact alike_variable (agrees _ named) List.nil_infix
    | cons c' rest' =>
      rw [called] at after
      refine .ite (fun _ => ?_) fun _ => alike_variable (agrees _ named) after
      refine (ih.expression rest' (isInfix_of_cons after)).bind fun arg s part => ?_
      exact (alike_closing arg _ part).bind fun arg s part => alike_callFunction _ arg part

theorem AlikeFrom.termLoop_succ {fuel : Nat} (ih : AlikeFrom text vm vm' fuel) (value : D) (s : Str)
    (part : s <:+: text) : Alike text (NumericExpressionParser.termLoop vm (fuel + 1) value s)
      (NumericExpressionParser.termLoop vm' (fuel + 1) value s) := by
  have behind := skipSpaces_isInfix part
  unfold NumericExpressionParser.termLoop
  cases skipped : skipSpaces s with
  | nil => exact alike_ok List.nil_infix
  | cons c rest =>
    rw [skipped] at behind
    have inside := isInfix_of_cons behind
    refine .ite (fun _ => (ih.factor rest inside).bind fun rhs s part => ih.termLoop _ s part) fun _ => ?_
    refine .ite (fun _ => (ih.factor rest inside).bind fun rhs s part => ?_) fun _ => alike_ok behind
    exact .ite (fun _ => alike_error _) fun _ => ih.termLoop _ s part

theorem AlikeFrom.expressionLoop_succ {fuel : Nat} (ih : AlikeFrom text vm vm' fuel) (value : D) (s : Str)
    (part : s <:+: text) : Alike text (NumericExpressionParser.expressionLoop vm (fuel + 1) value s)
      (NumericExpressionParser.expressionLoop vm' (fuel + 1) value s) := by
  have behind := skipSpaces_isInfix part
  unfold NumericExpressionParser.expressionLoop
  cases skipped : skipSpaces s with
  | nil => exact alike_ok List.nil_infix
  | cons c rest =>
    rw [skipped] at behind
    have inside := isInfix_of_cons behind
    refine .ite (fun _ => (ih.term rest inside).bind fun rhs s part => ih.expressionLoop _ s part) fun _ => ?_
    exact .ite (fun _ => (ih.term rest inside).bind fun rhs s part => ih.expressionLoop _ s part) fun _ => alike_ok behind

theorem alikeFrom (agrees : AgreesOn text vm vm') (fuel : Nat) : AlikeFrom text vm vm' fuel := by
  induction fuel with
  | zero => constructor <;> intros <;> exact alike_error _
  | succ fuel ih =>
    constructor
    · exact ih.factor_succ agrees
    · intro s part
      unfold parseTerm
      exact (ih.factor s part).bind fun value s part => ih.termLoop value s part
    · exact ih.termLoop_succ
    · intro s part
      unfold parseExpression
      exact (ih.term s part).bind fun value s part => ih.expressionLoop value s part
    · exact ih.expressionLoop_succ

theorem parse_congr (agrees : AgreesOn text vm vm') : parse vm text = parse vm' text := by
  unfold parse
  rw [((alikeFrom agrees _).expression text List.infix_rfl).same]

end NumericExpressionParser

/-! ## Values -/

/-- The value of an expression depends on the variables whose names occur in it. -/
theorem evaluateValueExpression_congr (agrees : AgreesOn text vm vm') :
    evaluateValueExpression vm text = evaluateValueExpression vm' text := by
  have trimmed := agrees.part (trim_isInfix text)
  have own := trimmed (trim text) List.infix_rfl
  have bare : evaluateBare vm (trim text) = evaluateBare vm' (trim text) := by
    unfold evaluateBare evaluateNumberOrText
    rw [exists?_congr own, get_congr own, trimmed.evaluate, NumericExpressionParser.parse_congr trimmed]
  unfold evaluateValueExpression
  dsimp only
  rw [bare]

/-- A LOCAL variable whose name does not occur in the text makes no difference. -/
theorem evaluateValueExpression_set {name : Str} (absent : ¬ name <:+: text) (vm : VariableManager D)
    (value : VariableValue D) :
    evaluateValueExpression (vm.set name value .loc) text = evaluateValueExpression vm text := by
  refine evaluateValueExpression_congr fun other inside => ?_
  have differ : other ≠ name := by
    rintro rfl
    exact absent inside
  have kept : (vm.set name value .loc).localVars.find? other = vm.localVars.find? other :=
    OrdMap.find?_insert_of_ne _ _ differ
  unfold VariableManager.lookup
  rw [kept]
  rfl

/-! ## Conditions with their messages -/

/-- The stores have the same variables, as far as the tokens name them. -/
def TokensAgree (ts : List Token) (vm vm' : VariableManager D) : Prop :=
  ∀ name, Token.identifier name ∈ ts → vm.lookup name = vm'.lookup name

/-- Both parses do the same, and what they leave are tokens of the list. -/
structure ParsesAlike (ts : List Token) (x y : Constraint.Parse) : Prop where
  same : x = y
  left : ∀ value rest, x = .ok (value, rest) → rest ⊆ ts

omit [CxxDouble D] in
theorem TokensAgree.part {ts rest : List Token} (agrees : TokensAgree ts vm vm') (part : rest ⊆ ts) :
    TokensAgree rest vm vm' := fun name token => agrees name (part token)

namespace ParsesAlike

variable {ts rest : List Token}

theorem ok {value : Bool} (part : rest ⊆ ts) : ParsesAlike ts (.ok (value, rest)) (.ok (value, rest)) :=
  ⟨rfl, fun _ _ eq => by cases eq; exact part⟩

theorem error (stop : Stop) : ParsesAlike ts (.error stop) (.error stop) := ⟨rfl, fun _ _ eq => nomatch eq⟩

theorem value {x y : Except Exn Bool} (same : x = y) (part : rest ⊆ ts) :
    ParsesAlike ts (do return (← throwing x, rest)) (do return (← throwing y, rest)) := by
  subst same
  cases x with
  | error what => exact error _
  | ok value => exact ok part

theorem mono {x y : Constraint.Parse} (alike : ParsesAlike rest x y) (part : rest ⊆ ts) : ParsesAlike ts x y :=
  ⟨alike.same, fun value left eq => List.Subset.trans (alike.left value left eq) part⟩

theorem bind {x y : Constraint.Parse} {k k' : Bool × List Token → Constraint.Parse} (first : ParsesAlike ts x y)
    (next : ∀ value rest, rest ⊆ ts → ParsesAlike ts (k (value, rest)) (k' (value, rest))) :
    ParsesAlike ts (x >>= k) (y >>= k') := by
  obtain ⟨rfl, left⟩ := first
  cases x with
  | error stop => exact error stop
  | ok result => exact next result.1 result.2 (left _ _ rfl)

end ParsesAlike

theorem parseIdentifier_congr {name : Str} {ts : List Token} (agrees : TokensAgree (.identifier name :: ts) vm vm') :
    ParsesAlike (.identifier name :: ts) (Constraint.parseIdentifier vm name ts)
      (Constraint.parseIdentifier vm' name ts) := by
  have own : vm.lookup name = vm'.lookup name := agrees name List.mem_cons_self
  have bare : Constraint.bareValue vm name = Constraint.bareValue vm' name := by
    unfold Constraint.bareValue
    rw [exists?_congr own, get_congr own]
  have operand : ∀ right, right ∈ ts → Constraint.operandValue vm right = Constraint.operandValue vm' right :=
    fun right mem => operandValue_congr fun other is => agrees other (List.mem_cons_of_mem _ (is ▸ mem))
  unfold Constraint.parseIdentifier
  split
  · exact .error _
  · refine .value ?_ fun token mem => by simp [mem]
    unfold Constraint.comparisonValue
    rw [operand _ (by simp), exists?_congr own, get_congr own]
  · exact .value bare (List.subset_cons_self _ _)

/-- With this fuel each of the parse functions does the same on both stores. -/
structure ParseFrom (vm vm' : VariableManager D) (fuel : Nat) : Prop where
  orExpression : ∀ ts, TokensAgree ts vm vm' →
    ParsesAlike ts (Constraint.parseOrExpression vm fuel ts) (Constraint.parseOrExpression vm' fuel ts)
  orLoop : ∀ value ts, TokensAgree ts vm vm' →
    ParsesAlike ts (Constraint.orLoop vm fuel value ts) (Constraint.orLoop vm' fuel value ts)
  andExpression : ∀ ts, TokensAgree ts vm vm' →
    ParsesAlike ts (Constraint.parseAndExpression vm fuel ts) (Constraint.parseAndExpression vm' fuel ts)
  andLoop : ∀ value ts, TokensAgree ts vm vm' →
    ParsesAlike ts (Constraint.andLoop vm fuel value ts) (Constraint.andLoop vm' fuel value ts)
  notExpression : ∀ ts, TokensAgree ts vm vm' →
    ParsesAlike ts (Constraint.parseNotExpression vm fuel ts) (Constraint.parseNotExpression vm' fuel ts)
  primary : ∀ ts, TokensAgree ts vm vm' →
    ParsesAlike ts (Constraint.parsePrimary vm fuel ts) (Constraint.parsePrimary vm' fuel ts)

theorem ParseFrom.primary_succ {fuel : Nat} (ih : ParseFrom vm vm' fuel) (ts : List Token)
    (agrees : TokensAgree ts vm vm') :
    ParsesAlike ts (Constraint.parsePrimary vm (fuel + 1) ts) (Constraint.parsePrimary vm' (fuel + 1) ts) := by
  cases ts with
  | nil => exact .error _
  | cons token rest =>
    have inside := List.subset_cons_self token rest
    cases token with
    | lparen =>
      rw [Constraint.parsePrimary, Constraint.parsePrimary]
      refine ((ih.orExpression rest (agrees.part inside)).mono inside).bind fun value left part => ?_
      split
      · rename_i same
        obtain ⟨rfl, rfl⟩ := Prod.mk.inj same
        exact .ok (List.Subset.trans (List.subset_cons_self _ _) part)
      · exact .error _
    | number text => exact .ok inside
    | identifier name => exact parseIdentifier_congr agrees
    | _ => exact .error _

theorem parseFrom (fuel : Nat) : ParseFrom vm vm' fuel := by
  induction fuel with
  | zero => constructor <;> intros <;> exact .error _
  | succ fuel ih =>
    constructor
    · intro ts agrees
      unfold Constraint.parseOrExpression
      exact (ih.andExpression ts agrees).bind fun value rest part => (ih.orLoop value rest (agrees.part part)).mono part
    · intro value ts agrees
      by_cases more : ∃ rest, ts = .or :: rest
      · obtain ⟨rest, rfl⟩ := more
        have inside := List.subset_cons_self Token.or rest
        rw [Constraint.orLoop, Constraint.orLoop]
        refine ((ih.andExpression rest (agrees.part inside)).mono inside).bind fun right left part => ?_
        exact (ih.orLoop _ left (agrees.part part)).mono part
      · have stop : ∀ rest, ts ≠ .or :: rest := fun rest is => more ⟨rest, is⟩
        rw [Constraint.orLoop_stop vm value stop, Constraint.orLoop_stop vm' value stop]
        exact .ok (List.Subset.refl _)
    · intro ts agrees
      unfold Constraint.parseAndExpression
      exact (ih.notExpression ts agrees).bind fun value rest part => (ih.andLoop value rest (agrees.part part)).mono part
    · intro value ts agrees
      by_cases more : ∃ rest, ts = .and :: rest
      · obtain ⟨rest, rfl⟩ := more
        have inside := List.subset_cons_self Token.and rest
        rw [Constraint.andLoop, Constraint.andLoop]
        refine ((ih.notExpression rest (agrees.part inside)).mono inside).bind fun right left part => ?_
        exact (ih.andLoop _ left (agrees.part part)).mono part
      · have stop : ∀ rest, ts ≠ .and :: rest := fun rest is => more ⟨rest, is⟩
        rw [Constraint.andLoop_stop vm value stop, Constraint.andLoop_stop vm' value stop]
        exact .ok (List.Subset.refl _)
    · intro ts agrees
      by_cases negated : ∃ rest, ts = .not :: rest
      · obtain ⟨rest, rfl⟩ := negated
        have inside := List.subset_cons_self Token.not rest
        rw [Constraint.parseNotExpression, Constraint.parseNotExpression]
        exact ((ih.notExpression rest (agrees.part inside)).mono inside).bind fun value left part => .ok part
      · have other : ∀ rest, ts = .not :: rest → False := fun rest is => negated ⟨rest, is⟩
        rw [Constraint.parseNotExpression.eq_3 _ _ _ other, Constraint.parseNotExpression.eq_3 _ _ _ other]
        exact ih.primary ts agrees
    · exact ih.primary_succ

/-- The verdict of a condition and its message depend on the variables whose names occur in it. -/
theorem AgreesOn.evaluateDetailed (agrees : AgreesOn text vm vm') :
    Constraint.evaluateDetailed vm text = Constraint.evaluateDetailed vm' text := by
  have tokens : TokensAgree (Constraint.tokenize text) vm vm' :=
    fun name token => agrees name (isInfix_of_mem_tokenize token)
  have parsed : Constraint.parseExpression vm (Constraint.tokenize text) =
      Constraint.parseExpression vm' (Constraint.tokenize text) := ((parseFrom _).orExpression _ tokens).same
  unfold Constraint.evaluateDetailed
  dsimp only
  rw [parsed]

end Actuator.Executor
