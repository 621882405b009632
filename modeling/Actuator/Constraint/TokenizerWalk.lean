import Actuator.Constraint.Scan
import Actuator.Lib.Walk

/-!
# The walk of the tokenizer

`tokenize` once more, now over the trimmed text and the index `i`, as it is
written, with a record of the characters it reads, of every change of `i` and of
every round. A round takes the piece that it takes from the front of the rest of
the text, so it advances, and the walk ends with the same tokens.
-/

namespace Actuator.Constraint.TokenizerWalk

open Actuator.Lib Actuator.Lib.Walker Actuator.Executor

/-! ## The loop -/

/-- The tokenizer has no functions that call each other. -/
abbrev Scanner (α : Type) := Walker Empty Exn α

section Scanner

variable (trimmed : Str)

/-- `trimmed.find(quote, start)`. -/
def findFrom (quote : UInt8) (start : Nat) : Option Nat := (find? [quote] (trimmed.drop start)).map (start + ·)

/-- `trimmed.substr(start, stop - start)`. -/
def between (start stop : Nat) : Str := (trimmed.drop start).take (stop - start)

/-- A round of the loop, with the token it adds. -/
def scanRound : Scanner (Option Token) := do
  let i ← position
  let c ← look trimmed
  if isSpace c then do
    advance 1
    return none
  else if c = ch '(' then do
    advance 1
    return some .lparen
  else if c = ch ')' then do
    advance 1
    return some .rparen
  else
    match (if isQuote c then findFrom trimmed c (i + 1) else none) with
    | some stop => do
      advance (stop + 1 - i)
      return some (.string (between trimmed (i + 1) stop))
    | none =>
      if isDigit c ∨ (c = ch '-' ∧ trimmed[i + 1]?.any isDigit) then do
        if c = ch '-' then advance 1 else pure ()
        pass trimmed isNumberChar
        return some (.number (between trimmed i (← position)))
      else
        match twoCharToken? c (trimmed.drop (i + 1)) with
        | some token => do
          advance 2
          return some token
        | none =>
          if c = ch '<' ∨ c = ch '>' ∨ c = ch '=' ∨ c = ch '!' then do
            advance 1
            return some (.operator [c])
          else if isAlpha c ∨ c = ch '_' then do
            pass trimmed isWordChar
            return some (wordToken (between trimmed i (← position)))
          else do
            advance 1
            return none

/-- The loop, with the tokens so far. -/
def scanLoop : Nat → List Token → Scanner (List Token)
  | 0, _ => halt .outOfFuel
  | fuel + 1, tokens => do
    let start ← position
    if start < trimmed.length then do
      let token? ← scanRound trimmed
      again start
      scanLoop fuel (tokens ++ token?.toList)
    else return tokens ++ [.eof]

end Scanner

/-! ## A round takes a piece -/

section Rounds

variable {trimmed : Str} {p : Nat} {c : UInt8} {rest : Str}

/-- The specification of a part of the tokenizer. -/
abbrev Walks {α : Type} (trimmed : Str) (p : Nat) (x : Scanner α) (post : Except (Halt Exn) α → Nat → Prop) : Prop :=
  Walker.Walks (fun f : Empty => nomatch f) trimmed.length p x post

/-- The round returns the token of the piece, behind it. -/
def Takes (trimmed : Str) (p : Nat) (piece : Piece × Str) (out : Except (Halt Exn) (Option Token)) (q : Nat) : Prop :=
  out = .ok piece.1.token? ∧ p < q ∧ trimmed.drop q = piece.2

theorem between_cons (here : trimmed.drop p = c :: rest) (n : Nat) :
    between trimmed p (p + 1 + n) = c :: rest.take n := by
  unfold between
  rw [here, show p + 1 + n - p = n + 1 by omega, List.take_succ_cons]

theorem findFrom_eq (here : trimmed.drop p = c :: rest) :
    findFrom trimmed c (p + 1) =
      if c ∈ rest then some (p + 1 + (rest.takeWhile (· ≠ c)).length) else none := by
  obtain ⟨-, -, behind⟩ := drop_eq_cons here
  unfold findFrom
  rw [behind]
  split
  · rename_i closed
    have before : c ∉ rest.takeWhile (· ≠ c) := by
      intro mem
      have other := List.mem_takeWhile_imp mem
      simp at other
    conv => lhs; rw [eq_around_of_mem closed, find?_byte before]
    rfl
  · rename_i missing
    rw [find?_byte_none missing]
    rfl

/-- One character. -/
theorem walks_single (here : trimmed.drop p = c :: rest) (token? : Option Token) {piece : Piece}
    (adds : piece.token? = token?) :
    Walks trimmed p (do advance 1; return token?) (Takes trimmed p (piece, rest)) := by
  obtain ⟨inside, -, behind⟩ := drop_eq_cons here
  refine (walks_advance inside).after fun _ le => ?_
  exact walks_pure le ⟨congrArg _ adds.symm, Nat.lt_succ_self p, behind⟩

/-- The loop that passes the characters with a property, from the first character or the one behind it. -/
theorem walks_run (here : trimmed.drop p = c :: rest) (test : UInt8 → Bool) (token : Str → Token) {q : Nat}
    (from_ : q = p + 1 ∨ q = p ∧ test c = true) :
    Walks trimmed q (do pass trimmed test; return some (token (between trimmed p (← position))))
      (Takes trimmed p (.lexeme (c :: rest.takeWhile test) (token (c :: rest.takeWhile test)), rest.dropWhile test)) := by
  obtain ⟨inside, -, behind⟩ := drop_eq_cons here
  have whole : q + ((trimmed.drop q).takeWhile test).length = p + 1 + (rest.takeWhile test).length := by
    rcases from_ with rfl | ⟨rfl, first⟩
    · rw [behind]
    · rw [here, List.takeWhile_cons_of_pos first, List.length_cons]
      omega
  have le : q ≤ trimmed.length := by omega
  refine (walks_pass test le).after fun _ le' => ?_
  rw [whole] at le' ⊢
  refine (walks_position le').after fun _ _ => ?_
  refine walks_pure le' ⟨?_, by omega, ?_⟩
  · rw [between_cons here, take_length_takeWhile]
    rfl
  · rw [← List.drop_drop, behind, drop_length_takeWhile]

/-- A quoted text, to the closing quote. -/
theorem walks_quoted (here : trimmed.drop p = c :: rest) (closed : c ∈ rest) :
    let stop := p + 1 + (rest.takeWhile (· ≠ c)).length
    Walks trimmed p (do advance (stop + 1 - p); return some (.string (between trimmed (p + 1) stop)))
      (Takes trimmed p (.lexeme (c :: rest.takeWhile (· ≠ c) ++ [c]) (.string (rest.takeWhile (· ≠ c))),
        rest.drop ((rest.takeWhile (· ≠ c)).length + 1))) := by
  intro stop
  obtain ⟨inside, -, behind⟩ := drop_eq_cons here
  have around := congrArg List.length (eq_around_of_mem closed)
  have size := congrArg List.length behind
  simp only [List.length_append, List.length_cons] at around
  rw [List.length_drop] at size
  have far : p + (stop + 1 - p) = p + 1 + ((rest.takeWhile (· ≠ c)).length + 1) := by omega
  refine (walks_advance (by omega)).after fun _ le => ?_
  refine walks_pure le ⟨?_, by omega, ?_⟩
  · unfold between
    rw [behind, show stop - (p + 1) = (rest.takeWhile (· ≠ c)).length by omega, take_length_takeWhile]
    rfl
  · rw [far, ← List.drop_drop, behind]

/-- A token of two characters. -/
theorem walks_two (here : trimmed.drop p = c :: rest) {token : Token} (two : twoCharToken? c rest = some token) :
    Walks trimmed p (do advance 2; return some token)
      (Takes trimmed p (.lexeme (c :: rest.take 1) token, rest.drop 1)) := by
  obtain ⟨inside, -, behind⟩ := drop_eq_cons here
  have long : 1 ≤ rest.length := by
    cases rest with
    | nil => cases two
    | cons b rest => exact Nat.succ_pos _
  have size := congrArg List.length behind
  rw [List.length_drop] at size
  refine (walks_advance (by omega)).after fun _ le => ?_
  exact walks_pure le ⟨rfl, by omega, by rw [← behind, List.drop_drop]⟩

/-- A round takes the piece from the front of the rest of the text. -/
theorem walks_scanRound (here : trimmed.drop p = c :: rest) :
    Walks trimmed p (scanRound trimmed) (Takes trimmed p (scanPiece c rest)) := by
  obtain ⟨inside, -, behind⟩ := drop_eq_cons here
  have le : p ≤ trimmed.length := by omega
  have next : trimmed[p + 1]? = rest.head? := by rw [← behind, List.head?_drop]
  unfold scanRound scanPiece
  refine (walks_position le).after fun _ _ => ?_
  refine (walks_look here).after fun _ _ => ?_
  rw [findFrom_eq here, next, behind]
  by_cases space : isSpace c = true
  · rw [if_pos space, if_pos space]
    exact walks_single here none rfl
  rw [if_neg space, if_neg space]
  by_cases lparen : c = ch '('
  · rw [if_pos lparen, if_pos lparen]
    exact walks_single here _ rfl
  rw [if_neg lparen, if_neg lparen]
  by_cases rparen : c = ch ')'
  · rw [if_pos rparen, if_pos rparen]
    exact walks_single here _ rfl
  rw [if_neg rparen, if_neg rparen]
  by_cases quoted : isQuote c = true ∧ c ∈ rest
  · rw [if_pos quoted, if_pos quoted.1, if_pos quoted.2]
    exact walks_quoted here quoted.2
  have unquoted : (if isQuote c = true then if c ∈ rest then some (p + 1 + (rest.takeWhile (· ≠ c)).length) else none
      else none) = none := by
    split
    · rename_i quote
      exact if_neg fun closed => quoted ⟨quote, closed⟩
    · rfl
  rw [if_neg quoted, unquoted]
  dsimp only
  split
  · rename_i starts
    by_cases minus : c = ch '-'
    · rw [if_pos minus]
      refine (walks_advance inside).after fun _ _ => ?_
      exact walks_run here isNumberChar .number (Or.inl rfl)
    · rw [if_neg minus]
      have digit : isNumberChar c = true := by
        rw [isNumberChar, starts.resolve_right fun both => minus both.1, Bool.true_or]
      exact walks_run here isNumberChar .number (Or.inr ⟨rfl, digit⟩)
  cases two : twoCharToken? c rest with
  | some token => exact walks_two here two
  | none =>
    dsimp only
    split
    · exact walks_single here _ rfl
    split
    · rename_i starts
      have word : isWordChar c = true := by
        rcases starts with alpha | rfl
        · simp [isWordChar, isAlnum, alpha]
        · rfl
      exact walks_run here isWordChar wordToken (Or.inr ⟨rfl, word⟩)
    · exact walks_single here none rfl

end Rounds

/-! ## The whole text -/

section Whole

variable {trimmed : Str}

theorem walks_scanLoop {fuel p : Nat} (tokens : List Token) (le : p ≤ trimmed.length) (enough : trimmed.length - p < fuel) :
    Walks trimmed p (scanLoop trimmed fuel tokens)
      (Returns (tokens ++ (tokensOf (trimmed.drop p) ++ [.eof])) trimmed.length) := by
  induction fuel generalizing p tokens with
  | zero => omega
  | succ fuel ih =>
    refine (walks_position le).after fun _ _ => ?_
    cases here : trimmed.drop p with
    | nil =>
      have ended := List.drop_eq_nil_iff.1 here
      rw [if_neg (Nat.not_lt.2 ended)]
      exact walks_pure le ⟨rfl, Nat.le_antisymm le ended⟩
    | cons c rest =>
      rw [if_pos (drop_eq_cons here).1]
      refine (walks_scanRound here).bind ?_ (fun why q halts => by cases halts.1)
      rintro token? q _ inside ⟨same, further, behind⟩
      cases same
      refine (walks_again inside further).after fun _ _ => ?_
      refine (ih (tokens ++ (scanPiece c rest).1.token?.toList) inside (by omega)).mono fun out r _ _ returns => ?_
      rw [behind] at returns
      have grown : tokensOf (c :: rest) = (scanPiece c rest).1.token?.toList ++ tokensOf (scanPiece c rest).2 := by
        unfold tokensOf
        rw [scanAll_cons, List.filterMap_cons]
        cases (scanPiece c rest).1.token? <;> rfl
      rw [grown, List.append_assoc, ← List.append_assoc tokens]
      exact returns

/-- The walk of `tokenize` over the trimmed expression. -/
def walk (expr : Str) : Except (Halt Exn) (List Token) × Walk Empty :=
  scanLoop (trim expr) ((trim expr).length + 1) [] ⟨0, []⟩

/-- The walk goes to the end of the trimmed text in sound steps and returns the tokens. -/
theorem walk_tokenize (expr : Str) :
    (walk expr).1 = .ok (tokenize expr) ∧ Path 0 (walk expr).2.steps (trim expr).length ∧
      ∀ step ∈ (walk expr).2.steps, step.Sound (fun f : Empty => nomatch f) (trim expr).length := by
  have walks : Walks (trim expr) 0 (scanLoop (trim expr) ((trim expr).length + 1) [])
      (Returns (tokenize expr) (trim expr).length) := walks_scanLoop [] (Nat.zero_le _) (by omega)
  obtain ⟨path, sound, same, atEnd⟩ := walks.whole
  rw [atEnd] at path
  exact ⟨same, path, sound⟩

end Whole

/-! ## The end token -/

theorem twoCharToken?_ne_eof (c : UInt8) (rest : Str) : twoCharToken? c rest ≠ some .eof := by
  unfold twoCharToken?
  split
  · nofun
  · split_ifs <;> nofun

theorem wordToken_ne_eof (word : Str) : wordToken word ≠ .eof := by
  unfold wordToken
  split_ifs <;> nofun

/-- No piece is an end token. -/
theorem token_scanPiece_ne_eof (c : UInt8) (rest : Str) : (scanPiece c rest).1.token? ≠ some .eof := by
  have round := round_scanPiece c rest
  generalize scanPiece c rest = p at round ⊢
  cases round with
  | two found =>
    intro same
    cases Option.some.inj same
    exact twoCharToken?_ne_eof c rest found
  | word =>
    intro same
    exact wordToken_ne_eof _ (Option.some.inj same)
  | _ => nofun

/-- The end token is the last one, and no other token is one. -/
theorem tokenize_ends (expr : Str) : ∃ front, tokenize expr = front ++ [.eof] ∧ Token.eof ∉ front := by
  refine ⟨tokensOf expr, tokenize_eq expr, fun mem => ?_⟩
  obtain ⟨piece, inside, same⟩ := List.mem_filterMap.1 mem
  exact forall_mem_scanAll (P := fun piece => piece.token? ≠ some .eof) token_scanPiece_ne_eof expr piece inside same

end Actuator.Constraint.TokenizerWalk
