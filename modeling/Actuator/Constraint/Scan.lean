import Actuator.Constraint.Evaluator

/-!
# The tokenizer loop

The rounds of the loop cut the trimmed text into pieces that make it up again.
A text that spells tokens one after the other, white space between them, is
taken apart into exactly those tokens.
-/

namespace Actuator.Constraint

open Actuator.Lib Actuator.Executor

/-! ## Pieces make up the text -/

/-- What a round can take from the front of a text, and what it leaves. -/
inductive Round (c : UInt8) (rest : Str) : Piece × Str → Prop
  | blank (space : isSpace c = true) : Round c rest (.blank c, rest)
  | lparen (is : c = ch '(') : Round c rest (.lexeme [c] .lparen, rest)
  | rparen (is : c = ch ')') : Round c rest (.lexeme [c] .rparen, rest)
  | quoted (quote : isQuote c = true) (closed : c ∈ rest) :
    Round c rest (.lexeme (c :: rest.takeWhile (· ≠ c) ++ [c]) (.string (rest.takeWhile (· ≠ c))),
      rest.drop ((rest.takeWhile (· ≠ c)).length + 1))
  | number (starts : isDigit c = true ∨ (c = ch '-' ∧ rest.head?.any isDigit = true)) :
    Round c rest (.lexeme (c :: rest.takeWhile isNumberChar) (.number (c :: rest.takeWhile isNumberChar)),
      rest.dropWhile isNumberChar)
  | two {token : Token} (found : twoCharToken? c rest = some token) :
    Round c rest (.lexeme (c :: rest.take 1) token, rest.drop 1)
  | operator (is : c = ch '<' ∨ c = ch '>' ∨ c = ch '=' ∨ c = ch '!') :
    Round c rest (.lexeme [c] (.operator [c]), rest)
  | word (starts : isAlpha c = true ∨ c = ch '_') :
    Round c rest (.lexeme (c :: rest.takeWhile isWordChar) (wordToken (c :: rest.takeWhile isWordChar)),
      rest.dropWhile isWordChar)
  | dropped : Round c rest (.dropped c, rest)

theorem round_scanPiece (c : UInt8) (rest : Str) : Round c rest (scanPiece c rest) := by
  unfold scanPiece
  split
  · exact .blank ‹_›
  split
  · exact .lparen ‹_›
  split
  · exact .rparen ‹_›
  split
  · rename_i quoted
    exact .quoted quoted.1 quoted.2
  split
  · exact .number ‹_›
  split
  · exact .two ‹_›
  split
  · exact .operator ‹_›
  split
  · exact .word ‹_›
  · exact .dropped

theorem scanPiece_text (c : UInt8) (rest : Str) : (scanPiece c rest).1.text ++ (scanPiece c rest).2 = c :: rest := by
  have round := round_scanPiece c rest
  generalize scanPiece c rest = p at round ⊢
  cases round with
  | quoted _ closed =>
    conv => rhs; rw [eq_around_of_mem closed]
    simp [Piece.text]
  | number => simp only [Piece.text, List.cons_append, List.takeWhile_append_dropWhile]
  | two => simp only [Piece.text, List.cons_append, List.take_append_drop]
  | word => simp only [Piece.text, List.cons_append, List.takeWhile_append_dropWhile]
  | _ => rfl

theorem text_scanPiece_ne_nil (c : UInt8) (rest : Str) : (scanPiece c rest).1.text ≠ [] := by
  have round := round_scanPiece c rest
  generalize scanPiece c rest = p at round ⊢
  cases round <;> exact List.cons_ne_nil _ _

theorem length_scanPiece_le (c : UInt8) (rest : Str) : (scanPiece c rest).2.length ≤ rest.length := by
  have whole := congrArg List.length (scanPiece_text c rest)
  have some := List.length_pos_iff.2 (text_scanPiece_ne_nil c rest)
  simp only [List.length_append, List.length_cons] at whole
  omega

/-- The rounds on a text, with as much fuel as it has characters. -/
def scanAll (s : Str) : List Piece := scanLoop s.length s

/-- More fuel than characters changes nothing. -/
theorem scanLoop_eq (fuel : Nat) (s : Str) (enough : s.length ≤ fuel) : scanLoop fuel s = scanAll s := by
  have agree : ∀ fuel fuel' s, List.length s ≤ fuel → List.length s ≤ fuel' → scanLoop fuel s = scanLoop fuel' s := by
    intro fuel
    induction fuel with
    | zero =>
      intro fuel' s le _
      obtain rfl := List.length_eq_zero_iff.1 (Nat.le_zero.1 le)
      cases fuel' <;> rfl
    | succ fuel ih =>
      intro fuel' s le le'
      cases s with
      | nil => cases fuel' <;> rfl
      | cons c rest =>
        obtain ⟨fuel', rfl⟩ := Nat.exists_eq_add_of_le' (show 1 ≤ fuel' by simp at le'; omega)
        have shorter := length_scanPiece_le c rest
        simp only [List.length_cons] at le le'
        simp only [scanLoop]
        rw [ih fuel' _ (by omega) (by omega)]
  exact agree _ _ s enough (le_refl _)

@[simp] theorem scanAll_nil : scanAll [] = [] := rfl

theorem scanAll_cons (c : UInt8) (rest : Str) :
    scanAll (c :: rest) = (scanPiece c rest).1 :: scanAll (scanPiece c rest).2 := by
  rw [← scanLoop_eq rest.length (scanPiece c rest).2 (length_scanPiece_le c rest)]
  rfl

/-- Every piece is one that a round takes. -/
theorem forall_mem_scanAll {P : Piece → Prop} (each : ∀ c rest, P (scanPiece c rest).1) (s : Str) :
    ∀ p ∈ scanAll s, P p := by
  have all : ∀ n (s : Str), s.length = n → ∀ p ∈ scanAll s, P p := by
    intro n
    induction n using Nat.strong_induction_on with
    | _ n ih =>
      intro s len p mem
      cases s with
      | nil => cases mem
      | cons c rest =>
        have shorter := length_scanPiece_le c rest
        simp only [List.length_cons] at len
        rw [scanAll_cons] at mem
        rcases List.mem_cons.1 mem with rfl | mem
        · exact each c rest
        · exact ih _ (by omega) _ rfl p mem
  exact all _ s rfl

/-- The tokenizer's rounds use up the whole trimmed expression. -/
theorem text_scan (expr : Str) : (scan expr).flatMap Piece.text = trim expr := by
  have all : ∀ n (s : Str), s.length = n → (scanAll s).flatMap Piece.text = s := by
    intro n
    induction n using Nat.strong_induction_on with
    | _ n ih =>
      intro s len
      cases s with
      | nil => rfl
      | cons c rest =>
        have shorter := length_scanPiece_le c rest
        simp only [List.length_cons] at len
        rw [scanAll_cons, List.flatMap_cons, ih _ (by omega) _ rfl, scanPiece_text]
  exact all _ _ rfl

/-! ## Texts behind each other -/

/-- White space or a parenthesis: no token but a quoted text reaches across it. -/
def IsBoundary (c : UInt8) : Prop := isSpace c = true ∨ c = ch '(' ∨ c = ch ')'

/-- Nothing, or something that starts with a boundary. -/
def StartsApart (tail : Str) : Prop := ∀ c ∈ tail.head?, IsBoundary c

theorem IsBoundary.cases {c : UInt8} (boundary : IsBoundary c) :
    c.toNat = 32 ∨ (9 ≤ c.toNat ∧ c.toNat ≤ 13) ∨ c.toNat = 40 ∨ c.toNat = 41 := by
  rcases boundary with space | rfl | rfl
  · have range : c.toNat = 32 ∨ (9 ≤ c.toNat ∧ c.toNat ≤ 13) := by simpa [isSpace] using space
    omega
  · decide
  · decide

theorem IsBoundary.not_wordChar {c : UInt8} (boundary : IsBoundary c) : isWordChar c = false := by
  have range := boundary.cases
  simp [isWordChar, isAlnum, isAlpha, isDigit, ch, ← UInt8.toNat_inj]
  omega

theorem IsBoundary.not_numberChar {c : UInt8} (boundary : IsBoundary c) : isNumberChar c = false := by
  have range := boundary.cases
  simp [isNumberChar, isDigit, ch, ← UInt8.toNat_inj]
  omega

/-- Two characters in front of a boundary are no operator of two characters. -/
theorem IsBoundary.twoCharToken? {b : UInt8} (boundary : IsBoundary b) (c : UInt8) (tail : Str) :
    twoCharToken? c (b :: tail) = none := by
  have range := boundary.cases
  have apart : b.toNat ≠ 38 ∧ b.toNat ≠ 124 ∧ b.toNat ≠ 61 ∧ b.toNat ≠ 60 ∧ b.toNat ≠ 62 := by omega
  show (if [c, b] = [38, 38] then _ else if [c, b] = [124, 124] then _
    else if [c, b] ∈ [[61, 61], [33, 61], [60, 61], [62, 61], [60, 60], [62, 62]] then _ else _) = _
  simp [← UInt8.toNat_inj, apart]

theorem takeWhile_append_of_head {p : UInt8 → Bool} (s : Str) {tail : Str} (stop : ∀ c ∈ tail.head?, p c = false) :
    (s ++ tail).takeWhile p = s.takeWhile p ∧ (s ++ tail).dropWhile p = s.dropWhile p ++ tail := by
  induction s with
  | nil =>
    cases tail with
    | nil => exact ⟨rfl, rfl⟩
    | cons b tail =>
      have stops := stop b rfl
      simp [stops]
  | cons c s ih =>
    cases inside : p c
    · simp [inside]
    · simpa [inside] using ih

/-- A round takes the same piece when something set apart follows, unless a quote finds its end only there. -/
theorem scanPiece_append {c : UInt8} {rest tail : Str} (apart : StartsApart tail)
    (quotes : isQuote c = true → c ∈ rest ∨ c ∉ tail) :
    scanPiece c (rest ++ tail) = ((scanPiece c rest).1, (scanPiece c rest).2 ++ tail) := by
  obtain ⟨numbers, behindNumbers⟩ :=
    takeWhile_append_of_head rest fun b first => (apart b first).not_numberChar
  obtain ⟨words, behindWords⟩ := takeWhile_append_of_head rest fun b first => (apart b first).not_wordChar
  have quoted : (isQuote c = true ∧ c ∈ rest ++ tail) ↔ (isQuote c = true ∧ c ∈ rest) := by
    constructor
    · rintro ⟨quote, mem⟩
      rcases List.mem_append.1 mem with mem | mem
      · exact ⟨quote, mem⟩
      · exact ⟨quote, (quotes quote).resolve_right fun none => none mem⟩
    · rintro ⟨quote, mem⟩
      exact ⟨quote, List.mem_append_left _ mem⟩
  have digit : (rest ++ tail).head?.any isDigit = rest.head?.any isDigit := by
    cases rest with
    | cons b rest => rfl
    | nil =>
      cases tail with
      | nil => rfl
      | cons b tail =>
        have none := (apart b rfl).not_numberChar
        simp only [isNumberChar, Bool.or_eq_false_iff] at none
        exact none.1
  have two : twoCharToken? c (rest ++ tail) = twoCharToken? c rest := by
    cases rest with
    | cons b rest => rfl
    | nil =>
      cases tail with
      | nil => rfl
      | cons b tail => exact (apart b rfl).twoCharToken? c tail
  unfold scanPiece
  split
  · rfl
  split
  · rfl
  split
  · rfl
  simp only [quoted, digit, numbers, behindNumbers, words, behindWords, two]
  split
  · rename_i inside
    have front : (rest ++ tail).takeWhile (· ≠ c) = rest.takeWhile (· ≠ c) := by
      conv => lhs; rw [eq_around_of_mem inside.2, List.append_assoc]
      rw [List.takeWhile_append_of_pos]
      · simp
      · intro x mem
        exact @List.mem_takeWhile_imp _ (fun y => decide (y ≠ c)) rest x mem
    have short : (rest.takeWhile (· ≠ c)).length + 1 ≤ rest.length := by
      conv => rhs; rw [eq_around_of_mem inside.2]
      simp
    rw [front, List.drop_append_of_le_length short]
  split
  · rfl
  cases found : twoCharToken? c rest with
  | some token =>
    cases rest with
    | nil => cases found
    | cons b rest => rfl
  | none =>
    dsimp only
    split
    · rfl
    split
    · rfl
    · rfl

/-- No round skips a character that is not white space. -/
def NothingSkipped (s : Str) : Prop := ∀ p ∈ scanAll s, ∀ c, p ≠ .dropped c

/-- A quote that is not closed is skipped. -/
theorem scanPiece_unclosed {c : UInt8} {rest : Str} (quote : isQuote c = true) (unclosed : c ∉ rest) :
    scanPiece c rest = (.dropped c, rest) := by
  have cases : c = ch '\'' ∨ c = ch '"' := by simpa [isQuote] using quote
  have two : twoCharToken? c rest = none := by
    cases rest with
    | nil => rfl
    | cons b rest =>
      show (if [c, b] = [38, 38] then _ else if [c, b] = [124, 124] then _
        else if [c, b] ∈ [[61, 61], [33, 61], [60, 61], [62, 61], [60, 60], [62, 62]] then _ else _) = _
      rcases cases with rfl | rfl <;> simp [ch]
  unfold scanPiece
  simp only [two, unclosed, and_false, if_false]
  rcases cases with rfl | rfl <;> rfl

/-- A text set apart from what is in front of it is scanned by itself. -/
theorem scanAll_append {s tail : Str} (apart : StartsApart tail)
    (closed : NothingSkipped s ∨ ∀ q, isQuote q = true → q ∉ tail) :
    scanAll (s ++ tail) = scanAll s ++ scanAll tail := by
  have all : ∀ n (s : Str), s.length = n → (NothingSkipped s ∨ ∀ q, isQuote q = true → q ∉ tail) →
      scanAll (s ++ tail) = scanAll s ++ scanAll tail := by
    intro n
    induction n using Nat.strong_induction_on with
    | _ n ih =>
      intro s len closed
      cases s with
      | nil => rfl
      | cons c rest =>
        have shorter := length_scanPiece_le c rest
        simp only [List.length_cons] at len
        have quotes : isQuote c = true → c ∈ rest ∨ c ∉ tail := by
          intro quote
          by_cases inside : c ∈ rest
          · exact Or.inl inside
          · rcases closed with nothing | none
            · have skipped := nothing (scanPiece c rest).1 (by rw [scanAll_cons]; exact List.mem_cons_self) c
              rw [scanPiece_unclosed quote inside] at skipped
              exact absurd rfl skipped
            · exact Or.inr (none c quote)
        have later : NothingSkipped (scanPiece c rest).2 ∨ ∀ q, isQuote q = true → q ∉ tail := by
          refine closed.imp_left fun nothing p mem => nothing p ?_
          rw [scanAll_cons]
          exact List.mem_cons_of_mem _ mem
        rw [List.cons_append, scanAll_cons, scanPiece_append apart quotes, scanAll_cons, List.cons_append,
          ih _ (by omega) _ rfl later]
  exact all _ s rfl closed

/-! ## The tokens of a text -/

/-- The tokens the rounds on a text contribute. -/
def tokensOf (s : Str) : List Token := (scanAll s).filterMap Piece.token?

theorem tokensOf_append {s tail : Str} (apart : StartsApart tail)
    (closed : NothingSkipped s ∨ ∀ q, isQuote q = true → q ∉ tail) :
    tokensOf (s ++ tail) = tokensOf s ++ tokensOf tail := by
  unfold tokensOf
  rw [scanAll_append apart closed, List.filterMap_append]

/-- Blanks in front are pieces of their own. -/
theorem scanAll_blanks {blanks : Str} (blank : ∀ c ∈ blanks, isSpace c = true) (s : Str) :
    scanAll (blanks ++ s) = blanks.map Piece.blank ++ scanAll s := by
  induction blanks with
  | nil => rfl
  | cons c blanks ih =>
    have space := blank c List.mem_cons_self
    rw [List.cons_append, scanAll_cons, scanPiece, if_pos space, List.map_cons, List.cons_append]
    exact congrArg _ (ih fun c mem => blank c (List.mem_cons_of_mem _ mem))

theorem filterMap_blanks (blanks : Str) : (blanks.map Piece.blank).filterMap Piece.token? = [] := by
  rw [List.filterMap_map, show Piece.token? ∘ Piece.blank = fun _ => none from rfl, List.filterMap_none]

/-- Blanks in front contribute nothing. -/
theorem tokensOf_blanks {blanks s : Str} (blank : ∀ c ∈ blanks, isSpace c = true) :
    tokensOf (blanks ++ s) = tokensOf s := by
  unfold tokensOf
  rw [scanAll_blanks blank, List.filterMap_append, filterMap_blanks, List.nil_append]

/-- Trimming takes only blank pieces away. -/
theorem scanAll_trim (expr : Str) : ∃ front behind : Str,
    scanAll expr = front.map Piece.blank ++ scan expr ++ behind.map Piece.blank := by
  obtain ⟨front, behind, shape, -, before, after⟩ := exists_around_trim expr
  have apart : StartsApart behind := fun c first => Or.inl (after c (List.mem_of_mem_head? first))
  have quotes : ∀ q, isQuote q = true → q ∉ behind := by
    intro q quote mem
    have cases : q = ch '\'' ∨ q = ch '"' := by simpa [isQuote] using quote
    rcases cases with rfl | rfl <;> cases after _ mem
  have last : scanAll behind = behind.map Piece.blank := by
    have alone := scanAll_blanks after []
    rw [List.append_nil] at alone
    rw [alone]
    exact List.append_nil _
  refine ⟨front, behind, ?_⟩
  conv => lhs; rw [shape, List.append_assoc, scanAll_blanks before, scanAll_append apart (Or.inr quotes), last]
  exact (List.append_assoc _ _ _).symm

/-- Trimming makes no difference to the tokens. -/
theorem tokenize_eq (expr : Str) : tokenize expr = tokensOf expr ++ [Token.eof] := by
  obtain ⟨front, behind, pieces⟩ := scanAll_trim expr
  unfold tokensOf
  rw [pieces, List.filterMap_append, List.filterMap_append, filterMap_blanks, filterMap_blanks, List.nil_append,
    List.append_nil]
  rfl

/-- Nor to what is skipped. -/
theorem nothingSkipped_of_scan {expr : Str} (kept : ∀ p ∈ scan expr, ∀ c, p ≠ .dropped c) : NothingSkipped expr := by
  obtain ⟨front, behind, pieces⟩ := scanAll_trim expr
  have blank : ∀ blanks : Str, ∀ p ∈ blanks.map Piece.blank, ∀ c, p ≠ .dropped c := by
    intro blanks p mem c same
    obtain ⟨b, -, rfl⟩ := List.mem_map.1 mem
    cases same
  intro p mem
  rw [pieces, List.mem_append, List.mem_append] at mem
  rcases mem with (mem | mem) | mem
  · exact blank front p mem
  · exact kept p mem
  · exact blank behind p mem

end Actuator.Constraint
