import Actuator.Constraint.Scan

/-!
# Spelling tokens

`Spells` relates a token to the texts that stand for it, and `Renders` a list of
tokens to the texts in which their spellings follow each other, separated by
white space. The tokenizer gives back the tokens of every rendering.
-/

namespace Actuator.Constraint

open Actuator.Lib Actuator.Executor

/-- A word with a meaning of its own. -/
def Reserved (word : Str) : Prop :=
  word ∈ [lit "and", lit "AND", lit "or", lit "OR", lit "not", lit "NOT"] ∨ isTrueWord word = true ∨
    isFalseWord word = true

/-- A letter or underscore followed by letters, digits and underscores, and not reserved. -/
def IsIdentifier (word : Str) : Prop :=
  (∃ c body, word = c :: body ∧ (isAlpha c = true ∨ c = ch '_') ∧ ∀ x ∈ body, isWordChar x = true) ∧ ¬Reserved word

/-- A digit, or a minus sign in front of one, followed by digits and points. -/
def IsNumber (text : Str) : Prop :=
  ∃ c body, text = c :: body ∧ (isDigit c = true ∨ c = ch '-' ∧ body.head?.any isDigit = true) ∧
    ∀ x ∈ body, isNumberChar x = true

/-- The texts a token may be written as. -/
inductive Spells : Token → Str → Prop
  | lparen : Spells .lparen (lit "(")
  | rparen : Spells .rparen (lit ")")
  | and {s : Str} (word : s ∈ [lit "&&", lit "and", lit "AND"]) : Spells .and s
  | or {s : Str} (word : s ∈ [lit "||", lit "or", lit "OR"]) : Spells .or s
  | not {s : Str} (word : s ∈ [lit "not", lit "NOT"]) : Spells .not s
  | truth {s : Str} (word : isTrueWord s = true) : Spells (.number (lit "1")) s
  | falsity {s : Str} (word : isFalseWord s = true) : Spells (.number (lit "0")) s
  | operator {s : Str} (op : s ∈ [lit "==", lit "=", lit "!=", lit "<", lit ">", lit "<=", lit ">="]) :
      Spells (.operator s) s
  | number {s : Str} (number : IsNumber s) : Spells (.number s) s
  | string {q : UInt8} {text : Str} (quote : isQuote q = true) (inside : q ∉ text) :
      Spells (.string text) (q :: text ++ [q])
  | identifier {s : Str} (word : IsIdentifier s) : Spells (.identifier s) s

/-- Nothing, or something that starts with white space. -/
def Separated (tail : Str) : Prop := ∀ c ∈ tail.head?, isSpace c = true

/-- The texts that spell the tokens in order, each set off from the next by white space. -/
inductive Renders : List Token → Str → Prop
  | nil {blanks : Str} (blank : ∀ c ∈ blanks, isSpace c = true) : Renders [] blanks
  | cons {t : Token} {ts : List Token} {blanks s tail : Str} (blank : ∀ c ∈ blanks, isSpace c = true)
      (spells : Spells t s) (separated : Separated tail) (rest : Renders ts tail) :
      Renders (t :: ts) (blanks ++ s ++ tail)

/-! ## One token -/

theorem toNat_of_isSpace {c : UInt8} (space : isSpace c = true) : c.toNat = 32 ∨ (9 ≤ c.toNat ∧ c.toNat ≤ 13) := by
  simpa [isSpace] using space

/-- The first characters of a word. -/
theorem toNat_of_wordStart {c : UInt8} (first : isAlpha c = true ∨ c = ch '_') :
    (65 ≤ c.toNat ∧ c.toNat ≤ 90) ∨ (97 ≤ c.toNat ∧ c.toNat ≤ 122) ∨ c.toNat = 95 := by
  rcases first with alpha | rfl
  · simp [isAlpha] at alpha
    omega
  · exact .inr (.inr rfl)

theorem not_wordChar_of_isSpace {c : UInt8} (space : isSpace c = true) : isWordChar c = false := by
  have range := toNat_of_isSpace space
  simp [isWordChar, isAlnum, isAlpha, isDigit, ch, ← UInt8.toNat_inj]
  omega

theorem not_numberChar_of_isSpace {c : UInt8} (space : isSpace c = true) : isNumberChar c = false := by
  have range := toNat_of_isSpace space
  simp [isNumberChar, isDigit, ch, ← UInt8.toNat_inj]
  omega

/-- The two-character operators, by their bytes. -/
theorem twoCharToken?_cons (c b : UInt8) (rest : Str) :
    twoCharToken? c (b :: rest) =
      if [c, b] = [38, 38] then some .and
      else if [c, b] = [124, 124] then some .or
      else if [c, b] ∈ [[61, 61], [33, 61], [60, 61], [62, 61], [60, 60], [62, 62]] then some (.operator [c, b])
      else none := rfl

/-- A character that begins no operator of two characters. -/
theorem twoCharToken?_of_first {c : UInt8} (rest : Str)
    (first : c.toNat ≠ 38 ∧ c.toNat ≠ 124 ∧ c.toNat ≠ 61 ∧ c.toNat ≠ 33 ∧ c.toNat ≠ 60 ∧ c.toNat ≠ 62) :
    twoCharToken? c rest = none := by
  cases rest with
  | nil => rfl
  | cons b rest =>
    rw [twoCharToken?_cons]
    simp [← UInt8.toNat_inj, first]

theorem twoCharToken?_separated (c : UInt8) {tail : Str} (separated : Separated tail) : twoCharToken? c tail = none := by
  cases tail with
  | nil => rfl
  | cons b tail =>
    have range := toNat_of_isSpace (separated b rfl)
    have apart : b.toNat ≠ 38 ∧ b.toNat ≠ 124 ∧ b.toNat ≠ 61 ∧ b.toNat ≠ 60 ∧ b.toNat ≠ 62 := by omega
    rw [twoCharToken?_cons]
    simp [← UInt8.toNat_inj, apart]

/-- A word is read up to the first character that cannot be in one. -/
theorem scanPiece_word {c : UInt8} {body tail : Str} (first : isAlpha c = true ∨ c = ch '_')
    (inside : ∀ x ∈ body, isWordChar x = true) (stop : ∀ x ∈ tail.head?, isWordChar x = false) :
    scanPiece c (body ++ tail) = (.lexeme (c :: body) (wordToken (c :: body)), tail) := by
  have range := toNat_of_wordStart first
  obtain ⟨taken, left⟩ := takeWhile_append_stop inside stop
  have space : isSpace c = false := by simp [isSpace]; omega
  have digit : isDigit c = false := by simp [isDigit]; omega
  have apart : ∀ k : UInt8, k.toNat < 65 → c ≠ k := fun k small => ne_of_toNat_lt (by omega)
  have quote : isQuote c = false := by simp [isQuote, apart (ch '\'') (by decide), apart (ch '"') (by decide)]
  rw [scanPiece, if_neg (by simp [space]), if_neg (apart _ (by decide)), if_neg (apart _ (by decide)),
    if_neg (by simp [quote]), if_neg (by simp [digit, apart (ch '-') (by decide)]),
    twoCharToken?_of_first _ (by omega)]
  simp only [apart (ch '<') (by decide), apart (ch '>') (by decide), apart (ch '=') (by decide),
    apart (ch '!') (by decide), or_self, if_false, first, if_true, taken, left]

/-- A number is read up to the first character that is no digit and no point. -/
theorem scanPiece_number {c : UInt8} {body tail : Str}
    (first : isDigit c = true ∨ c = ch '-' ∧ body.head?.any isDigit = true)
    (inside : ∀ x ∈ body, isNumberChar x = true) (stop : ∀ x ∈ tail.head?, isNumberChar x = false) :
    scanPiece c (body ++ tail) = (.lexeme (c :: body) (.number (c :: body)), tail) := by
  have range : (48 ≤ c.toNat ∧ c.toNat ≤ 57) ∨ c.toNat = 45 := by
    rcases first with digit | ⟨rfl, -⟩
    · simp [isDigit] at digit
      omega
    · exact .inr rfl
  obtain ⟨taken, left⟩ := takeWhile_append_stop inside stop
  have space : isSpace c = false := by simp [isSpace]; omega
  have apart : ∀ k : UInt8, k.toNat < 45 → c ≠ k := fun k small => ne_of_toNat_lt (by omega)
  have quote : isQuote c = false := by simp [isQuote, apart (ch '\'') (by decide), apart (ch '"') (by decide)]
  have starts : isDigit c = true ∨ c = ch '-' ∧ (body ++ tail).head?.any isDigit = true := by
    rcases first with digit | both
    · exact .inl digit
    · obtain ⟨minus, digit⟩ := both
      refine .inr ⟨minus, ?_⟩
      cases body with
      | nil => cases digit
      | cons b body => exact digit
  rw [scanPiece, if_neg (by simp [space]), if_neg (apart _ (by decide)), if_neg (apart _ (by decide)),
    if_neg (by simp [quote]), if_pos starts]
  simp only [taken, left]

/-- A quoted text is read up to its closing quote, whatever follows. -/
theorem scanPiece_string {q : UInt8} {text tail : Str} (quote : isQuote q = true) (inside : q ∉ text) :
    scanPiece q (text ++ q :: tail) = (.lexeme (q :: text ++ [q]) (.string text), tail) := by
  have cases : q = ch '\'' ∨ q = ch '"' := by simpa [isQuote] using quote
  have space : isSpace q = false := by rcases cases with rfl | rfl <;> rfl
  have lparen : q ≠ ch '(' := by rcases cases with rfl | rfl <;> decide
  have rparen : q ≠ ch ')' := by rcases cases with rfl | rfl <;> decide
  have taken : (text ++ q :: tail).takeWhile (· ≠ q) = text := by
    rw [List.takeWhile_append_of_pos]
    · simp
    · intro x mem
      have other : x ≠ q := fun same => inside (same ▸ mem)
      simp [other]
  rw [scanPiece, if_neg (by simp [space]), if_neg lparen, if_neg rparen, if_pos ⟨quote, by simp⟩]
  simp only [taken]
  simp

/-- An operator of one character is read as such in front of white space. -/
theorem scanPiece_operator {c : UInt8} {tail : Str} (op : c = ch '<' ∨ c = ch '>' ∨ c = ch '=' ∨ c = ch '!')
    (separated : Separated tail) : scanPiece c tail = (.lexeme [c] (.operator [c]), tail) := by
  have single := twoCharToken?_separated c separated
  rcases op with rfl | rfl | rfl | rfl <;> (unfold scanPiece; rw [single]; rfl)

/-- A spelling in front of white space is taken as one piece. -/
theorem Spells.scan {t : Token} {s tail : Str} (spells : Spells t s) (separated : Separated tail) :
    ∃ c rest, s ++ tail = c :: rest ∧ scanPiece c rest = (.lexeme s t, tail) := by
  have word : ∀ (w : Str) (t : Token), (∃ c body, w = c :: body ∧ (isAlpha c = true ∨ c = ch '_') ∧
      (∀ x ∈ body, isWordChar x = true)) → wordToken w = t →
      ∃ c rest, w ++ tail = c :: rest ∧ scanPiece c rest = (.lexeme w t, tail) := by
    rintro _ _ ⟨c, body, rfl, first, inside⟩ rfl
    have stop : ∀ x ∈ tail.head?, isWordChar x = false := fun x mem => not_wordChar_of_isSpace (separated x mem)
    exact ⟨c, body ++ tail, rfl, scanPiece_word first inside stop⟩
  cases spells with
  | lparen => exact ⟨_, _, rfl, rfl⟩
  | rparen => exact ⟨_, _, rfl, rfl⟩
  | and spelled =>
    simp only [List.mem_cons, List.not_mem_nil, or_false] at spelled
    rcases spelled with rfl | rfl | rfl
    · exact ⟨_, _, rfl, rfl⟩
    · exact word _ _ ⟨_, _, rfl, by decide, List.all_eq_true.1 (by decide)⟩ rfl
    · exact word _ _ ⟨_, _, rfl, by decide, List.all_eq_true.1 (by decide)⟩ rfl
  | or spelled =>
    simp only [List.mem_cons, List.not_mem_nil, or_false] at spelled
    rcases spelled with rfl | rfl | rfl
    · exact ⟨_, _, rfl, rfl⟩
    · exact word _ _ ⟨_, _, rfl, by decide, List.all_eq_true.1 (by decide)⟩ rfl
    · exact word _ _ ⟨_, _, rfl, by decide, List.all_eq_true.1 (by decide)⟩ rfl
  | not spelled =>
    simp only [List.mem_cons, List.not_mem_nil, or_false] at spelled
    rcases spelled with rfl | rfl
    · exact word _ _ ⟨_, _, rfl, by decide, List.all_eq_true.1 (by decide)⟩ rfl
    · exact word _ _ ⟨_, _, rfl, by decide, List.all_eq_true.1 (by decide)⟩ rfl
  | truth spelled =>
    simp only [isTrueWord, Bool.or_eq_true, decide_eq_true_eq] at spelled
    rcases spelled with (rfl | rfl) | rfl
    all_goals exact word _ _ ⟨_, _, rfl, by decide, List.all_eq_true.1 (by decide)⟩ rfl
  | falsity spelled =>
    simp only [isFalseWord, Bool.or_eq_true, decide_eq_true_eq] at spelled
    rcases spelled with (rfl | rfl) | rfl
    all_goals exact word _ _ ⟨_, _, rfl, by decide, List.all_eq_true.1 (by decide)⟩ rfl
  | operator spelled =>
    simp only [List.mem_cons, List.not_mem_nil, or_false] at spelled
    rcases spelled with rfl | rfl | rfl | rfl | rfl | rfl | rfl
    · exact ⟨_, _, rfl, rfl⟩
    · exact ⟨ch '=', tail, rfl, scanPiece_operator (by decide) separated⟩
    · exact ⟨_, _, rfl, rfl⟩
    · exact ⟨ch '<', tail, rfl, scanPiece_operator (by decide) separated⟩
    · exact ⟨ch '>', tail, rfl, scanPiece_operator (by decide) separated⟩
    · exact ⟨_, _, rfl, rfl⟩
    · exact ⟨_, _, rfl, rfl⟩
  | number number =>
    obtain ⟨c, body, rfl, first, inside⟩ := number
    have stop : ∀ x ∈ tail.head?, isNumberChar x = false := fun x mem => not_numberChar_of_isSpace (separated x mem)
    exact ⟨c, body ++ tail, rfl, scanPiece_number first inside stop⟩
  | string quote inside =>
    rename_i q text
    exact ⟨q, text ++ q :: tail, by simp, scanPiece_string quote inside⟩
  | identifier ident =>
    obtain ⟨shape, free⟩ := ident
    refine word _ _ shape ?_
    simp only [Reserved, List.mem_cons, List.not_mem_nil, or_false, not_or, Bool.not_eq_true] at free
    obtain ⟨⟨h1, h2, h3, h4, h5, h6⟩, h7, h8⟩ := free
    simp [wordToken, h1, h2, h3, h4, h5, h6, h7, h8]

/-! ## Whole renderings -/

/-- A round that takes a token contributes it. -/
theorem tokensOf_cons {c : UInt8} {rest s tail : Str} {t : Token} (piece : scanPiece c rest = (.lexeme s t, tail)) :
    tokensOf (c :: rest) = t :: tokensOf tail := by
  unfold tokensOf
  rw [scanAll_cons, piece, List.filterMap_cons]
  rfl

theorem Spells.tokensOf {t : Token} {s tail : Str} (spells : Spells t s) (separated : Separated tail) :
    tokensOf (s ++ tail) = t :: tokensOf tail := by
  obtain ⟨c, rest, shape, piece⟩ := spells.scan separated
  rw [shape, tokensOf_cons piece]

theorem Renders.tokensOf {ts : List Token} {text : Str} (renders : Renders ts text) : tokensOf text = ts := by
  induction renders with
  | nil blank =>
    rename_i blanks
    rw [← List.append_nil blanks, tokensOf_blanks blank]
    rfl
  | cons blank spells separated rest ih => rw [List.append_assoc, tokensOf_blanks blank, spells.tokensOf separated, ih]

/-- Tokenizing a rendering gives back its tokens. -/
theorem Renders.tokenize {ts : List Token} {text : Str} (renders : Renders ts text) :
    tokenize text = ts ++ [Token.eof] := by
  rw [tokenize_eq, renders.tokensOf]

end Actuator.Constraint
