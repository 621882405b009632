import Actuator.Lib.Json

/-!
# The text form of JSON

A printer in the library's compact format and a reader, over fixed-point
numbers. The reader takes documents as RFC 8259 writes them, without exponents
and surrogate escapes. It gives back what the printer wrote
(`readDocument_print`), which makes the two a `JsonLibrary`.
-/

namespace Actuator.Lib.JsonText

def quote : UInt8 := 34
def comma : UInt8 := 44
def colon : UInt8 := 58
def openBracket : UInt8 := 91
def backslash : UInt8 := 92
def closeBracket : UInt8 := 93
def openBrace : UInt8 := 123
def closeBrace : UInt8 := 125

/-! ## Printing -/

def hexDigit (d : Nat) : UInt8 := UInt8.ofNat (if d < 10 then 48 + d else 87 + d)

/-- The two-character escapes, with the byte each stands for. -/
def escapes : List (UInt8 × UInt8) :=
  [(quote, quote), (backslash, backslash), (8, ch 'b'), (9, ch 't'), (10, ch 'n'), (12, ch 'f'), (13, ch 'r')]

def printByte (c : UInt8) : Str :=
  match escapes.lookup c with
  | some letter => [backslash, letter]
  | none =>
    if c.toNat < 32 then [backslash, ch 'u', ch '0', ch '0', hexDigit (c.toNat / 16), hexDigit (c.toNat % 16)]
    else [c]

def printString (s : Str) : Str := quote :: s.flatMap printByte ++ [quote]

def printInt (n : Int) : Str := signed (n < 0) (natToString n.natAbs)

/-- The digits of `r / 10 ^ k` behind the point, as many as there are before zeros follow. -/
def fractionDigits : Nat → Nat → Str
  | 0, _ => []
  | k + 1, r => if r = 0 then [] else UInt8.ofNat (48 + r / Nat.pow 10 k) :: fractionDigits k (r % Nat.pow 10 k)

/-- What stands behind the point for `r` trillionths: at least one digit. -/
def fractionText (r : Nat) : Str := if (fractionDigits 12 r).isEmpty then [ch '0'] else fractionDigits 12 r

def printFixedPoint (x : FixedPoint) : Str :=
  signed (x.units < 0) (natToString (x.units.natAbs / FixedPoint.scale)) ++
    ch '.' :: fractionText (x.units.natAbs % FixedPoint.scale)

mutual

def print : Json FixedPoint → Str
  | .null => lit "null"
  | .bool b => lit (if b then "true" else "false")
  | .int n => printInt n
  | .float x => printFixedPoint x
  | .string s => printString s
  | .array [] => [openBracket, closeBracket]
  | .array (item :: items) => openBracket :: print item ++ printItems items
  | .object [] => [openBrace, closeBrace]
  | .object ((key, item) :: members) =>
    openBrace :: printString key ++ colon :: print item ++ printMembers members

/-- The items behind the first, and the closing bracket. -/
def printItems : List (Json FixedPoint) → Str
  | [] => [closeBracket]
  | item :: items => comma :: print item ++ printItems items

/-- The members behind the first, and the closing brace. -/
def printMembers : List (Str × Json FixedPoint) → Str
  | [] => [closeBrace]
  | (key, item) :: members => comma :: printString key ++ colon :: print item ++ printMembers members

end

/-! ## Reading -/

def hexValue (c : UInt8) : Option Nat :=
  if isDigit c then some (c.toNat - 48)
  else if 97 ≤ c.toNat ∧ c.toNat ≤ 102 then some (c.toNat - 87)
  else if 65 ≤ c.toNat ∧ c.toNat ≤ 70 then some (c.toNat - 55)
  else none

/-- The byte a two-character escape stands for. -/
def unescape (letter : UInt8) : Option UInt8 :=
  if letter = ch '/' then some letter else (escapes.map fun e => (e.2, e.1)).lookup letter

/-- Where the reader of a string is: between characters, behind a backslash, or before the last of some
hexadecimal digits. -/
inductive StringMode where
  | plain
  | escaped
  | unicode (left value : Nat)

def prepend (bytes : Str) (r : Str × Str) : Str × Str := (bytes ++ r.1, r.2)

/-- A string up to its closing quote, and the text behind it. -/
def readChars : StringMode → Str → Option (Str × Str)
  | _, [] => none
  | .plain, c :: rest =>
    if c = quote then some ([], rest)
    else if c = backslash then readChars .escaped rest
    else if c.toNat < 32 then none
    else (readChars .plain rest).map (prepend [c])
  | .escaped, c :: rest =>
    if c = ch 'u' then readChars (.unicode 3 0) rest
    else match unescape c with
      | some byte => (readChars .plain rest).map (prepend [byte])
      | none => none
  | .unicode left value, c :: rest =>
    match hexValue c, left with
    | none, _ => none
    | some d, left + 1 => readChars (.unicode left (value * 16 + d)) rest
    | some d, 0 =>
      if (value * 16 + d).isValidChar then
        (readChars .plain rest).map (prepend (lit (String.singleton (Char.ofNat (value * 16 + d)))))
      else none

/-- The fraction behind a point, in trillionths, and the text behind it. -/
def readFraction (negative : Bool) (whole : Nat) (s : Str) : Option (Json FixedPoint × Str) :=
  let fraction := s.takeWhile isDigit
  if fraction.isEmpty then none
  else
    let magnitude := whole * FixedPoint.scale + digitsValue fraction * FixedPoint.scale / Nat.pow 10 fraction.length
    some (.float ⟨if negative then -(magnitude : Int) else magnitude⟩, s.dropWhile isDigit)

/-- A number, whose sign was read. Integers the library cannot store become floating point. -/
def readNumber (negative : Bool) (s : Str) : Option (Json FixedPoint × Str) :=
  let digits := s.takeWhile isDigit
  if digits.isEmpty then none
  else
    match s.dropWhile isDigit with
    | [] => some (whole (signedValue negative digits), [])
    | c :: rest =>
      if c = ch '.' then readFraction negative (digitsValue digits) rest
      else some (whole (signedValue negative digits), c :: rest)
where
  whole (n : Int) : Json FixedPoint := if Json.InNumberRange n then .int n else .float ⟨n * FixedPoint.scale⟩

/-- One of the three names. -/
def readName (s : Str) : Option (Json FixedPoint × Str) :=
  if (lit "null").isPrefixOf s then some (.null, s.drop 4)
  else if (lit "true").isPrefixOf s then some (.bool true, s.drop 4)
  else if (lit "false").isPrefixOf s then some (.bool false, s.drop 5)
  else none

/-- The text behind a byte that must come next. -/
def expect (byte : UInt8) (s : Str) : Option Str :=
  match s.dropWhile isSpace with
  | [] => none
  | c :: rest => if c = byte then some rest else none

/-- Whether another element follows or the container closes, and the text behind the separator. -/
def readSeparator (close : UInt8) (s : Str) : Option (Bool × Str) :=
  match s.dropWhile isSpace with
  | [] => none
  | c :: rest => if c = comma then some (true, rest) else if c = close then some (false, rest) else none

/-- A key with its colon. -/
def readKey (s : Str) : Option (Str × Str) := do
  let (key, rest) ← readChars .plain (← expect quote s)
  return (key, ← expect colon rest)

mutual

def readValue : Nat → Str → Option (Json FixedPoint × Str)
  | 0, _ => none
  | fuel + 1, s =>
    match s.dropWhile isSpace with
    | [] => none
    | c :: rest =>
      if c = quote then (readChars .plain rest).map fun r => (.string r.1, r.2)
      else if c = openBracket then
        match expect closeBracket rest with
        | some rest => some (.array [], rest)
        | none => (readItems fuel rest).map fun r => (.array r.1, r.2)
      else if c = openBrace then
        match expect closeBrace rest with
        | some rest => some (.object [], rest)
        | none => (readMembers fuel rest).map fun r => (.ofMembers r.1, r.2)
      else if c = ch '-' then readNumber true rest
      else if isDigit c then readNumber false (c :: rest)
      else readName (c :: rest)

/-- The items up to the closing bracket. -/
def readItems : Nat → Str → Option (List (Json FixedPoint) × Str)
  | 0, _ => none
  | fuel + 1, s => do
    let (item, rest) ← readValue fuel s
    let (more, rest) ← readSeparator closeBracket rest
    if more then (readItems fuel rest).map fun r => (item :: r.1, r.2) else some ([item], rest)

/-- The members up to the closing brace. -/
def readMembers : Nat → Str → Option (List (Str × Json FixedPoint) × Str)
  | 0, _ => none
  | fuel + 1, s => do
    let (key, rest) ← readKey s
    let (item, rest) ← readValue fuel rest
    let (more, rest) ← readSeparator closeBrace rest
    if more then (readMembers fuel rest).map fun r => ((key, item) :: r.1, r.2) else some ([(key, item)], rest)

end

/-- A document is one value with white space around it. -/
def readDocument (text : Str) : Option (Json FixedPoint) :=
  match readValue (text.length + 1) text with
  | some (j, rest) => if rest.all isSpace then some j else none
  | none => none

/-! ## Strings -/

theorem unescape_of_lookup {c letter : UInt8} (found : escapes.lookup c = some letter) :
    unescape letter = some c ∧ letter ≠ ch 'u' := by
  have mem : (c, letter) ∈ escapes := by
    obtain ⟨before, after, eq, _⟩ := List.lookup_eq_some_iff.1 found
    rw [eq]
    simp
  have all : escapes.all (fun e => unescape e.2 == some e.1 && e.2 != ch 'u') = true := by decide
  simpa using List.all_eq_true.1 all _ mem

theorem hexValue_hexDigit : ∀ d < 16, hexValue (hexDigit d) = some d := by decide

theorem lit_control : ∀ n < 32, n.isValidChar ∧ lit (String.singleton (Char.ofNat n)) = [UInt8.ofNat n] := by decide

theorem readChars_printByte (c : UInt8) (t : Str) :
    readChars .plain (printByte c ++ t) = (readChars .plain t).map (prepend [c]) := by
  unfold printByte
  cases found : escapes.lookup c with
  | some letter =>
    obtain ⟨stands, other⟩ := unescape_of_lookup found
    have slash : backslash ≠ quote := by decide
    simp [readChars, slash, other, stands]
  | none =>
    have notQuote : c ≠ quote := by
      intro same
      rw [same] at found
      cases found
    have notSlash : c ≠ backslash := by
      intro same
      rw [same] at found
      cases found
    by_cases control : c.toNat < 32
    · obtain ⟨valid, bytes⟩ := lit_control c.toNat control
      have slash : backslash ≠ quote := by decide
      have zero : hexValue (ch '0') = some 0 := by decide
      have high := hexValue_hexDigit (c.toNat / 16) (by omega)
      have low := hexValue_hexDigit (c.toNat % 16) (by omega)
      have code : c.toNat / 16 * 16 + c.toNat % 16 = c.toNat := by omega
      simp [readChars, control, slash, zero, high, low, code, valid, bytes]
    · simp [readChars, control, notQuote, notSlash]

theorem readChars_printString (s t : Str) : readChars .plain (s.flatMap printByte ++ quote :: t) = some (s, t) := by
  induction s with
  | nil => simp [readChars]
  | cons c s ih =>
    rw [List.flatMap_cons, List.append_assoc, readChars_printByte, ih]
    simp [prepend]

/-! ## Numbers -/

/-- The text ends a number: it does not go on with a digit or a point. -/
def Delimited (k : Str) : Prop := ∀ c ∈ k.head?, isDigit c = false ∧ c ≠ ch '.'

theorem tenPow_mul {n k : Nat} (le : n ≤ k) : Nat.pow 10 n * Nat.pow 10 (k - n) = Nat.pow 10 k :=
  (Nat.pow_add 10 n (k - n)).symm.trans (congrArg (Nat.pow 10) (Nat.add_sub_cancel' le))

theorem fractionDigits_spec (k r : Nat) (small : r < Nat.pow 10 k) :
    (∀ c ∈ fractionDigits k r, isDigit c = true) ∧ (fractionDigits k r).length ≤ k ∧
      digitsValue (fractionDigits k r) * Nat.pow 10 (k - (fractionDigits k r).length) = r := by
  induction k generalizing r with
  | zero =>
    have : r = 0 := Nat.lt_one_iff.1 small
    subst this
    exact ⟨by simp [fractionDigits], Nat.le_refl 0, rfl⟩
  | succ k ih =>
    unfold fractionDigits
    split
    · rename_i zero
      subst zero
      simp [digitsValue]
    · have pos : 0 < Nat.pow 10 k := Nat.pow_pos (by decide)
      obtain ⟨digits, short, value⟩ := ih (r % Nat.pow 10 k) (Nat.mod_lt _ pos)
      have digit : r / Nat.pow 10 k < 10 := Nat.div_lt_of_lt_mul small
      have code : (UInt8.ofNat (48 + r / Nat.pow 10 k)).toNat = 48 + r / Nat.pow 10 k :=
        UInt8.toNat_ofNat_of_lt' (show _ < 256 by omega)
      refine ⟨List.forall_mem_cons.2 ⟨isDigit_of_toNat code digit, digits⟩, Nat.succ_le_succ short, ?_⟩
      rw [digitsValue_cons, code, List.length_cons, Nat.add_sub_add_right, Nat.add_mul, value, Nat.mul_assoc,
        tenPow_mul short, Nat.add_sub_cancel_left, Nat.mul_comm]
      exact Nat.div_add_mod r (Nat.pow 10 k)

/-- What stands behind the point reads as the trillionths it was printed for. -/
theorem readFraction_fractionText (negative : Bool) (whole r : Nat) {k : Str} (small : r < FixedPoint.scale)
    (stop : Delimited k) : readFraction negative whole (fractionText r ++ k) =
      some (.float ⟨if negative then -((whole * FixedPoint.scale + r : Nat) : Int)
        else (whole * FixedPoint.scale + r : Nat)⟩, k) := by
  obtain ⟨digits, short, value⟩ := fractionDigits_spec 12 r small
  have ends : ∀ c ∈ k.head?, isDigit c = false := fun c head => (stop c head).1
  have pos : ∀ n, 0 < Nat.pow 10 n := fun n => Nat.pow_pos (by decide)
  unfold readFraction fractionText
  by_cases none : (fractionDigits 12 r).isEmpty
  · have zero : r = 0 := by
      rw [List.isEmpty_iff.1 none] at value
      simpa [digitsValue] using value.symm
    obtain ⟨taken, rest⟩ := takeWhile_append_stop (p := isDigit) (s := [ch '0']) (List.forall_mem_singleton.2 rfl) ends
    rw [if_pos none, taken, rest, zero]
    simp [digitsValue, ch]
  · obtain ⟨taken, rest⟩ := takeWhile_append_stop digits ends
    have magnitude : digitsValue (fractionDigits 12 r) * FixedPoint.scale / Nat.pow 10 (fractionDigits 12 r).length = r := by
      have scale : FixedPoint.scale = Nat.pow 10 (fractionDigits 12 r).length * Nat.pow 10 (12 - (fractionDigits 12 r).length) :=
        (tenPow_mul short).symm
      rw [scale, Nat.mul_left_comm, Nat.mul_div_cancel_left _ (pos _), value]
    rw [if_neg none, taken, rest]
    simp only [none, magnitude]
    rfl

theorem readNumber_printInt (n : Nat) (negative : Bool) {k : Str} (stop : Delimited k) :
    readNumber negative (natToString n ++ k) = some (readNumber.whole (if negative then -(n : Int) else n), k) := by
  obtain ⟨taken, rest⟩ := takeWhile_append_stop (natToString_digit n) fun c head => (stop c head).1
  have some : (natToString n).isEmpty = false := by simp [natToString_ne_nil]
  unfold readNumber
  simp only [taken, rest, some, signedValue, digitsValue_natToString]
  cases k with
  | nil => rfl
  | cons c k => simp [(stop c rfl).2]

theorem readNumber_printFixedPoint (negative : Bool) (whole r : Nat) {k : Str} (small : r < FixedPoint.scale)
    (stop : Delimited k) :
    readNumber negative (natToString whole ++ ch '.' :: (fractionText r ++ k)) =
      some (.float ⟨if negative then -((whole * FixedPoint.scale + r : Nat) : Int)
        else (whole * FixedPoint.scale + r : Nat)⟩, k) := by
  have point : ∀ t, ∀ c ∈ (ch '.' :: t : Str).head?, isDigit c = false := by
    intro t c head
    cases head
    decide
  obtain ⟨taken, rest⟩ := takeWhile_append_stop (natToString_digit whole) (point (fractionText r ++ k))
  have some : (natToString whole).isEmpty = false := by simp [natToString_ne_nil]
  unfold readNumber
  simp only [taken, rest, some, digitsValue_natToString]
  exact readFraction_fractionText negative whole r small stop

/-! ## Values -/

theorem dropWhile_head {c : UInt8} (t : Str) (solid : isSpace c = false) : (c :: t).dropWhile isSpace = c :: t := by
  simp [solid]

theorem readValue_signed (fuel n : Nat) (negative : Bool) (t : Str) :
    readValue (fuel + 1) (signed negative (natToString n) ++ t) = readNumber negative (natToString n ++ t) := by
  cases negative with
  | true =>
    have other : ch '-' ≠ quote ∧ ch '-' ≠ openBracket ∧ ch '-' ≠ openBrace := by decide
    unfold readValue
    simp [signed, dropWhile_head (c := ch '-') _ (by decide), other]
  | false =>
    obtain ⟨c, rest, text⟩ := List.exists_cons_of_ne_nil (natToString_ne_nil n)
    have digit := natToString_digit n c (by rw [text]; exact List.mem_cons_self)
    have q := digit_ne digit quote (by decide)
    have b := digit_ne digit openBracket (by decide)
    have o := digit_ne digit openBrace (by decide)
    have m := digit_ne digit (ch '-') (by decide)
    show readValue (fuel + 1) (natToString n ++ t) = _
    rw [text]
    unfold readValue
    simp [dropWhile_head (c := c) _ (not_space_of_digit digit), q, b, o, m, digit]

theorem readValue_int (fuel : Nat) {n : Int} (range : Json.InNumberRange n) {k : Str} (stop : Delimited k) :
    readValue (fuel + 1) (printInt n ++ k) = some (.int n, k) := by
  have value : (if decide (n < 0) = true then -(n.natAbs : Int) else n.natAbs) = n := by
    simp only [decide_eq_true_eq]
    split <;> omega
  unfold printInt
  rw [readValue_signed, readNumber_printInt n.natAbs (n < 0) stop, value]
  unfold readNumber.whole
  rw [if_pos range]

theorem readValue_float (fuel : Nat) (x : FixedPoint) {k : Str} (stop : Delimited k) :
    readValue (fuel + 1) (printFixedPoint x ++ k) = some (.float x, k) := by
  have small : x.units.natAbs % FixedPoint.scale < FixedPoint.scale := Nat.mod_lt _ (by decide)
  have whole : x.units.natAbs / FixedPoint.scale * FixedPoint.scale + x.units.natAbs % FixedPoint.scale = x.units.natAbs :=
    Nat.div_add_mod' _ _
  have value : (if decide (x.units < 0) = true then -(x.units.natAbs : Int) else x.units.natAbs) = x.units := by
    simp only [decide_eq_true_eq]
    split <;> omega
  unfold printFixedPoint
  rw [List.append_assoc, List.cons_append, readValue_signed, readNumber_printFixedPoint _ _ _ small stop, whole, value]

theorem readValue_string (fuel : Nat) (s k : Str) : readValue (fuel + 1) (printString s ++ k) = some (.string s, k) := by
  unfold printString readValue
  simp [dropWhile_head (c := quote) _ (by decide), readChars_printString]

/-- What a value starts with is neither white space nor the end of a list. -/
theorem print_head (j : Json FixedPoint) : ∃ c t, print j = c :: t ∧ isSpace c = false ∧ c ≠ closeBracket := by
  have number : ∀ negative n t, ∃ c u, signed negative (natToString n) ++ t = c :: u ∧ isSpace c = false ∧
      c ≠ closeBracket := by
    intro negative n t
    cases negative with
    | true => exact ⟨ch '-', natToString n ++ t, rfl, by decide, by decide⟩
    | false =>
      obtain ⟨c, rest, text⟩ := List.exists_cons_of_ne_nil (natToString_ne_nil n)
      have digit := natToString_digit n c (by rw [text]; exact List.mem_cons_self)
      refine ⟨c, rest ++ t, ?_, not_space_of_digit digit, digit_ne digit _ (by decide)⟩
      show natToString n ++ t = _
      rw [text, List.cons_append]
  unfold print
  split
  · exact ⟨ch 'n', lit "ull", by decide, by decide, by decide⟩
  · rename_i b
    cases b
    · exact ⟨ch 'f', lit "alse", by decide, by decide, by decide⟩
    · exact ⟨ch 't', lit "rue", by decide, by decide, by decide⟩
  · rename_i n
    simpa [printInt] using number (n < 0) n.natAbs []
  · exact number _ _ _
  · exact ⟨quote, _, rfl, by decide, by decide⟩
  · exact ⟨openBracket, _, rfl, by decide, by decide⟩
  · exact ⟨openBracket, _, rfl, by decide, by decide⟩
  · exact ⟨openBrace, _, rfl, by decide, by decide⟩
  · exact ⟨openBrace, _, rfl, by decide, by decide⟩

theorem delimited_printItems (items : List (Json FixedPoint)) (k : Str) : Delimited (printItems items ++ k) := by
  cases items with
  | nil =>
    intro c head
    cases head
    decide
  | cons item items =>
    intro c head
    cases head
    decide

theorem delimited_printMembers (members : List (Str × Json FixedPoint)) (k : Str) :
    Delimited (printMembers members ++ k) := by
  cases members with
  | nil =>
    intro c head
    cases head
    decide
  | cons member members =>
    intro c head
    cases head
    decide

theorem readKey_printString (key t : Str) : readKey (printString key ++ colon :: t) = some (key, t) := by
  unfold readKey printString expect
  simp [dropWhile_head (c := quote) _ (by decide), dropWhile_head (c := colon) _ (by decide), readChars_printString]

theorem ofMembers_sorted {members : List (Str × Json FixedPoint)} (sorted : members.Pairwise fun a b => a.1 < b.1) :
    Json.ofMembers members = .object members :=
  congrArg Json.ofMap (OrdMap.ofList_entries ⟨members, sorted⟩)

theorem readName_eq (fuel : Nat) (c : UInt8) (t : Str) (letter : isAlpha c = true) :
    readValue (fuel + 1) (c :: t) = readName (c :: t) := by
  have other : ∀ b : UInt8, isAlpha b = false → c ≠ b := by
    intro b no same
    rw [same, no] at letter
    cases letter
  have solid : isSpace c = false := by
    simp [isAlpha] at letter
    simp [isSpace]
    omega
  have digit : isDigit c = false := by
    simp [isAlpha] at letter
    simp [isDigit]
    omega
  unfold readValue
  simp [dropWhile_head _ solid, other quote (by decide), other openBracket (by decide), other openBrace (by decide),
    other (ch '-') (by decide), digit]

theorem readValue_null (fuel : Nat) (k : Str) : readValue (fuel + 1) (lit "null" ++ k) = some (.null, k) :=
  readName_eq fuel (ch 'n') (lit "ull" ++ k) (by decide)

theorem readValue_bool (fuel : Nat) (b : Bool) (k : Str) :
    readValue (fuel + 1) (lit (if b then "true" else "false") ++ k) = some (.bool b, k) := by
  cases b with
  | true => exact readName_eq fuel (ch 't') (lit "rue" ++ k) (by decide)
  | false => exact readName_eq fuel (ch 'f') (lit "alse" ++ k) (by decide)

/-- With this fuel, printed values and the rests of printed lists read back. -/
structure ReadsBack (fuel : Nat) : Prop where
  value : ∀ j k, (print j).length ≤ fuel → j.Printable → Delimited k → readValue fuel (print j ++ k) = some (j, k)
  items : ∀ item items k, (print item).length + (printItems items).length ≤ fuel → item.Printable →
    Json.PrintableItems items → readItems fuel (print item ++ (printItems items ++ k)) = some (item :: items, k)
  members : ∀ key item members k,
    (printString key).length + ((print item).length + (printMembers members).length + 1) ≤ fuel → item.Printable →
    Json.PrintableMembers members →
    readMembers fuel (printString key ++ colon :: (print item ++ (printMembers members ++ k))) =
      some ((key, item) :: members, k)

section Step

variable {fuel : Nat} (ih : ReadsBack fuel)
include ih

theorem readValue_array (items : List (Json FixedPoint)) (k : Str)
    (enough : (print (.array items)).length ≤ fuel + 1) (printable : Json.PrintableItems items) :
    readValue (fuel + 1) (print (.array items) ++ k) = some (.array items, k) := by
  have other : openBracket ≠ quote := by decide
  have start := fun t => dropWhile_head (c := openBracket) t (by decide)
  cases items with
  | nil =>
    unfold print readValue expect
    simp [start, other, dropWhile_head (c := closeBracket) _ (by decide)]
  | cons item items =>
    obtain ⟨first, later⟩ := printable
    obtain ⟨c, t, text, solid, open'⟩ := print_head item
    have nonempty : expect closeBracket (print item ++ (printItems items ++ k)) = none := by
      unfold expect
      rw [text, List.cons_append, dropWhile_head _ solid]
      simp [open']
    unfold print at enough ⊢
    have inner := ih.items item items k (by simpa using enough) first later
    unfold readValue
    simp [start, other, nonempty, inner]

theorem readValue_object (members : List (Str × Json FixedPoint)) (k : Str)
    (enough : (print (.object members)).length ≤ fuel + 1) (sorted : members.Pairwise fun a b => a.1 < b.1)
    (printable : Json.PrintableMembers members) :
    readValue (fuel + 1) (print (.object members) ++ k) = some (.object members, k) := by
  have other : openBrace ≠ quote ∧ openBrace ≠ openBracket := by decide
  have start := fun t => dropWhile_head (c := openBrace) t (by decide)
  cases members with
  | nil =>
    unfold print readValue expect
    simp [start, other, dropWhile_head (c := closeBrace) _ (by decide)]
  | cons member members =>
    obtain ⟨key, item⟩ := member
    obtain ⟨_, first, later⟩ := printable
    have nonempty : expect closeBrace (printString key ++ (colon :: (print item ++ (printMembers members ++ k)))) =
        none := by
      unfold expect printString
      simp [dropWhile_head (c := quote) _ (by decide), show quote ≠ closeBrace by decide]
    unfold print at enough ⊢
    have inner := ih.members key item members k (by simpa using enough) first later
    unfold readValue
    simp [start, other, nonempty, inner, ofMembers_sorted sorted]

theorem readValue_step (j : Json FixedPoint) (k : Str) (enough : (print j).length ≤ fuel + 1)
    (printable : j.Printable) (stop : Delimited k) : readValue (fuel + 1) (print j ++ k) = some (j, k) := by
  cases j with
  | null => exact readValue_null fuel k
  | bool b => exact readValue_bool fuel b k
  | int n => exact readValue_int fuel printable stop
  | float x => exact readValue_float fuel x stop
  | string s => exact readValue_string fuel s k
  | array items => exact readValue_array ih items k enough printable
  | object members => exact readValue_object ih members k enough printable.1 printable.2

theorem readItems_step (item : Json FixedPoint) (items : List (Json FixedPoint)) (k : Str)
    (enough : (print item).length + (printItems items).length ≤ fuel + 1) (first : item.Printable)
    (later : Json.PrintableItems items) :
    readItems (fuel + 1) (print item ++ (printItems items ++ k)) = some (item :: items, k) := by
  unfold readItems
  cases items with
  | nil =>
    have value := ih.value item (printItems [] ++ k) (by simpa [printItems] using enough) first
      (delimited_printItems [] k)
    rw [value]
    simp [printItems, readSeparator, dropWhile_head (c := closeBracket) _ (by decide),
      show closeBracket ≠ comma by decide]
  | cons item' items =>
    simp only [printItems, List.length_cons, List.length_append, List.cons_append] at enough
    have value := ih.value item (printItems (item' :: items) ++ k) (by omega) first (delimited_printItems _ k)
    have rest := ih.items item' items k (by omega) later.1 later.2
    rw [value]
    simp [printItems, readSeparator, dropWhile_head (c := comma) _ (by decide), rest]

theorem readMembers_step (key : Str) (item : Json FixedPoint) (members : List (Str × Json FixedPoint)) (k : Str)
    (enough : (printString key).length + ((print item).length + (printMembers members).length + 1) ≤ fuel + 1)
    (first : item.Printable) (later : Json.PrintableMembers members) :
    readMembers (fuel + 1) (printString key ++ colon :: (print item ++ (printMembers members ++ k))) =
      some ((key, item) :: members, k) := by
  unfold readMembers
  rw [readKey_printString]
  have value := ih.value item (printMembers members ++ k) (by omega) first (delimited_printMembers members k)
  simp only [Option.bind_eq_bind, Option.bind_some, value]
  cases members with
  | nil =>
    simp [printMembers, readSeparator, dropWhile_head (c := closeBrace) _ (by decide),
      show closeBrace ≠ comma by decide]
  | cons member members =>
    obtain ⟨key', item'⟩ := member
    simp only [printMembers, List.length_cons, List.length_append, List.cons_append] at enough
    have rest := ih.members key' item' members k (by omega) later.2.1 later.2.2
    simp [printMembers, readSeparator, dropWhile_head (c := comma) _ (by decide), rest]

end Step

theorem readsBack (fuel : Nat) : ReadsBack fuel := by
  induction fuel with
  | zero =>
    have printed : ∀ j : Json FixedPoint, 0 < (print j).length := by
      intro j
      obtain ⟨c, t, text, _⟩ := print_head j
      rw [text]
      exact t.length.succ_pos
    refine ⟨fun j k enough => ?_, fun item items k enough => ?_, fun key item members k enough => ?_⟩
    · exact absurd enough (Nat.not_le.2 (printed j))
    · have := printed item
      omega
    · omega
  | succ fuel ih => exact ⟨readValue_step ih, readItems_step ih, readMembers_step ih⟩

theorem readDocument_print {j : Json FixedPoint} (printable : j.Printable) : readDocument (print j) = some j := by
  have value := (readsBack ((print j).length + 1)).value j [] (Nat.le_succ _) printable (by simp [Delimited])
  rw [List.append_nil] at value
  unfold readDocument
  rw [value]
  rfl

/-! ## The library -/

/-- The library that prints and reads this text form. Like the original it refuses documents with strings that are
not valid UTF-8, on both ways. -/
def library : JsonLibrary FixedPoint where
  dump j :=
    if j.Printable then .ok (print j)
    else .error (lit "[json.exception.type_error.316] invalid UTF-8 byte")
  parse text :=
    match readDocument text with
    | none => .error (lit "[json.exception.parse_error.101] parse error")
    | some j =>
      if j.Printable then .ok j
      else .error (lit "[json.exception.parse_error.101] parse error: invalid string: ill-formed UTF-8 byte")
  finite _ := true
  parse_dump := by
    intro j printable
    refine ⟨print j, if_pos printable, ?_⟩
    rw [readDocument_print printable, Json.reread_finite j (by simp)]
    exact if_pos printable
  parse_printable := by
    intro text j read
    split at read
    · cases read
    · split at read
      · rename_i printable
        cases read
        exact printable
      · cases read

theorem library_parse_print {j : Json FixedPoint} (printable : j.Printable) : library.parse (print j) = .ok j := by
  obtain ⟨text, dumped, parsed⟩ := library.parse_dump j printable
  rw [show library.dump j = .ok (print j) from if_pos printable] at dumped
  cases dumped
  rw [parsed]
  exact congrArg Except.ok (Json.reread_finite j fun _ => rfl)

end Actuator.Lib.JsonText
