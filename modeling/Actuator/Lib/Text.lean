import Mathlib.Data.Int.Basic
import Mathlib.Data.List.Basic
import Mathlib.Data.List.DropRight
import Mathlib.Order.Basic
import Mathlib.Order.Lex

/-!
# Byte strings

C++ strings and byte vectors are sequences of bytes, so both are `List UInt8`
here. A literal enters as the UTF-8 bytes of a Lean string, which is how the
compiler stores it in the object file.
-/

namespace Actuator.Lib

/-- A `std::string` or a `std::vector<uint8_t>`. -/
abbrev Str := List UInt8

/-- The bytes of a string literal. -/
def lit (s : String) : Str := s.toUTF8.data.toList

/-- Text that decodes as UTF-8: what a JSON library agrees to print. -/
def ValidUtf8 (s : Str) : Prop := ∃ t : String, s = lit t

@[simp] theorem validUtf8_lit (t : String) : ValidUtf8 (lit t) := ⟨t, rfl⟩

theorem validUtf8_nil : ValidUtf8 [] := ⟨"", by decide⟩

theorem lit_append (s t : String) : lit (s ++ t) = lit s ++ lit t := by
  simp [lit]

theorem ValidUtf8.append {s t : Str} (hs : ValidUtf8 s) (ht : ValidUtf8 t) : ValidUtf8 (s ++ t) := by
  obtain ⟨s, rfl⟩ := hs
  obtain ⟨t, rfl⟩ := ht
  exact ⟨s ++ t, (lit_append s t).symm⟩

theorem validUtf8_iff (s : Str) : ValidUtf8 s ↔ (ByteArray.mk s.toArray).IsValidUTF8 := by
  constructor
  · intro valid
    obtain ⟨t, rfl⟩ := valid
    exact t.isValidUTF8
  · intro valid
    exact ⟨String.fromUTF8 (ByteArray.mk s.toArray) valid, rfl⟩

instance decidableValidUtf8 (s : Str) : Decidable (ValidUtf8 s) := decidable_of_iff' _ (validUtf8_iff s)

/-- A text of ASCII characters has one byte for each. -/
theorem lit_ofList {l : List Char} (ascii : ∀ c ∈ l, c.toNat < 128) :
    lit (String.ofList l) = l.map fun c => UInt8.ofNat c.toNat := by
  have bytes : l.flatMap String.utf8EncodeChar = l.map fun c => UInt8.ofNat c.toNat := by
    induction l with
    | nil => rfl
    | cons c l ih =>
      obtain ⟨first, later⟩ := List.forall_mem_cons.1 ascii
      have small : c.val.toNat ≤ 127 := Nat.le_of_lt_succ first
      have single : String.utf8EncodeChar c = [UInt8.ofNat c.toNat] := by
        unfold String.utf8EncodeChar
        exact if_pos small
      rw [List.flatMap_cons, List.map_cons, single, ih later, List.singleton_append]
  simp [lit, List.utf8Encode, bytes]

/-- Bytes in unsigned order, as `std::string` compares them. -/
instance linearOrderUInt8 : LinearOrder UInt8 where
  le_refl := UInt8.le_refl
  le_trans _ _ _ := UInt8.le_trans
  lt_iff_le_not_ge a b := by simp [UInt8.lt_iff_toNat_lt, UInt8.le_iff_toNat_le]; omega
  le_antisymm _ _ := UInt8.le_antisymm
  le_total := UInt8.le_total
  toDecidableLE := inferInstance

/-! ## Character classes -/

/-- `std::isspace` in the C locale. -/
def isSpace (c : UInt8) : Bool := c.toNat == 32 || (9 ≤ c.toNat && c.toNat ≤ 13)

/-- `std::isdigit`. -/
def isDigit (c : UInt8) : Bool := 48 ≤ c.toNat && c.toNat ≤ 57

/-- `std::isalpha` in the C locale. -/
def isAlpha (c : UInt8) : Bool := (65 ≤ c.toNat && c.toNat ≤ 90) || (97 ≤ c.toNat && c.toNat ≤ 122)

/-- `std::isalnum` in the C locale. -/
def isAlnum (c : UInt8) : Bool := isAlpha c || isDigit c

/-- The byte of an ASCII character. -/
def ch (c : Char) : UInt8 := UInt8.ofNat c.toNat

/-- The text without white space at either end. -/
def trim (s : Str) : Str := (s.dropWhile isSpace).rdropWhile isSpace

/-- `std::toupper` in the C locale. -/
def toUpper (c : UInt8) : UInt8 := if 97 ≤ c.toNat && c.toNat ≤ 122 then c - 32 else c

/-! ## Searching -/

/-- `find`: where the pattern first occurs. -/
def find? (pattern : Str) : Str → Option Nat
  | [] => if pattern.isEmpty then some 0 else none
  | c :: s => if pattern.isPrefixOf (c :: s) then some 0 else (find? pattern s).map (· + 1)

/-- `find(pattern) != npos`. -/
def occurs (pattern s : Str) : Bool := (find? pattern s).isSome

/-- A byte is found where it first occurs. -/
theorem find?_byte {c : UInt8} {s : Str} (before : c ∉ s) (t : Str) : find? [c] (s ++ c :: t) = some s.length := by
  induction s with
  | nil => simp [find?]
  | cons b s ih =>
    obtain ⟨other, later⟩ := not_or.1 (List.mem_cons.not.1 before)
    simp [find?, other, ih later]

theorem occurs_iff (pattern s : Str) : occurs pattern s = true ↔ pattern <:+: s := by
  unfold occurs
  induction s with
  | nil =>
    rw [List.infix_nil, find?]
    cases pattern <;> simp
  | cons c s ih =>
    rw [List.infix_cons_iff, ← ih, find?]
    by_cases front : pattern.isPrefixOf (c :: s) = true
    · rw [if_pos front]
      exact iff_of_true rfl (Or.inl (List.isPrefixOf_iff_prefix.1 front))
    · rw [if_neg front, Option.isSome_map]
      exact ⟨Or.inr, fun either => either.resolve_left fun yes => front (List.isPrefixOf_iff_prefix.2 yes)⟩

theorem mem_of_occurs {pattern s : Str} (found : occurs pattern s = true) {c : UInt8} (mem : c ∈ pattern) : c ∈ s :=
  ((occurs_iff pattern s).1 found).subset mem

/-- A text around the first occurrence of a byte. -/
theorem eq_around_of_mem {c : UInt8} {s : Str} (found : c ∈ s) :
    s = s.takeWhile (· ≠ c) ++ c :: s.drop ((s.takeWhile (· ≠ c)).length + 1) := by
  induction s with
  | nil => cases found
  | cons b s ih =>
    by_cases same : b = c
    · simp [same]
    · have later : c ∈ s := by
        rcases List.mem_cons.1 found with eq | mem
        · exact absurd eq.symm same
        · exact mem
      simp only [List.takeWhile_cons, ne_eq, same, not_false_eq_true, decide_true, if_true, List.cons_append,
        List.length_cons, List.drop_succ_cons, List.cons.injEq, true_and]
      exact ih later

theorem find?_byte_none {c : UInt8} {s : Str} (missing : c ∉ s) : find? [c] s = none := by
  induction s with
  | nil => rfl
  | cons b s ih =>
    obtain ⟨other, later⟩ := not_or.1 (List.mem_cons.not.1 missing)
    simp [find?, other, ih later]

theorem find?_byte_lt {c : UInt8} {s : Str} {i : Nat} (found : find? [c] s = some i) : i < s.length := by
  induction s generalizing i with
  | nil => cases found
  | cons b s ih =>
    rw [find?] at found
    split at found
    · cases found
      exact Nat.succ_pos _
    · obtain ⟨j, later, rfl⟩ := Option.map_eq_some_iff.1 found
      exact Nat.succ_lt_succ (ih later)

/-- Where a byte is found that the texts around do not have. -/
theorem find?_byte_around {c : UInt8} {front behind : Str} (before : c ∉ front) (after : c ∉ behind) (s : Str) :
    find? [c] (front ++ s ++ behind) = (find? [c] s).map (front.length + ·) := by
  by_cases found : c ∈ s
  · have shape := eq_around_of_mem found
    have first : c ∉ s.takeWhile (· ≠ c) := fun mem => by simpa using List.mem_takeWhile_imp mem
    generalize s.takeWhile (· ≠ c) = pre at shape first
    generalize s.drop (pre.length + 1) = post at shape
    subst shape
    have whole : front ++ (pre ++ c :: post) ++ behind = (front ++ pre) ++ c :: (post ++ behind) := by simp
    rw [whole, find?_byte (by simp [before, first]), find?_byte first]
    simp
  · rw [find?_byte_none found, find?_byte_none (by simp [before, found, after])]
    rfl

/-- The longest prefix in a class, when the text behind it starts outside. -/
theorem takeWhile_append_stop {p : UInt8 → Bool} {s t : Str} (inside : ∀ c ∈ s, p c = true)
    (stop : ∀ c ∈ t.head?, p c = false) : (s ++ t).takeWhile p = s ∧ (s ++ t).dropWhile p = t := by
  rw [List.takeWhile_append_of_pos inside, List.dropWhile_append_of_pos inside]
  cases t with
  | nil => simp
  | cons c t => simp [stop c rfl]

/-! ## Trimming -/

/-- Trimming takes the white space around a text that neither begins nor ends with any. -/
theorem trim_around {blanks front behind : Str} {c d : UInt8} {body : Str} (before : ∀ x ∈ blanks, isSpace x = true)
    (after : ∀ x ∈ behind, isSpace x = true) (first : isSpace c = false) (last : isSpace d = false)
    (ends : c :: body = front ++ [d]) : trim (blanks ++ (c :: body ++ behind)) = c :: body := by
  have left : (blanks ++ (c :: body ++ behind)).dropWhile isSpace = c :: body ++ behind := by
    rw [List.dropWhile_append_of_pos before, List.cons_append, List.dropWhile_cons, if_neg (by simp [first])]
  have turned : ∀ x ∈ behind.reverse, isSpace x = true := fun x mem => after x (List.mem_reverse.1 mem)
  unfold trim
  rw [left, ends, List.rdropWhile, List.reverse_append, List.dropWhile_append_of_pos turned, List.reverse_append,
    List.reverse_singleton, List.singleton_append, List.dropWhile_cons, if_neg (by simp [last])]
  simp

theorem rdropWhile_append_blank (s : Str) {blanks : Str} (blank : ∀ c ∈ blanks, isSpace c = true) :
    (s ++ blanks).rdropWhile isSpace = s.rdropWhile isSpace := by
  have turned : ∀ c ∈ blanks.reverse, isSpace c = true := fun c mem => blank c (List.mem_reverse.1 mem)
  rw [List.rdropWhile, List.reverse_append, List.dropWhile_append_of_pos turned, List.rdropWhile]

theorem trim_blank_append {blanks : Str} (s : Str) (blank : ∀ c ∈ blanks, isSpace c = true) :
    trim (blanks ++ s) = trim s := by
  unfold trim
  rw [List.dropWhile_append_of_pos blank]

theorem trim_append_blank (s : Str) {blanks : Str} (blank : ∀ c ∈ blanks, isSpace c = true) :
    trim (s ++ blanks) = trim s := by
  unfold trim
  rw [List.dropWhile_append]
  split
  · rename_i none
    have nothing : blanks.dropWhile isSpace = [] := List.dropWhile_eq_nil_iff.2 blank
    rw [nothing, List.isEmpty_iff.1 none]
  · exact rdropWhile_append_blank _ blank

/-- The text between white space that `trim` leaves. -/
theorem exists_around_trim (s : Str) : ∃ front behind, s = front ++ trim s ++ behind ∧
    front = s.takeWhile isSpace ∧ (∀ c ∈ front, isSpace c = true) ∧ ∀ c ∈ behind, isSpace c = true := by
  refine ⟨s.takeWhile isSpace, (s.dropWhile isSpace).rtakeWhile isSpace, ?_, rfl, fun c mem => List.mem_takeWhile_imp mem,
    fun c mem => List.mem_rtakeWhile_imp mem⟩
  unfold trim
  rw [List.append_assoc, List.rdropWhile_append_rtakeWhile, List.takeWhile_append_dropWhile]

theorem trim_trim (s : Str) : trim (trim s) = trim s := by
  obtain ⟨front, behind, shape, -, before, after⟩ := exists_around_trim s
  have same := congrArg trim shape
  rw [trim_append_blank _ after, trim_blank_append _ before] at same
  exact same.symm

theorem filter_trim (s : Str) : (trim s).filter (fun c => !isSpace c) = s.filter fun c => !isSpace c := by
  obtain ⟨front, behind, shape, -, before, after⟩ := exists_around_trim s
  have none : ∀ blanks : Str, (∀ c ∈ blanks, isSpace c = true) → blanks.filter (fun c => !isSpace c) = [] := by
    intro blanks blank
    rw [List.filter_eq_nil_iff]
    intro c mem
    simp [blank c mem]
  conv => rhs; rw [shape]
  rw [List.filter_append, List.filter_append, none front before, none behind after, List.nil_append, List.append_nil]

theorem trim_eq_nil_iff (s : Str) : trim s = [] ↔ ∀ c ∈ s, isSpace c = true := by
  constructor
  · intro empty
    have none := filter_trim s
    rw [empty, List.filter_nil, eq_comm, List.filter_eq_nil_iff] at none
    intro c mem
    simpa using none c mem
  · intro blank
    rw [← List.append_nil s, trim_blank_append [] blank]
    rfl

theorem mem_of_mem_trim {s : Str} {c : UInt8} (mem : c ∈ trim s) : c ∈ s :=
  (List.dropWhile_suffix isSpace).subset ((List.rdropWhile_prefix isSpace _).subset mem)

theorem trim_eq_self {s : Str} (solid : ∀ c ∈ s, isSpace c = false) : trim s = s := by
  have kept := filter_trim s
  rwa [List.filter_eq_self.2 fun c mem => by rw [solid c (mem_of_mem_trim mem)]; rfl,
    List.filter_eq_self.2 fun c mem => by rw [solid c mem]; rfl] at kept

/-- In front of a text only white space is trimmed away. -/
theorem trim_append_eq_iff (x y : Str) : trim (x ++ y) = trim y ↔ ∀ c ∈ x, isSpace c = true := by
  constructor
  · intro same
    have kept := congrArg (List.filter fun c => !isSpace c) same
    rw [filter_trim, filter_trim, List.filter_append, List.append_left_eq_self, List.filter_eq_nil_iff] at kept
    intro c mem
    simpa using kept c mem
  · exact trim_blank_append y

/-! ## Decimal numbers -/

/-- The number a string of decimal digits spells. -/
def digitsValue (digits : Str) : Nat := digits.foldl (fun n d => n * 10 + (d.toNat - 48)) 0

/-- The integer a signed decimal number spells. -/
def signedValue (negative : Bool) (digits : Str) : Int :=
  if negative then -(digitsValue digits : Int) else digitsValue digits

/-- The range of a 32-bit `int`. -/
def InIntRange (v : Int) : Prop := -2147483648 ≤ v ∧ v ≤ 2147483647

instance decidableInIntRange (v : Int) : Decidable (InIntRange v) := by unfold InIntRange; infer_instance

/-- An optional sign, with its length. -/
def readSign : Str → Bool × Nat × Str
  | [] => (false, 0, [])
  | c :: s => if c = ch '-' then (true, 1, s) else if c = ch '+' then (false, 1, s) else (false, 0, c :: s)

def IsSign (sign : Str) : Prop := sign ∈ [[], [ch '+'], [ch '-']]

theorem IsSign.cases {sign : Str} (isSign : IsSign sign) : sign = [] ∨ sign = [ch '+'] ∨ sign = [ch '-'] := by
  simpa [IsSign] using isSign

theorem readSign_shape (s : Str) :
    ∃ negative sign body, IsSign sign ∧ s = sign ++ body ∧ readSign s = (negative, sign.length, body) := by
  cases s with
  | nil => exact ⟨false, [], [], List.mem_cons_self, rfl, rfl⟩
  | cons c s =>
    by_cases minus : c = ch '-'
    · subst minus
      exact ⟨true, [ch '-'], s, by simp [IsSign], rfl, rfl⟩
    · by_cases plus : c = ch '+'
      · subst plus
        exact ⟨false, [ch '+'], s, by simp [IsSign], rfl, rfl⟩
      · exact ⟨false, [], c :: s, List.mem_cons_self, rfl, by rw [readSign, if_neg minus, if_neg plus]; rfl⟩

/-- `std::stoi` with the number of characters it used, or `none` when it throws. -/
def stoi (s : Str) : Option (Int32 × Nat) :=
  let blanks := s.takeWhile isSpace
  let (negative, signLength, body) := readSign (s.dropWhile isSpace)
  let digits := body.takeWhile isDigit
  let v := signedValue negative digits
  if digits.isEmpty then none
  else if InIntRange v then some (Int32.ofInt v, blanks.length + signLength + digits.length)
  else none

/-- A text taken by `stoi` as a whole is white space, a sign and digits. -/
theorem stoi_shape {s : Str} {v : Int32} (took : stoi s = some (v, s.length)) :
    ∃ negative sign digits, IsSign sign ∧ s.dropWhile isSpace = sign ++ digits ∧
      readSign (s.dropWhile isSpace) = (negative, sign.length, digits) ∧ digits ≠ [] ∧
      (∀ c ∈ digits, isDigit c = true) ∧ v.toInt = signedValue negative digits := by
  obtain ⟨negative, sign, body, isSign, solid, read⟩ := readSign_shape (s.dropWhile isSpace)
  have total := congrArg List.length (List.takeWhile_append_dropWhile (p := isSpace) (l := s))
  rw [List.length_append, solid, List.length_append] at total
  unfold stoi at took
  simp only [read] at took
  by_cases empty : (body.takeWhile isDigit).isEmpty
  · rw [if_pos empty] at took
    cases took
  rw [if_neg empty] at took
  by_cases range : InIntRange (signedValue negative (body.takeWhile isDigit))
  · rw [if_pos range] at took
    obtain ⟨value, used⟩ := Prod.mk.inj (Option.some.inj took)
    have whole : body.takeWhile isDigit = body :=
      (List.takeWhile_prefix isDigit).eq_of_length (by omega)
    rw [whole] at empty range value
    have high := range.2
    refine ⟨negative, sign, body, isSign, solid, read, fun none => empty (List.isEmpty_iff.2 none), ?_, ?_⟩
    · rw [← whole]
      exact fun c mem => List.mem_takeWhile_imp mem
    · rw [← value, Int32.toInt_ofInt_of_le range.1 (by omega)]
  · rw [if_neg range] at took
    cases took

/-- A plain decimal number with its sign. -/
def signed (negative : Bool) (digits : Str) : Str := if negative then ch '-' :: digits else digits

theorem not_space_of_digit {c : UInt8} (digit : isDigit c = true) : isSpace c = false := by
  simp [isDigit] at digit
  simp [isSpace]
  omega

theorem isDigit_of_toNat {c : UInt8} {d : Nat} (code : c.toNat = 48 + d) (small : d < 10) : isDigit c = true := by
  simp [isDigit]
  omega

theorem ne_of_toNat_lt {c k : UInt8} (less : k.toNat < c.toNat) : c ≠ k := by
  intro same
  rw [same] at less
  exact lt_irrefl _ less

theorem digit_ne {c : UInt8} (digit : isDigit c = true) (k : UInt8) (other : isDigit k = false) : c ≠ k := by
  intro same
  rw [same, other] at digit
  cases digit

/-- No white space leads a number, and its sign is split off. -/
theorem signed_front (negative : Bool) {c : UInt8} (rest : Str) (digit : isDigit c = true) :
    (signed negative (c :: rest)).takeWhile isSpace = [] ∧
      (signed negative (c :: rest)).dropWhile isSpace = signed negative (c :: rest) ∧
      readSign (signed negative (c :: rest)) = (negative, if negative then 1 else 0, c :: rest) := by
  have space := not_space_of_digit digit
  have minus : isSpace (ch '-') = false := rfl
  refine ⟨?_, ?_, ?_⟩
  · cases negative <;> simp [signed, space, minus]
  · cases negative <;> simp [signed, space, minus]
  · cases negative
    · simp [signed, readSign, digit_ne digit (ch '-') (by decide), digit_ne digit (ch '+') (by decide)]
    · rfl

/-- `std::stoi` on a decimal number: it reads a number in range back, and throws on any other. -/
theorem stoi_signed_eq (negative : Bool) {digits : Str} (some : digits ≠ []) (all : ∀ c ∈ digits, isDigit c = true) :
    stoi (signed negative digits) =
      if InIntRange (signedValue negative digits) then
        Option.some (Int32.ofInt (signedValue negative digits), (signed negative digits).length)
      else none := by
  obtain ⟨c, rest, rfl⟩ := List.exists_cons_of_ne_nil some
  have taken : (c :: rest).takeWhile isDigit = c :: rest := List.takeWhile_eq_self_iff.2 all
  obtain ⟨blanks, body, sign⟩ := signed_front negative rest (all c List.mem_cons_self)
  simp only [stoi, blanks, body, sign, taken]
  rw [if_neg (by simp)]
  cases negative <;> simp [signed, Nat.add_comm]

theorem stoi_signed (negative : Bool) {digits : Str} (some : digits ≠ []) (all : ∀ c ∈ digits, isDigit c = true)
    (range : InIntRange (signedValue negative digits)) :
    stoi (signed negative digits) =
      Option.some (Int32.ofInt (signedValue negative digits), (signed negative digits).length) := by
  rw [stoi_signed_eq negative some all, if_pos range]

/-- `std::to_string` of an `int`. -/
def intToString (v : Int32) : Str := lit (toString v.toInt)

/-- `std::to_string` of an unsigned integer. -/
def natToString (n : Nat) : Str := lit (toString n)

theorem digitsValue_append (s t : Str) : digitsValue (s ++ t) = digitsValue s * Nat.pow 10 t.length + digitsValue t := by
  induction t using List.reverseRecOn with
  | nil => simp [digitsValue]
  | append_singleton t d ih =>
    have last : ∀ u : Str, digitsValue (u ++ [d]) = digitsValue u * 10 + (d.toNat - 48) := by
      intro u
      simp [digitsValue]
    rw [← List.append_assoc, last, last, ih, List.length_append, List.length_singleton]
    show _ = _ * (Nat.pow 10 t.length * 10) + _
    rw [Nat.add_mul, Nat.mul_assoc, Nat.add_assoc]

theorem digitsValue_cons (c : UInt8) (s : Str) :
    digitsValue (c :: s) = (c.toNat - 48) * Nat.pow 10 s.length + digitsValue s := by
  have := digitsValue_append [c] s
  simpa [digitsValue] using this

theorem natToString_eq (n : Nat) : natToString n = (Nat.toDigits 10 n).map fun c => UInt8.ofNat c.toNat := by
  unfold natToString
  show lit n.repr = _
  rw [Nat.repr_eq_ofList_toDigits]
  apply lit_ofList
  intro c mem
  have digit := Char.isDigit_iff_toNat.1 (Nat.isDigit_of_mem_toDigits (by decide) (by decide) mem)
  have high : '9'.toNat = 57 := rfl
  omega

theorem natToString_digit (n : Nat) : ∀ c ∈ natToString n, isDigit c = true := by
  rw [natToString_eq]
  intro b mem
  obtain ⟨c, inside, rfl⟩ := List.mem_map.1 mem
  have digit := Char.isDigit_iff_toNat.1 (Nat.isDigit_of_mem_toDigits (by decide) (by decide) inside)
  have low : '0'.toNat = 48 := rfl
  have high : '9'.toNat = 57 := rfl
  simp [isDigit]
  omega

theorem natToString_ne_nil (n : Nat) : natToString n ≠ [] := by
  rw [natToString_eq]
  simp [Nat.toDigits_ne_nil]

/-- A printed number reads back. -/
theorem digitsValue_natToString (n : Nat) : digitsValue (natToString n) = n := by
  have fold : ∀ (l : List Char) (i : Nat), (∀ c ∈ l, c.isDigit = true) →
      (l.map fun c => UInt8.ofNat c.toNat).foldl (fun n d => n * 10 + (d.toNat - 48)) i = Nat.ofDigitChars 10 l i := by
    intro l
    induction l with
    | nil => simp
    | cons c l ih =>
      intro i all
      obtain ⟨first, later⟩ := List.forall_mem_cons.1 all
      have digit := Char.isDigit_iff_toNat.1 first
      have high : '9'.toNat = 57 := rfl
      have low : '0'.toNat = 48 := rfl
      rw [List.map_cons, List.foldl_cons, ih _ later, Nat.ofDigitChars_cons]
      congr 1
      rw [UInt8.toNat_ofNat_of_lt' (show c.toNat < 256 by omega)]
      omega
  unfold digitsValue
  rw [natToString_eq, fold _ _ fun c mem => Nat.isDigit_of_mem_toDigits (by decide) (by decide) mem,
    Nat.ofDigitChars_ten_toDigits]

end Actuator.Lib
