import Actuator.Lib.Text

/-!
# Floating point as a parameter

The program computes with C++ `double`. Nothing proved here depends on how a
`double` rounds, so the operations it uses are the fields of a class without
laws, and every result holds for each instance. A fixed-point instance with
twelve decimals serves the concrete runs.
-/

namespace Actuator.Lib

/-- The operations on `double` that the program uses. -/
class CxxDouble (D : Type) where
  /-- `static_cast<double>(int)`. -/
  ofInt : Int32 → D
  /-- `strtod`, with the number of characters it used. -/
  strtod : Str → D × Nat
  /-- `std::stod`, or `none` when it throws. -/
  stod : Str → Option (D × Nat)
  neg : D → D
  add : D → D → D
  sub : D → D → D
  mul : D → D → D
  div : D → D → D
  abs : D → D
  sqrt : D → D
  round : D → D
  llround : D → Int
  lt : D → D → Bool
  le : D → D → Bool
  /-- `static_cast<int>(double)`. -/
  toInt : D → Int32
  /-- `static_cast<uint64_t>(double)`. -/
  toUInt64 : D → UInt64
  /-- `std::to_string`. -/
  toText : D → Str
  /-- `operator<<` on a stream with its default format, which is `%g`. -/
  toStream : D → String
  /-- The literal `1e-k`. -/
  tenToMinus : Nat → D

/-! ## Fixed-point numbers -/

/-- A number of trillionths. -/
structure FixedPoint where
  units : Int
deriving DecidableEq, Repr

namespace FixedPoint

def scale : Nat := 1000000000000

/-- A plain decimal number at the front of the text: sign, digits, and digits behind a point. -/
def strtod (s : Str) : FixedPoint × Nat :=
  let blanks := s.takeWhile isSpace
  let (negative, signLength, body) := readSign (s.dropWhile isSpace)
  let whole := body.takeWhile isDigit
  let fraction := match body.dropWhile isDigit with
    | [] => []
    | c :: rest => if c = ch '.' then rest.takeWhile isDigit else []
  let point := match body.dropWhile isDigit with
    | [] => 0
    | c :: _ => if c = ch '.' then 1 else 0
  if whole.isEmpty && fraction.isEmpty then (⟨0⟩, 0)
  else
    let magnitude := digitsValue whole * scale + digitsValue fraction * scale / Nat.pow 10 fraction.length
    (⟨if negative then -(magnitude : Int) else magnitude⟩,
      blanks.length + signLength + whole.length + point + fraction.length)

/-- The nearest whole number, halves away from zero. -/
def nearest (x : FixedPoint) : Int :=
  let n : Int := (2 * x.units.natAbs + scale : Nat) / (2 * scale : Nat)
  if x.units < 0 then -n else n

/-- The six significant digits of a positive number of trillionths, rounded half to even, and the exponent of
the first of them. -/
def significant (n : Nat) : Nat × Int :=
  let e := (toString n).length - 1
  let unit := Nat.pow 10 (e - 5)
  let q := n / unit
  let r := n % unit
  let m := if e ≤ 5 then n * Nat.pow 10 (5 - e)
    else if 2 * r > unit ∨ (2 * r = unit ∧ q % 2 = 1) then q + 1 else q
  if m = 1000000 then (100000, e - 11) else (m, e - 12)

/-- The digits behind the point, without trailing zeros. -/
def fractionText (digits : List Char) : String :=
  let kept := digits.rdropWhile (· = '0')
  if kept.isEmpty then "" else "." ++ String.ofList kept

/-- `%g`: no trailing zeros, and an exponent when it is below `-4` or above `5`. -/
def toStream (x : FixedPoint) : String :=
  if x.units = 0 then "0"
  else
    let (m, e) := significant x.units.natAbs
    let digits := (toString m).toList
    let body :=
      if -4 ≤ e ∧ e < 0 then "0" ++ fractionText (List.replicate (-e - 1).toNat '0' ++ digits)
      else if 0 ≤ e ∧ e < 6 then String.ofList (digits.take (e.toNat + 1)) ++ fractionText (digits.drop (e.toNat + 1))
      else
        String.ofList (digits.take 1) ++ fractionText (digits.drop 1) ++ (if e < 0 then "e-" else "e+") ++
          (if e.natAbs < 10 then "0" else "") ++ toString e.natAbs
    if x.units < 0 then "-" ++ body else body

instance fixedPointDouble : CxxDouble FixedPoint where
  ofInt v := ⟨v.toInt * scale⟩
  strtod := strtod
  stod s := if (strtod s).2 = 0 then none else some (strtod s)
  neg x := ⟨-x.units⟩
  add x y := ⟨x.units + y.units⟩
  sub x y := ⟨x.units - y.units⟩
  mul x y := ⟨x.units * y.units / scale⟩
  div x y := ⟨x.units * scale / y.units⟩
  abs x := ⟨x.units.natAbs⟩
  sqrt x := ⟨Nat.sqrt (x.units.toNat * scale)⟩
  round x := ⟨x.nearest * scale⟩
  llround := nearest
  lt x y := decide (x.units < y.units)
  le x y := decide (x.units ≤ y.units)
  toInt x := Int32.ofInt (x.units.tdiv scale)
  toUInt64 x := UInt64.ofNat (x.units.toNat / scale)
  toText x :=
    let millionths := x.units.natAbs / 1000000
    let fraction := toString (millionths % 1000000)
    lit ((if x.units < 0 then "-" else "") ++ toString (millionths / 1000000) ++ "." ++
      String.ofList (List.replicate (6 - fraction.length) '0') ++ fraction)
  toStream := toStream
  tenToMinus k := ⟨(scale / Nat.pow 10 k : Nat)⟩

end FixedPoint

end Actuator.Lib
