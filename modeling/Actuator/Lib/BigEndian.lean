import Mathlib.Data.List.Basic
import Mathlib.Data.List.Induction
import Mathlib.Data.Nat.Bitwise

/-!
# Big-endian byte strings

The value of a byte string read most significant byte first (`ofBytesBE`) and the
`n`-byte encoding of a number (`toBytesBE`) are inverse to each other on the
numbers below `256 ^ n`. Shift-and-mask encoders and shift-and-or decoders over
`UInt16`, `UInt32` and `UInt64` are instances of the two, so a proof about a
wire format compares byte strings and never looks at a shift.
-/

namespace Actuator.Lib

/-- The number a byte string spells, most significant byte first. -/
def ofBytesBE (bs : List UInt8) : Nat := bs.foldl (fun n b => n * 256 + b.toNat) 0

/-- The `n` low bytes of `x`, most significant first. -/
def toBytesBE : Nat → Nat → List UInt8
  | 0, _ => []
  | n + 1, x => toBytesBE n (x / 256) ++ [UInt8.ofNat x]

theorem ofBytesBE_concat (bs : List UInt8) (b : UInt8) :
    ofBytesBE (bs ++ [b]) = ofBytesBE bs * 256 + b.toNat := by
  simp [ofBytesBE, List.foldl_append]

@[simp] theorem length_toBytesBE (n x : Nat) : (toBytesBE n x).length = n := by
  induction n generalizing x with
  | zero => rfl
  | succ n ih => simp [toBytesBE, ih]

/-- Decoding an encoding gives the number back, if it fits. -/
theorem ofBytesBE_toBytesBE {n x : Nat} (h : x < 256 ^ n) : ofBytesBE (toBytesBE n x) = x := by
  induction n generalizing x with
  | zero => simp at h; simp [toBytesBE, ofBytesBE, h]
  | succ n ih =>
    have fits : x / 256 < 256 ^ n := by
      rw [Nat.pow_succ] at h
      omega
    rw [toBytesBE, ofBytesBE_concat, ih fits]
    simp
    omega

/-- Every byte string is the encoding of its value. -/
theorem toBytesBE_ofBytesBE (bs : List UInt8) : toBytesBE bs.length (ofBytesBE bs) = bs := by
  induction bs using List.reverseRecOn with
  | nil => rfl
  | append_singleton bs b ih =>
    have low : UInt8.ofNat (ofBytesBE bs * 256 + b.toNat) = b := by
      apply UInt8.toNat_inj.1
      have := b.toNat_lt
      simp
    have high : (ofBytesBE bs * 256 + b.toNat) / 256 = ofBytesBE bs := by
      have := b.toNat_lt
      omega
    rw [List.length_append, List.length_singleton, toBytesBE, ofBytesBE_concat, high, low, ih]

theorem ofBytesBE_lt (bs : List UInt8) : ofBytesBE bs < 256 ^ bs.length := by
  induction bs using List.reverseRecOn with
  | nil => simp [ofBytesBE]
  | append_singleton bs b ih =>
    have := b.toNat_lt
    rw [ofBytesBE_concat, List.length_append, List.length_singleton, Nat.pow_succ]
    omega

/-! ## Words as byte strings -/

theorem exists_of_length_four {bs : List UInt8} (len : bs.length = 4) : ∃ b0 b1 b2 b3, bs = [b0, b1, b2, b3] := by
  obtain ⟨b0, bs, rfl⟩ := List.exists_cons_of_length_eq_add_one len
  obtain ⟨b1, b2, b3, rfl⟩ := List.length_eq_three.1 (Nat.succ.inj len)
  exact ⟨b0, b1, b2, b3, rfl⟩

theorem exists_of_length_eight {bs : List UInt8} (len : bs.length = 8) :
    ∃ b0 b1 b2 b3 b4 b5 b6 b7, bs = [b0, b1, b2, b3, b4, b5, b6, b7] := by
  obtain ⟨b0, b1, b2, b3, front⟩ := exists_of_length_four (show (bs.take 4).length = 4 by simp [len])
  obtain ⟨b4, b5, b6, b7, back⟩ := exists_of_length_four (show (bs.drop 4).length = 4 by simp [len])
  exact ⟨b0, b1, b2, b3, b4, b5, b6, b7, by rw [← List.take_append_drop 4 bs, front, back]; rfl⟩

/-- A byte string of the width of a word is the encoding of that word. -/
theorem eq_toBytesBE_uint16 {bs : List UInt8} (len : bs.length = 2) :
    bs = toBytesBE 2 (UInt16.ofNat (ofBytesBE bs)).toNat := by
  have fits := len ▸ ofBytesBE_lt bs
  rw [UInt16.toNat_ofNat_of_lt' fits, ← len, toBytesBE_ofBytesBE]

theorem eq_toBytesBE_uint32 {bs : List UInt8} (len : bs.length = 4) :
    bs = toBytesBE 4 (UInt32.ofNat (ofBytesBE bs)).toNat := by
  have fits := len ▸ ofBytesBE_lt bs
  rw [UInt32.toNat_ofNat_of_lt' fits, ← len, toBytesBE_ofBytesBE]

theorem eq_toBytesBE_uint64 {bs : List UInt8} (len : bs.length = 8) :
    bs = toBytesBE 8 (UInt64.ofNat (ofBytesBE bs)).toNat := by
  have fits := len ▸ ofBytesBE_lt bs
  rw [UInt64.toNat_ofNat_of_lt' fits, ← len, toBytesBE_ofBytesBE]

/-! ## Shifts and masks -/

/-- Bits of `a` all above those of `b` make `|` an addition. -/
theorem or_eq_add {a b : Nat} (i : Nat) (high : 2 ^ i ∣ a) (low : b < 2 ^ i) : a ||| b = a + b := by
  obtain ⟨q, rfl⟩ := high
  exact (Nat.two_pow_add_eq_or_of_lt low q).symm

theorem byte_uint16 (x k : UInt16) : ((x >>> k) &&& 0xFF).toUInt8 = UInt8.ofNat (x.toNat / 2 ^ (k.toNat % 16)) := by
  apply UInt8.toNat_inj.1
  have mask := Nat.and_two_pow_sub_one_eq_mod (x.toNat / 2 ^ (k.toNat % 16)) 8
  rw [UInt16.toNat_toUInt8, UInt16.toNat_and, UInt16.toNat_shiftRight, Nat.shiftRight_eq_div_pow, UInt8.toNat_ofNat']
  simp only [UInt16.reduceToNat, Nat.reducePow, Nat.reduceSub] at mask ⊢
  rw [mask, Nat.mod_mod]

theorem low_byte_uint16 (x : UInt16) : (x &&& 0xFF).toUInt8 = UInt8.ofNat x.toNat := by
  simpa using byte_uint16 x 0

theorem byte_uint32 (x k : UInt32) : ((x >>> k) &&& 0xFF).toUInt8 = UInt8.ofNat (x.toNat / 2 ^ (k.toNat % 32)) := by
  apply UInt8.toNat_inj.1
  have mask := Nat.and_two_pow_sub_one_eq_mod (x.toNat / 2 ^ (k.toNat % 32)) 8
  rw [UInt32.toNat_toUInt8, UInt32.toNat_and, UInt32.toNat_shiftRight, Nat.shiftRight_eq_div_pow, UInt8.toNat_ofNat']
  simp only [UInt32.reduceToNat, Nat.reducePow, Nat.reduceSub] at mask ⊢
  rw [mask, Nat.mod_mod]

theorem low_byte_uint32 (x : UInt32) : (x &&& 0xFF).toUInt8 = UInt8.ofNat x.toNat := by
  simpa using byte_uint32 x 0

theorem byte_uint64 (x k : UInt64) : ((x >>> k) &&& 0xFF).toUInt8 = UInt8.ofNat (x.toNat / 2 ^ (k.toNat % 64)) := by
  apply UInt8.toNat_inj.1
  have mask := Nat.and_two_pow_sub_one_eq_mod (x.toNat / 2 ^ (k.toNat % 64)) 8
  rw [UInt64.toNat_toUInt8, UInt64.toNat_and, UInt64.toNat_shiftRight, Nat.shiftRight_eq_div_pow, UInt8.toNat_ofNat']
  simp only [UInt64.reduceToNat, Nat.reducePow, Nat.reduceSub] at mask ⊢
  rw [mask, Nat.mod_mod]

theorem low_byte_uint64 (x : UInt64) : (x &&& 0xFF).toUInt8 = UInt8.ofNat x.toNat := by
  simpa using byte_uint64 x 0

/-- The bytes a shift-and-mask encoder pushes for a 16-bit word. -/
def pushUint16 (x : UInt16) : List UInt8 :=
  [((x >>> 8) &&& 0xFF).toUInt8, (x &&& 0xFF).toUInt8]

/-- The bytes a shift-and-mask encoder pushes for a 32-bit word. -/
def pushUint32 (x : UInt32) : List UInt8 :=
  [((x >>> 24) &&& 0xFF).toUInt8, ((x >>> 16) &&& 0xFF).toUInt8,
   ((x >>> 8) &&& 0xFF).toUInt8, (x &&& 0xFF).toUInt8]

/-- The bytes a shift-and-mask encoder pushes for a 64-bit word. -/
def pushUint64 (x : UInt64) : List UInt8 :=
  [((x >>> 56) &&& 0xFF).toUInt8, ((x >>> 48) &&& 0xFF).toUInt8,
   ((x >>> 40) &&& 0xFF).toUInt8, ((x >>> 32) &&& 0xFF).toUInt8,
   ((x >>> 24) &&& 0xFF).toUInt8, ((x >>> 16) &&& 0xFF).toUInt8,
   ((x >>> 8) &&& 0xFF).toUInt8, (x &&& 0xFF).toUInt8]

/-- The word a shift-and-or decoder builds from two bytes. -/
def wordUint16 (b0 b1 : UInt8) : UInt16 := (b0.toUInt16 <<< 8) ||| b1.toUInt16

/-- The word a shift-and-or decoder builds from four bytes. -/
def wordUint32 (b0 b1 b2 b3 : UInt8) : UInt32 :=
  (b0.toUInt32 <<< 24) ||| (b1.toUInt32 <<< 16) ||| (b2.toUInt32 <<< 8) ||| b3.toUInt32

/-- The word a shift-and-or decoder builds from eight bytes. -/
def wordUint64 (b0 b1 b2 b3 b4 b5 b6 b7 : UInt8) : UInt64 :=
  (b0.toUInt64 <<< 56) ||| (b1.toUInt64 <<< 48) ||| (b2.toUInt64 <<< 40) ||| (b3.toUInt64 <<< 32) |||
    (b4.toUInt64 <<< 24) ||| (b5.toUInt64 <<< 16) ||| (b6.toUInt64 <<< 8) ||| b7.toUInt64

theorem pushUint16_eq (x : UInt16) : pushUint16 x = toBytesBE 2 x.toNat := by
  simp only [pushUint16, byte_uint16]
  simp only [low_byte_uint16, toBytesBE]
  rfl

theorem pushUint32_eq (x : UInt32) : pushUint32 x = toBytesBE 4 x.toNat := by
  simp only [pushUint32, byte_uint32]
  simp only [low_byte_uint32, toBytesBE, Nat.div_div_eq_div_mul]
  rfl

theorem pushUint64_eq (x : UInt64) : pushUint64 x = toBytesBE 8 x.toNat := by
  simp only [pushUint64, byte_uint64]
  simp only [low_byte_uint64, toBytesBE, Nat.div_div_eq_div_mul]
  rfl

theorem toNat_wordUint16 (b0 b1 : UInt8) :
    (wordUint16 b0 b1).toNat = ofBytesBE [b0, b1] := by
  have l0 := b0.toNat_lt
  have l1 := b1.toNat_lt
  have s0 : (b0.toUInt16 <<< 8).toNat = b0.toNat * 2 ^ 8 := by
    simp [Nat.shiftLeft_eq]; omega
  rw [wordUint16, UInt16.toNat_or, s0, UInt8.toNat_toUInt16,
    or_eq_add 8 (by omega) (by omega)]
  simp only [ofBytesBE, List.foldl_cons, List.foldl_nil]
  omega

theorem toNat_wordUint32 (b0 b1 b2 b3 : UInt8) :
    (wordUint32 b0 b1 b2 b3).toNat = ofBytesBE [b0, b1, b2, b3] := by
  have l0 := b0.toNat_lt
  have l1 := b1.toNat_lt
  have l2 := b2.toNat_lt
  have l3 := b3.toNat_lt
  have s0 : (b0.toUInt32 <<< 24).toNat = b0.toNat * 2 ^ 24 := by
    simp [Nat.shiftLeft_eq]; omega
  have s1 : (b1.toUInt32 <<< 16).toNat = b1.toNat * 2 ^ 16 := by
    simp [Nat.shiftLeft_eq]; omega
  have s2 : (b2.toUInt32 <<< 8).toNat = b2.toNat * 2 ^ 8 := by
    simp [Nat.shiftLeft_eq]; omega
  rw [wordUint32, UInt32.toNat_or, UInt32.toNat_or, UInt32.toNat_or, s0, s1, s2, UInt8.toNat_toUInt32,
    or_eq_add (a := b0.toNat * 2 ^ 24) 24 (by omega) (by omega),
    or_eq_add (a := b0.toNat * 2 ^ 24 + b1.toNat * 2 ^ 16) 16 (by omega) (by omega),
    or_eq_add 8 (by omega) (by omega)]
  simp only [ofBytesBE, List.foldl_cons, List.foldl_nil]
  omega

theorem toNat_wordUint64 (b0 b1 b2 b3 b4 b5 b6 b7 : UInt8) :
    (wordUint64 b0 b1 b2 b3 b4 b5 b6 b7).toNat = ofBytesBE [b0, b1, b2, b3, b4, b5, b6, b7] := by
  have l0 := b0.toNat_lt
  have l1 := b1.toNat_lt
  have l2 := b2.toNat_lt
  have l3 := b3.toNat_lt
  have l4 := b4.toNat_lt
  have l5 := b5.toNat_lt
  have l6 := b6.toNat_lt
  have l7 := b7.toNat_lt
  have s0 : (b0.toUInt64 <<< 56).toNat = b0.toNat * 2 ^ 56 := by
    simp [Nat.shiftLeft_eq]; omega
  have s1 : (b1.toUInt64 <<< 48).toNat = b1.toNat * 2 ^ 48 := by
    simp [Nat.shiftLeft_eq]; omega
  have s2 : (b2.toUInt64 <<< 40).toNat = b2.toNat * 2 ^ 40 := by
    simp [Nat.shiftLeft_eq]; omega
  have s3 : (b3.toUInt64 <<< 32).toNat = b3.toNat * 2 ^ 32 := by
    simp [Nat.shiftLeft_eq]; omega
  have s4 : (b4.toUInt64 <<< 24).toNat = b4.toNat * 2 ^ 24 := by
    simp [Nat.shiftLeft_eq]; omega
  have s5 : (b5.toUInt64 <<< 16).toNat = b5.toNat * 2 ^ 16 := by
    simp [Nat.shiftLeft_eq]; omega
  have s6 : (b6.toUInt64 <<< 8).toNat = b6.toNat * 2 ^ 8 := by
    simp [Nat.shiftLeft_eq]; omega
  rw [wordUint64, UInt64.toNat_or, UInt64.toNat_or, UInt64.toNat_or, UInt64.toNat_or, UInt64.toNat_or, UInt64.toNat_or, UInt64.toNat_or, s0, s1, s2, s3, s4, s5, s6, UInt8.toNat_toUInt64,
    or_eq_add (a := b0.toNat * 2 ^ 56) 56 (by omega) (by omega),
    or_eq_add (a := b0.toNat * 2 ^ 56 + b1.toNat * 2 ^ 48) 48 (by omega) (by omega),
    or_eq_add (a := b0.toNat * 2 ^ 56 + b1.toNat * 2 ^ 48 + b2.toNat * 2 ^ 40) 40 (by omega) (by omega),
    or_eq_add (a := b0.toNat * 2 ^ 56 + b1.toNat * 2 ^ 48 + b2.toNat * 2 ^ 40 + b3.toNat * 2 ^ 32) 32 (by omega) (by omega),
    or_eq_add (a := b0.toNat * 2 ^ 56 + b1.toNat * 2 ^ 48 + b2.toNat * 2 ^ 40 + b3.toNat * 2 ^ 32 + b4.toNat * 2 ^ 24) 24 (by omega) (by omega),
    or_eq_add (a := b0.toNat * 2 ^ 56 + b1.toNat * 2 ^ 48 + b2.toNat * 2 ^ 40 + b3.toNat * 2 ^ 32 + b4.toNat * 2 ^ 24 + b5.toNat * 2 ^ 16) 16 (by omega) (by omega),
    or_eq_add 8 (by omega) (by omega)]
  simp only [ofBytesBE, List.foldl_cons, List.foldl_nil]
  omega

end Actuator.Lib
