/-
  TileEvents.Word
  ───────────────
  **WORD ARITHMETIC THAT STOPS AT THE END OF ITS RANGE.**

  Balances, weights, stats and stack sizes are words of fixed width.  Where a
  sum, product or share could leave the range, the value is computed exactly
  on `Nat` and then clamped to the largest word:

      clamp32 n  =  the word of  min n (2^32 - 1)

  A difference needs no clamp of its own: `Nat` subtraction already stops at
  zero, and the result is no larger than the minuend.
-/

namespace TileEvents.Word

/-! ## §1. Clamping a number to a word. -/

/-- The 8-bit word nearest to `n`. -/
def clamp8 (n : Nat) : UInt8 := UInt8.ofNat (min n 255)

/-- The 16-bit word nearest to `n`. -/
def clamp16 (n : Nat) : UInt16 := UInt16.ofNat (min n 65535)

/-- The 32-bit word nearest to `n`. -/
def clamp32 (n : Nat) : UInt32 := UInt32.ofNat (min n 4294967295)

@[simp] theorem toNat_clamp8 (n : Nat) : (clamp8 n).toNat = min n 255 := by
  simp only [clamp8, UInt8.toNat_ofNat']
  omega

@[simp] theorem toNat_clamp16 (n : Nat) : (clamp16 n).toNat = min n 65535 := by
  simp only [clamp16, UInt16.toNat_ofNat']
  omega

@[simp] theorem toNat_clamp32 (n : Nat) : (clamp32 n).toNat = min n 4294967295 := by
  simp only [clamp32, UInt32.toNat_ofNat']
  omega

/-! ## §2. Sums, differences and shares. -/

/-- The sum, or the largest word if the sum is larger. -/
def add32 (a b : UInt32) : UInt32 := clamp32 (a.toNat + b.toNat)

/-- The difference, or zero if `b` is larger. -/
def sub32 (a b : UInt32) : UInt32 := clamp32 (a.toNat - b.toNat)

/-- The product, or the largest word if the product is larger. -/
def mul32 (a b : UInt32) : UInt32 := clamp32 (a.toNat * b.toNat)

/-- `percent` hundredths of `base`, rounded down, or the largest word if that is larger. -/
def percentOf (base percent : UInt32) : UInt32 := clamp32 (base.toNat * percent.toNat / 100)

@[simp] theorem toNat_add32 (a b : UInt32) :
    (add32 a b).toNat = min (a.toNat + b.toNat) 4294967295 := by
  simp [add32]

@[simp] theorem toNat_sub32 (a b : UInt32) : (sub32 a b).toNat = a.toNat - b.toNat := by
  have h := a.toNat_lt
  simp only [sub32, toNat_clamp32]
  omega

@[simp] theorem toNat_mul32 (a b : UInt32) :
    (mul32 a b).toNat = min (a.toNat * b.toNat) 4294967295 := by
  simp [mul32]

@[simp] theorem toNat_percentOf (base percent : UInt32) :
    (percentOf base percent).toNat
      = min (base.toNat * percent.toNat / 100) 4294967295 := by
  simp [percentOf]

end TileEvents.Word
