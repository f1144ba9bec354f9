/-
  TileEvents.Proofs.Dice.Range
  ────────────────────────────
  **A THROW STAYS BETWEEN ITS BOUNDS.**

  Seeded dice multiply a word with the number of sides and keep the high half
  of the product, which is below the number of sides.  Where the low half
  leaves it in doubt, a carry is added.  Then the low half is so large that the
  high half is not the largest side, and the carry has room.  Scripted dice
  move a value to the nearer bound.

    • `highWord_lt`, `carry_fits` — the high half, without and with the carry;
    • `below_lt`                  — a number below the number of sides;
    • `between_bounds`            — a throw of either dice.
-/
import TileEvents.Dice.Basic

namespace TileEvents.Dice

/-! ## §1. The high half of a product. -/

section Product

variable {word range : Nat}

/-- The high half of a word times the number of sides is a side. -/
theorem highWord_lt (hword : word < 4294967296) (hrange : 0 < range) :
    word * range / 4294967296 < range := by
  refine Nat.div_lt_of_lt_mul ?_
  exact Nat.mul_lt_mul_of_pos_right hword hrange

/-- **A large low half leaves room for a carry.** -/
theorem carry_fits (hword : word < 4294967296) (hrange : range < 4294967296)
    (hlow : 4294967296 - range < word * range % 4294967296) :
    word * range / 4294967296 + 1 < range := by
  have hproduct : word * range ≤ 4294967295 * range :=
    Nat.mul_le_mul_right range (Nat.le_of_lt_succ hword)
  have hsplit := Nat.div_add_mod (word * range) 4294967296
  omega

end Product

/-! ## §2. Seeded dice. -/

/-- **A number below the number of sides**, unless that is zero. -/
theorem below_lt {range : UInt32} (hrange : range ≠ 0) (stream : ChaCha.Stream) :
    (below range stream).1.toNat < range.toNat := by
  have hpos : 0 < range.toNat := by
    refine Nat.pos_of_ne_zero fun hzero => hrange ?_
    exact UInt32.toNat_inj.1 hzero
  have hlt := range.toNat_lt
  have hword := stream.next.1.toNat_lt
  have hhigh := highWord_lt hword hpos
  have hside {n : Nat} (h : n < range.toNat) : (UInt32.ofNat n).toNat < range.toNat := by
    rw [UInt32.toNat_ofNat', Nat.mod_eq_of_lt (Nat.lt_trans h hlt)]
    exact h
  unfold below
  dsimp only
  rw [if_neg (by simpa using hrange)]
  split
  · next hlow =>
      have hcarry := carry_fits hword hlt hlow
      refine hside ?_
      split <;> omega
  · exact hside hhigh

/-! ## §3. Throws. -/

theorem clampTo_bounds {lo hi : UInt32} (h : lo ≤ hi) (v : UInt32) :
    lo ≤ clampTo lo hi v ∧ clampTo lo hi v ≤ hi := by
  unfold clampTo
  split
  · exact ⟨UInt32.le_refl lo, h⟩
  · next hlo =>
      split
      · exact ⟨h, UInt32.le_refl hi⟩
      · next hhi => exact ⟨UInt32.not_lt.1 hlo, UInt32.not_lt.1 hhi⟩

/-- What seeded dice add to the lower bound reaches the upper one at most. -/
theorem below_span_le {lo hi : UInt32} (h : lo ≤ hi) (stream : ChaCha.Stream) :
    (below (hi - lo + 1) stream).1.toNat ≤ hi.toNat - lo.toNat := by
  have hspan : (hi - lo).toNat = hi.toNat - lo.toNat := UInt32.toNat_sub_of_le _ _ h
  have hhi := hi.toNat_lt
  have hsides : (hi - lo + 1).toNat = (hi.toNat - lo.toNat + 1) % 4294967296 := by
    rw [UInt32.toNat_add, hspan]
    rfl
  -- with all words between the bounds there are too many sides for a word
  by_cases hall : hi.toNat - lo.toNat = 4294967295
  case pos =>
    rw [hall]
    exact Nat.le_of_lt_succ (UInt32.toNat_lt _)
  case neg =>
    have hrange : hi - lo + 1 ≠ 0 := by
      intro hzero
      rw [hzero, UInt32.toNat_zero] at hsides
      omega
    have hlt := below_lt hrange stream
    omega

/-- **A throw of either dice stays between its bounds.** -/
theorem between_bounds {lo hi : UInt32} (h : lo ≤ hi) (d : Dice) :
    lo ≤ (d.between lo hi).1 ∧ (d.between lo hi).1 ≤ hi := by
  have lowest : lo ≤ lo ∧ lo ≤ hi := ⟨UInt32.le_refl lo, h⟩
  cases d with
  | scripted values thrown =>
      rw [between]
      split
      · exact lowest
      · rw [if_neg (UInt32.not_lt.2 h)]
        exact clampTo_bounds h _
  | seeded stream =>
      rw [between]
      split
      · exact lowest
      · have hle := UInt32.le_iff_toNat_le.1 h
        have hhi := hi.toNat_lt
        have hoffset := below_span_le h stream
        show lo ≤ lo + (below (hi - lo + 1) stream).1 ∧ lo + (below (hi - lo + 1) stream).1 ≤ hi
        rw [UInt32.le_iff_toNat_le, UInt32.le_iff_toNat_le, UInt32.toNat_add]
        omega

end TileEvents.Dice
