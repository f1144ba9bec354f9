/-
  TileEvents.Word.Total
  ─────────────────────
  **SUMS OF NUMBERS.**

  Balances, stacks and hands are shared and taken exactly, on `Nat`, where a
  sum has no end.  A condition on means or items adds words up instead.  A
  sum of words that leaves its range starts again at zero,

      sum32 words  =  the word of  total words % 2^32

  unless additions are checked: then it does not come about at all.
-/

namespace TileEvents.Word

/-! ## §1. Exact sums. -/

/-- The sum of numbers. -/
def total : List Nat → Nat
  | [] => 0
  | n :: rest => n + total rest

/-- The sum of two lists is the sum of their sums. -/
@[simp] theorem total_append (l m : List Nat) : total (l ++ m) = total l + total m := by
  induction l with
  | nil => simp [total]
  | cons n rest ih => simp [total, ih, Nat.add_assoc]

/-! ## §2. Sums of words. -/

/-- The sum of words, which starts again at zero where it leaves its range. -/
def sum32 (words : List UInt32) : UInt32 := words.foldl (· + ·) 0

/-- The sum of two words, unless it leaves its range. -/
def checkedAdd32 (a b : UInt32) : Option UInt32 :=
  if a.toNat + b.toNat < UInt32.size then some (a + b) else none

/-- The sum of words where every addition is checked. -/
def checkedSum32 (words : List UInt32) : Option UInt32 := words.foldlM checkedAdd32 0

/-- Words added to a word come to the exact sum, less what went over the end of its range. -/
theorem toNat_foldl_add (start : UInt32) (words : List UInt32) :
    (words.foldl (· + ·) start).toNat
      = (start.toNat + total (words.map UInt32.toNat)) % UInt32.size := by
  induction words generalizing start with
  | nil => exact (Nat.mod_eq_of_lt start.toNat_lt_size).symm
  | cons word words ih =>
      rw [List.foldl_cons, ih, UInt32.toNat_add, List.map_cons, total, ← Nat.add_assoc]
      exact Nat.mod_add_mod ..

/-- A sum is the exact sum, less what went over the end of its range. -/
theorem toNat_sum32 (words : List UInt32) :
    (sum32 words).toNat = total (words.map UInt32.toNat) % UInt32.size := by
  rw [sum32, toNat_foldl_add, UInt32.toNat_zero, Nat.zero_add]

/-- Words are added to a word with checks where all of them together fit: if an addition on the way
is too much, so is the whole. -/
theorem foldlM_checkedAdd32 (start : UInt32) (words : List UInt32) :
    words.foldlM checkedAdd32 start
      = if start.toNat + total (words.map UInt32.toNat) < UInt32.size
        then some (words.foldl (· + ·) start) else none := by
  induction words generalizing start with
  | nil => exact (if_pos start.toNat_lt_size).symm
  | cons word words ih =>
      rw [List.foldlM_cons, List.foldl_cons, List.map_cons, total, ← Nat.add_assoc]
      unfold checkedAdd32
      by_cases hfits : start.toNat + word.toNat < UInt32.size
      · have hsum : (start + word).toNat = start.toNat + word.toNat := by
          rw [UInt32.toNat_add]
          exact Nat.mod_eq_of_lt hfits
        rw [if_pos hfits, ← hsum]
        exact ih (start + word)
      · rw [if_neg hfits, if_neg fun h => hfits (Nat.lt_of_le_of_lt (Nat.le_add_right ..) h)]
        rfl

/-- **A checked sum comes about where the exact sum is a word**, and then it is the sum. -/
theorem checkedSum32_eq (words : List UInt32) :
    checkedSum32 words
      = if total (words.map UInt32.toNat) < UInt32.size then some (sum32 words) else none := by
  rw [checkedSum32, foldlM_checkedAdd32, UInt32.toNat_zero, Nat.zero_add]
  rfl

/-! ## §3. Sums of sums. -/

theorem sum32_append (l m : List UInt32) : sum32 (l ++ m) = sum32 l + sum32 m := by
  apply UInt32.toNat_inj.1
  rw [UInt32.toNat_add, toNat_sum32, toNat_sum32, toNat_sum32, List.map_append, total_append]
  exact Nat.add_mod ..

/-- A sum of sums is the sum of all. -/
theorem sum32_flatten (lists : List (List UInt32)) :
    sum32 (lists.map sum32) = sum32 lists.flatten := by
  induction lists with
  | nil => rfl
  | cons l rest ih =>
      have hcons : sum32 (sum32 l :: rest.map sum32) = sum32 l + sum32 (rest.map sum32) := by
        rw [show sum32 l :: rest.map sum32 = [sum32 l] ++ rest.map sum32 from rfl, sum32_append]
        rw [show sum32 [sum32 l] = 0 + sum32 l from rfl, UInt32.zero_add]
      rw [List.map_cons, hcons, ih, List.flatten_cons, sum32_append]

/-- Checked sums of several lists come about where each of the exact sums is a word. -/
theorem mapM_checkedSum32 (lists : List (List UInt32)) :
    lists.mapM checkedSum32
      = if ∀ l ∈ lists, total (l.map UInt32.toNat) < UInt32.size then some (lists.map sum32)
        else none := by
  induction lists with
  | nil => rfl
  | cons l rest ih =>
      rw [List.mapM_cons, ih, checkedSum32_eq]
      simp only [List.forall_mem_cons]
      by_cases hl : total (l.map UInt32.toNat) < UInt32.size
      · by_cases hrest : ∀ l ∈ rest, total (l.map UInt32.toNat) < UInt32.size
        · rw [if_pos hl, if_pos hrest, if_pos ⟨hl, hrest⟩]
          rfl
        · rw [if_pos hl, if_neg hrest, if_neg (not_and_of_not_right _ hrest)]
          rfl
      · rw [if_neg hl, if_neg (not_and_of_not_left _ hl)]
        rfl

/-- One of several lists comes to no more than all of them. -/
theorem total_le_flatten {lists : List (List UInt32)} {l : List UInt32} (h : l ∈ lists) :
    total (l.map UInt32.toNat) ≤ total (lists.flatten.map UInt32.toNat) := by
  obtain ⟨before, after, rfl⟩ := List.append_of_mem h
  simp only [List.flatten_append, List.flatten_cons, List.map_append, total_append]
  omega

/-- Sums that are words come to what all the lists come to. -/
theorem total_sum32s {lists : List (List UInt32)}
    (h : ∀ l ∈ lists, total (l.map UInt32.toNat) < UInt32.size) :
    total ((lists.map sum32).map UInt32.toNat) = total (lists.flatten.map UInt32.toNat) := by
  induction lists with
  | nil => rfl
  | cons l rest ih =>
      rw [List.forall_mem_cons] at h
      rw [List.map_cons, List.map_cons, total, ih h.2, toNat_sum32, Nat.mod_eq_of_lt h.1,
        List.flatten_cons, List.map_append, total_append]

/-- **A checked sum of checked sums is the checked sum of all.** -/
theorem checkedSum32_flatten (lists : List (List UInt32)) :
    (lists.mapM checkedSum32).bind checkedSum32 = checkedSum32 lists.flatten := by
  rw [mapM_checkedSum32]
  by_cases h : ∀ l ∈ lists, total (l.map UInt32.toNat) < UInt32.size
  · rw [if_pos h, Option.bind_some, checkedSum32_eq, checkedSum32_eq, total_sum32s h, sum32_flatten]
  · -- a list that is too much by itself is so with the others
    rw [if_neg h, Option.bind_none, checkedSum32_eq, if_neg fun hfits => h fun l hl =>
      Nat.lt_of_le_of_lt (total_le_flatten hl) hfits]

end TileEvents.Word
