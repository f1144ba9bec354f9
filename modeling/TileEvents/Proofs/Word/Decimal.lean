/-
  TileEvents.Proofs.Word.Decimal
  ──────────────────────────────
  **WHICH TEXTS ARE NUMERALS.**

  A numeral is an optional plus sign and at least one ASCII digit, and its
  value is that of its digits, so that leading zeros do not matter.  A word of
  some width is read from exactly the numerals of its value: what is too large
  for the width is not read as anything.

    • `digitsValue_eq`        — digits read one by one have the value of all;
    • `readDecimal?_eq_some`  — what is read is a numeral within the bound;
    • `readWord8?_eq_some`    — and so for words of 8, 16 and 32 bits;
    • `isNumeral_toDigits`    — every number has a numeral.
-/
import Mathlib.Data.Nat.Digits.Defs
import TileEvents.Proofs.Ron.Numerals
import TileEvents.Word.Decimal

namespace TileEvents.Word

/-! ## §1. Numerals. -/

/-- What a digit is worth. -/
def digit (c : Char) : Nat := c.toNat - 48

/-- **A numeral of the number `n`.** -/
def IsNumeral (n : Nat) (s : List Char) : Prop :=
  ∃ ds, (s = ds ∨ s = '+' :: ds) ∧ ds ≠ [] ∧ (∀ c ∈ ds, c.isDigit = true)
    ∧ Nat.ofDigits 10 (ds.reverse.map digit) = n

/-- A last digit comes after ten times all the others. -/
theorem ofDigits_concat (ds : List Char) (c : Char) :
    Nat.ofDigits 10 ((ds ++ [c]).reverse.map digit)
      = 10 * Nat.ofDigits 10 (ds.reverse.map digit) + digit c := by
  rw [List.reverse_append, List.reverse_singleton, List.singleton_append, List.map_cons,
    Nat.ofDigits_cons, Nat.add_comm]

/-- **Digits that are read one by one have the value of all of them.** -/
theorem digitsValue_eq (ds : List Char) :
    digitsValue ds = Nat.ofDigits 10 (ds.reverse.map digit) := by
  induction ds using List.reverseRecOn with
  | nil => rfl
  | append_singleton ds c ih =>
      rw [ofDigits_concat, ← ih, digitsValue, List.foldl_append]
      rfl

/-- **Every number has a numeral.** -/
theorem isNumeral_toDigits (n : Nat) : IsNumeral n (Nat.toDigits 10 n) := by
  have hall : ∀ d < 10, (Nat.digitChar d).isDigit = true ∧ digit (Nat.digitChar d) = d := by decide
  refine ⟨_, .inl rfl, Nat.toDigits_ne_nil, ?_, ?_⟩
  · intro c hc
    obtain ⟨d, hd, rfl⟩ := Text.exists_digit (by decide) hc
    exact (hall d hd).1
  · induction n using Nat.strongRecOn with
    | ind n ih =>
        by_cases hn : n < 10
        · rw [Nat.toDigits_of_lt_base hn]
          simp [(hall n hn).2]
        · have hlast : n % 10 < 10 := Nat.mod_lt n (by decide)
          rw [Nat.toDigits_of_base_le (by decide) (Nat.le_of_not_lt hn), ofDigits_concat,
            ih (n / 10) (Nat.div_lt_self (by omega) (by decide)), (hall _ hlast).2]
          omega

/-! ## §2. Reading. -/

/-- The plus sign is no digit. -/
theorem unsigned_of_digits {ds : List Char} (h : ∀ c ∈ ds, c.isDigit = true) :
    unsigned ds = ds := by
  unfold unsigned
  split
  · exact absurd (h '+' List.mem_cons_self) (by decide)
  · rfl

theorem eq_unsigned (s : List Char) : s = unsigned s ∨ s = '+' :: unsigned s := by
  unfold unsigned
  split
  · exact .inr rfl
  · exact .inl rfl

/-- **What is read is a numeral of a number within the bound.** -/
theorem readDecimal?_eq_some {bound n : Nat} {s : List Char} :
    readDecimal? bound s = some n ↔ IsNumeral n s ∧ n ≤ bound := by
  have hread : readDecimal? bound s = some n
      ↔ unsigned s ≠ [] ∧ (∀ c ∈ unsigned s, c.isDigit = true)
        ∧ Nat.ofDigits 10 ((unsigned s).reverse.map digit) = n ∧ n ≤ bound := by
    rw [readDecimal?, ← digitsValue_eq]
    grind
  rw [hread]
  constructor
  · rintro ⟨hne, hdigits, hvalue, hle⟩
    exact ⟨⟨_, eq_unsigned s, hne, hdigits, hvalue⟩, hle⟩
  · rintro ⟨⟨ds, hs, hne, hdigits, hvalue⟩, hle⟩
    have hunsigned : unsigned s = ds := by
      rcases hs with rfl | rfl
      · exact unsigned_of_digits hdigits
      · rfl
    rw [hunsigned]
    exact ⟨hne, hdigits, hvalue, hle⟩

/-- A word is read from the numerals of its value. -/
theorem map_readDecimal?_eq_some {α : Type} {ofNat : Nat → α} {toNat : α → Nat} {bound : Nat}
    (hto : ∀ n ≤ bound, toNat (ofNat n) = n) (hof : ∀ a, ofNat (toNat a) = a)
    (hle : ∀ a, toNat a ≤ bound) {s : List Char} {a : α} :
    (readDecimal? bound s).map ofNat = some a ↔ IsNumeral (toNat a) s := by
  rw [Option.map_eq_some_iff]
  constructor
  · rintro ⟨n, hn, rfl⟩
    obtain ⟨hnumeral, hbound⟩ := readDecimal?_eq_some.1 hn
    rwa [hto n hbound]
  · intro h
    exact ⟨toNat a, readDecimal?_eq_some.2 ⟨h, hle a⟩, hof a⟩

theorem readWord8?_eq_some {s : List Char} {a : UInt8} :
    readWord8? s = some a ↔ IsNumeral a.toNat s :=
  map_readDecimal?_eq_some (fun n _ => by rw [UInt8.toNat_ofNat']; omega)
    (fun _ => UInt8.ofNat_toNat) (fun a => Nat.le_of_lt_succ a.toNat_lt)

theorem readWord16?_eq_some {s : List Char} {a : UInt16} :
    readWord16? s = some a ↔ IsNumeral a.toNat s :=
  map_readDecimal?_eq_some (fun n _ => by rw [UInt16.toNat_ofNat']; omega)
    (fun _ => UInt16.ofNat_toNat) (fun a => Nat.le_of_lt_succ a.toNat_lt)

theorem readWord32?_eq_some {s : List Char} {a : UInt32} :
    readWord32? s = some a ↔ IsNumeral a.toNat s :=
  map_readDecimal?_eq_some (fun n _ => by rw [UInt32.toNat_ofNat']; omega)
    (fun _ => UInt32.ofNat_toNat) (fun a => Nat.le_of_lt_succ a.toNat_lt)

end TileEvents.Word
