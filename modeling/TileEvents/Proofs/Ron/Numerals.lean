/-
  TileEvents.Proofs.Ron.Numerals
  ──────────────────────────────
  **NUMBERS ARE READ AS THEY WERE WRITTEN.**

  A natural number is written by its digits, the highest first, and a number
  and the tail of its digits determine each other: all but the last digit
  write the quotient by the base.  The inductions follow that cut.

    • `magnitudeFrom?_toDigits` — the digits of a number in any base up to 16,
      read one by one, give the number back;
    • `ofLexeme?_toDigits`      — the decimal digits of a number are a lexeme
      that is this number;
    • `ofHex?_toDigits`         — the hexadecimal digits of a character's code
      are this character.
-/
import Mathlib
import TileEvents.Ron.Numeral

namespace TileEvents

/-! ## §1. Digits. -/

/-- A digit is worth what it was made of. -/
theorem Text.hexValue?_digitChar {d : Nat} (h : d < 16) :
    Text.hexValue? (Nat.digitChar d) = some d := by
  have all : ∀ d < 16, Text.hexValue? (Nat.digitChar d) = some d := by decide
  exact all d h

/-- The digits of a number are digits of its base. -/
theorem Text.exists_digit {b n : Nat} (hb : 1 < b) {c : Char} (h : c ∈ Nat.toDigits b n) :
    ∃ d < b, c = Nat.digitChar d := by
  induction n using Nat.strongRecOn with
  | ind n ih =>
      by_cases hn : n < b
      · rw [Nat.toDigits_of_lt_base hn] at h
        exact ⟨n, hn, List.mem_singleton.1 h⟩
      · have hn : b ≤ n := by omega
        rw [Nat.toDigits_of_base_le hb hn] at h
        rcases List.mem_append.1 h with h | h
        · exact ih (n / b) (Nat.div_lt_self (by omega) hb) h
        · exact ⟨n % b, Nat.mod_lt n (by omega), List.mem_singleton.1 h⟩

/-- No digit is one of these marks. -/
theorem Text.digitChar_ne_mark {d : Nat} (h : d < 16) :
    Nat.digitChar d ≠ '_' ∧ Nat.digitChar d ≠ '\x7d' := by
  have all : ∀ d < 16, Nat.digitChar d ≠ '_' ∧ Nat.digitChar d ≠ '\x7d' := by decide
  exact all d h

/-! ## §2. Whole numbers. -/

namespace Ron.Numeral

/-- A last digit is read after all the others. -/
theorem magnitudeFrom?_concat {base acc : Nat} {cs : List Char} {d : Nat} (hd : d < base)
    (hbase : base ≤ 16) :
    magnitudeFrom? base acc (cs ++ [Nat.digitChar d])
      = (magnitudeFrom? base acc cs).map fun n => base * n + d := by
  induction cs generalizing acc with
  | nil =>
      have hne := (Text.digitChar_ne_mark (by omega : d < 16)).1
      simp [magnitudeFrom?, Text.hexValue?_digitChar (by omega : d < 16), hne, hd]
  | cons c cs ih =>
      rw [List.cons_append]
      unfold magnitudeFrom?
      split
      · exact ih
      · split
        · split
          · exact ih
          · rfl
        · rfl

/-- **The digits of a number give it back.** -/
theorem magnitudeFrom?_toDigits {base : Nat} (hlow : 1 < base) (hbase : base ≤ 16) (n : Nat) :
    magnitudeFrom? base 0 (Nat.toDigits base n) = some n := by
  induction n using Nat.strongRecOn with
  | ind n ih =>
      by_cases hn : n < base
      · have hone : magnitudeFrom? base 0 ([] ++ [Nat.digitChar n]) = some (base * 0 + n) :=
          magnitudeFrom?_concat hn hbase
        rw [List.nil_append, Nat.mul_zero, Nat.zero_add] at hone
        rw [Nat.toDigits_of_lt_base hn, hone]
      · have hn : base ≤ n := by omega
        have hlast : n % base < base := Nat.mod_lt n (by omega)
        rw [Nat.toDigits_of_base_le hlow hn, magnitudeFrom?_concat hlast hbase,
          ih (n / base) (Nat.div_lt_self (by omega) hlow), Option.map_some, Nat.div_add_mod]

/-- What a decimal digit is to the readers of numbers. -/
theorem decimal_digit {d : Nat} (h : d < 10) :
    isDigitMark (Nat.digitChar d) = true ∧ Nat.digitChar d ≠ '+' ∧ Nat.digitChar d ≠ '-'
      ∧ Nat.digitChar d ≠ 'b' ∧ Nat.digitChar d ≠ 'o' ∧ Nat.digitChar d ≠ 'x' := by
  have all : ∀ d < 10, isDigitMark (Nat.digitChar d) = true ∧ Nat.digitChar d ≠ '+'
      ∧ Nat.digitChar d ≠ '-' ∧ Nat.digitChar d ≠ 'b' ∧ Nat.digitChar d ≠ 'o'
      ∧ Nat.digitChar d ≠ 'x' := by decide
  exact all d h

/-- Digits begin with no sign. -/
theorem splitSign_of_digits {cs : List Char} (h : ∀ c ∈ cs, ∃ d < 10, c = Nat.digitChar d) :
    splitSign cs = (false, cs) := by
  unfold splitSign
  split
  · obtain ⟨d, hd, hc⟩ := h '+' List.mem_cons_self
    exact absurd hc.symm (decimal_digit hd).2.1
  · obtain ⟨d, hd, hc⟩ := h '-' List.mem_cons_self
    exact absurd hc.symm (decimal_digit hd).2.2.1
  · rfl

/-- Decimal digits name no other base. -/
theorem splitBase_of_digits {cs : List Char} (h : ∀ c ∈ cs, ∃ d < 10, c = Nat.digitChar d) :
    splitBase cs = (10, cs) := by
  unfold splitBase
  split
  · obtain ⟨d, hd, hc⟩ := h 'b' (by simp)
    exact absurd hc.symm (decimal_digit hd).2.2.2.1
  · obtain ⟨d, hd, hc⟩ := h 'o' (by simp)
    exact absurd hc.symm (decimal_digit hd).2.2.2.2.1
  · obtain ⟨d, hd, hc⟩ := h 'x' (by simp)
    exact absurd hc.symm (decimal_digit hd).2.2.2.2.2
  · rfl

/-- **The decimal digits of a number are that number.** -/
theorem ofLexeme?_toDigits (n : Nat) :
    ofLexeme? (Nat.toDigits 10 n) = some (.integer (.ofNat n) none) := by
  have hdigits : ∀ c ∈ Nat.toDigits 10 n, ∃ d < 10, c = Nat.digitChar d :=
    fun c hc => Text.exists_digit (by decide) hc
  have hmarks : ∀ c ∈ Nat.toDigits 10 n, isDigitMark c = true := by
    intro c hc
    obtain ⟨d, hd, rfl⟩ := hdigits c hc
    exact (decimal_digit hd).1
  have hmagnitude : magnitude? 10 (Nat.toDigits 10 n) = some n := by
    have hread : magnitudeFrom? 10 0 (Nat.toDigits 10 n) = some n :=
      magnitudeFrom?_toDigits (by decide) (by decide) n
    cases hcs : Nat.toDigits 10 n with
    | nil => exact absurd hcs Nat.toDigits_ne_nil
    | cons c cs =>
        -- an underscore could not stand first, but a digit is none
        obtain ⟨d, hd, hc⟩ := hdigits c (by rw [hcs]; exact List.mem_cons_self)
        have hmark : c ≠ '_' := by
          rw [hc]
          exact (Text.digitChar_ne_mark (by omega)).1
        rw [hcs] at hread
        simp only [magnitude?, hmark, if_false, hread]
  have hinteger : integer? (Nat.toDigits 10 n) = some (.integer (.ofNat n) none) := by
    have htake : (Nat.toDigits 10 n).takeWhile isDigitMark = Nat.toDigits 10 n :=
      List.takeWhile_eq_self_iff.2 hmarks
    have hdrop : (Nat.toDigits 10 n).dropWhile isDigitMark = [] :=
      List.dropWhile_eq_nil_iff.2 hmarks
    simp only [integer?, splitSign_of_digits hdigits, splitBase_of_digits hdigits, htake, hdrop,
      hmagnitude]
    rfl
  simp only [ofLexeme?, hinteger]

end Ron.Numeral

/-! ## §3. Codes of characters. -/

namespace Text

/-- Hexadecimal digits have values, and these make up the number. -/
theorem mapM_hexValue?_toDigits (n : Nat) :
    ∃ ds, (Nat.toDigits 16 n).mapM hexValue? = some ds ∧ ds ≠ []
      ∧ ds.foldl (fun n d => 16 * n + d) 0 = n := by
  induction n using Nat.strongRecOn with
  | ind n ih =>
      by_cases hn : n < 16
      · refine ⟨[n], ?_, by simp, by simp⟩
        simp [Nat.toDigits_of_lt_base hn, hexValue?_digitChar hn]
      · have hn : 16 ≤ n := by omega
        have hlast : n % 16 < 16 := Nat.mod_lt n (by decide)
        obtain ⟨ds, hds, -, hfold⟩ := ih (n / 16) (Nat.div_lt_self (by omega) (by decide))
        refine ⟨ds ++ [n % 16], ?_, by simp, ?_⟩
        · rw [Nat.toDigits_of_base_le (by decide) hn, List.mapM_append, hds]
          simp [hexValue?_digitChar hlast]
        · rw [List.foldl_append, hfold]
          show 16 * (n / 16) + n % 16 = n
          omega

/-- **The digits of a character's code are that character.** -/
theorem ofHex?_toDigits (c : Char) : ofHex? (Nat.toDigits 16 c.toNat) = some c := by
  obtain ⟨ds, hds, hne, hfold⟩ := mapM_hexValue?_toDigits c.toNat
  unfold ofHex?
  rw [hds]
  cases ds with
  | nil => exact absurd rfl hne
  | cons d ds =>
      have hvalid : c.toNat.isValidChar := c.valid
      simp only [hfold, hvalid, dite_true]
      rfl

/-- The code of a character has at most six hexadecimal digits. -/
theorem length_toDigits_code (c : Char) : (Nat.toDigits 16 c.toNat).length ≤ 6 := by
  have hcode : c.toNat < 0x110000 := by
    rcases c.valid with h | h
    · exact Nat.lt_trans h (by decide)
    · exact h.2
  exact (Nat.length_toDigits_le_iff (by decide) (by decide)).2 (Nat.lt_trans hcode (by decide))

end Text

end TileEvents
