/-
  TileEvents.Proofs.Text.Hearing
  ──────────────────────────────
  **WHICH WORD IS HEARD.**

  A dictionary is asked in two ways: which word an input says, and whether it
  says the word with a given number.  Both trim the input and compare letters
  in lower case, so neither hears the blanks around the input or the case of
  its letters.  The number that the first gives is the least one for which the
  second answers yes; words beyond the last number of 16 bits are heard by
  neither.

    • `trim_padded`, `trim_lower` — trimming, blanks around a text and its case;
    • `spells_restated`           — what is not heard;
    • `find?_eq_some`             — the first word that is said;
    • `find?_least_said`          — the two ways to ask agree.
-/
import Mathlib.Data.List.TakeWhile
import TileEvents.Dictionary
import TileEvents.Proofs.Text.Letters

namespace TileEvents

/-! ## §1. What trimming leaves. -/

namespace Text

variable {before after s t : List Char}

/-- Blanks in front of a text are trimmed. -/
theorem trim_append_left (h : ∀ c ∈ before, isBlank c = true) : trim (before ++ s) = trim s := by
  rw [trim, List.dropWhile_append_of_pos h]
  rfl

/-- Blanks behind a text are trimmed. -/
theorem trim_append_right (h : ∀ c ∈ after, isBlank c = true) : trim (s ++ after) = trim s := by
  have hnone : after.dropWhile isBlank = [] := List.dropWhile_eq_nil_iff.2 h
  have hreverse : ∀ c ∈ after.reverse, isBlank c = true := fun c hc => h c (List.mem_reverse.1 hc)
  rw [trim, trim, List.dropWhile_append]
  by_cases hblank : (s.dropWhile isBlank).isEmpty = true
  -- a text of blanks alone leaves nothing, with the blanks behind it or without
  · rw [if_pos hblank, hnone, List.isEmpty_iff.1 hblank]
  · rw [if_neg hblank, dropEnd, dropEnd, List.reverse_append,
      List.dropWhile_append_of_pos hreverse]

/-- **Blanks around a text are trimmed.** -/
theorem trim_padded (hbefore : ∀ c ∈ before, isBlank c = true)
    (hafter : ∀ c ∈ after, isBlank c = true) : trim (before ++ s ++ after) = trim s := by
  rw [trim_append_right hafter, trim_append_left hbefore]

/-- **Trimming does not look at case.** -/
theorem trim_lower (s : List Char) : trim (lower s) = lower (trim s) := by
  have hblank : isBlank ∘ Char.toLower = isBlank := funext isBlank_toLower
  unfold trim dropEnd lower
  rw [List.dropWhile_map, hblank, ← List.map_reverse, List.dropWhile_map, hblank, List.map_reverse]

end Text

open Text

namespace Dictionary

/-! ## §2. One word. -/

theorem sameLetters_iff {a b : List Char} : sameLetters a b = true ↔ lower a = lower b := beq_iff_eq

/-- A word is said where the letters of the trimmed input are its own, up to case. -/
theorem spells_iff {input word : String} :
    spells input word = true ↔ lower word.toList = lower (trim input.toList) := sameLetters_iff

/-- A word is heard where the same letters were said, blanks around them apart. -/
theorem isSaid_iff {d : Dictionary} {index : UInt16} {word : String}
    (h : d.word? index = some word) {text : String} :
    d.isSaid index text = true ↔ lower word.toList = lower (trim text.toList) := by
  rw [isSaid, h, ← spells_iff]
  rfl

/-- **Neither blanks around the input nor the case of its letters are heard.** -/
theorem spells_restated {input input' : String} {before said after : List Char}
    (hinput : input'.toList = before ++ said ++ after)
    (hbefore : ∀ c ∈ before, isBlank c = true) (hafter : ∀ c ∈ after, isBlank c = true)
    (hcase : lower said = lower input.toList) : spells input' = spells input := by
  have htrim : lower (trim input'.toList) = lower (trim input.toList) := by
    rw [hinput, trim_padded hbefore hafter, ← trim_lower, hcase, trim_lower]
  funext word
  rw [Bool.eq_iff_iff, spells_iff, spells_iff, htrim]

/-! ## §3. The first word. -/

variable {d : Dictionary} {input : String}

/-- The position of the first word that is said. -/
theorem findIdx?_spells {k : Nat} :
    d.words.findIdx? (spells input) = some k
      ↔ d.words[k]?.any (spells input) = true
        ∧ ∀ j < k, d.words[j]?.any (spells input) = false := by
  rw [List.findIdx?_eq_some_iff_getElem]
  constructor
  · rintro ⟨hk, hsaid, hfirst⟩
    refine ⟨?_, ?_⟩
    · rw [List.getElem?_eq_getElem hk]
      exact hsaid
    · intro j hj
      rw [List.getElem?_eq_getElem (Nat.lt_trans hj hk)]
      exact Bool.eq_false_iff.2 (hfirst j hj)
  · rintro ⟨hsaid, hfirst⟩
    obtain ⟨word, hword, hspells⟩ := (Option.any_eq_true _ _).1 hsaid
    obtain ⟨hk, rfl⟩ := List.getElem?_eq_some_iff.1 hword
    refine ⟨hk, hspells, ?_⟩
    intro j hj hspells'
    have hfalse := hfirst j hj
    rw [List.getElem?_eq_getElem (Nat.lt_trans hj hk)] at hfalse
    exact Bool.false_ne_true (hfalse.symm.trans hspells')

/-- A number is found if it is the position of the first word that is said. -/
theorem find?_eq_some_iff {i : UInt16} :
    d.find? input = some i ↔ d.words.findIdx? (spells input) = some i.toNat := by
  unfold find?
  cases d.words.findIdx? (spells input) with
  | none => simp
  | some k =>
      show (if k ≤ 65535 then some (UInt16.ofNat k) else none) = some i ↔ _
      have hi : i.toNat < 65536 := i.toNat_lt
      by_cases hk : k ≤ 65535
      · have hnat : (UInt16.ofNat k).toNat = k :=
          UInt16.toNat_ofNat_of_lt' (Nat.lt_succ_of_le hk)
        rw [if_pos hk, Option.some_inj, Option.some_inj, ← UInt16.toNat_inj, hnat]
      · -- a position with no number of its own
        rw [if_neg hk, Option.some_inj]
        refine iff_of_false nofun ?_
        omega

/-- **The word that is found is the first that is said.** -/
theorem find?_eq_some {i : UInt16} :
    d.find? input = some i
      ↔ d.isSaid i input = true ∧ ∀ j < i, d.isSaid j input = false := by
  rw [find?_eq_some_iff, findIdx?_spells]
  -- the positions before that of a number are the lesser numbers
  refine and_congr_right fun _ => ⟨?_, ?_⟩
  · intro h j hj
    exact h j.toNat (UInt16.lt_iff_toNat_lt.1 hj)
  · intro h j hj
    have hnat : (UInt16.ofNat j).toNat = j :=
      UInt16.toNat_ofNat_of_lt' (Nat.lt_trans hj i.toNat_lt)
    have hsaid := h (.ofNat j) (UInt16.lt_iff_toNat_lt.2 (by rwa [hnat]))
    rwa [isSaid, word?, hnat] at hsaid

/-- **No word is found if none with a number is said.** -/
theorem find?_eq_none : d.find? input = none ↔ ∀ i, d.isSaid i input = false := by
  constructor
  · intro h i
    -- on the number: the first that is said would be found
    induction hn : i.toNat using Nat.strongRecOn generalizing i with
    | ind n ih =>
        rw [Bool.eq_false_iff]
        intro hsaid
        have hfirst : ∀ j < i, d.isSaid j input = false :=
          fun j hj => ih j.toNat (hn ▸ UInt16.lt_iff_toNat_lt.1 hj) j rfl
        rw [find?_eq_some.2 ⟨hsaid, hfirst⟩] at h
        cases h
  · intro h
    cases hfound : d.find? input with
    | none => rfl
    | some i =>
        have hsaid := (find?_eq_some.1 hfound).1
        rw [h i] at hsaid
        cases hsaid

/-- **The two ways to ask agree.**  For every dictionary, however long, and every input, a number is
found if and only if the input says the word with this number and none with a lesser one, and none is
found if and only if the input says no word that has a number.  Both are the same for every input in
which blanks are added around the text and its letters are in any case. -/
theorem find?_least_said (d : Dictionary) (input : String) :
    (∀ i, d.find? input = some i ↔ d.isSaid i input = true ∧ ∀ j < i, d.isSaid j input = false)
      ∧ (d.find? input = none ↔ ∀ i, d.isSaid i input = false)
      ∧ ∀ before said after : List Char, (∀ c ∈ before, isBlank c = true) →
          (∀ c ∈ after, isBlank c = true) → lower said = lower input.toList →
          d.find? (.ofList (before ++ said ++ after)) = d.find? input
            ∧ ∀ i, d.isSaid i (.ofList (before ++ said ++ after)) = d.isSaid i input := by
  refine ⟨fun _ => find?_eq_some, find?_eq_none, ?_⟩
  intro before said after hbefore hafter hcase
  have hspells : spells (.ofList (before ++ said ++ after)) = spells input :=
    spells_restated String.toList_ofList hbefore hafter hcase
  refine ⟨?_, fun i => ?_⟩
  · unfold find?
    rw [hspells]
  · unfold isSaid
    rw [hspells]

/-- Of a word that stands in a dictionary three times, the first is padded and is not said at all,
and the second is found, also in capitals between blanks. -/
theorem find?_least_said_moon :
    let d : Dictionary := ⟨["moon ", "Moon", "moon"]⟩
    d.isSaid 0 "moon" = false ∧ d.isSaid 1 "moon" = true ∧ d.isSaid 2 "moon" = true
      ∧ d.find? "moon" = some 1 ∧ d.find? "\u00a0MOON\t" = some 1 := by
  intro d
  obtain ⟨hfound, -, hsame⟩ := find?_least_said d "moon"
  have hpadded : d.isSaid 0 "moon" = false := by decide +kernel
  have hmoon : d.find? "moon" = some 1 := by
    refine (hfound 1).2 ⟨by decide +kernel, ?_⟩
    intro j hj
    obtain rfl : j = 0 := UInt16.toNat_inj.1 (Nat.lt_one_iff.1 (UInt16.lt_iff_toNat_lt.1 hj))
    exact hpadded
  have hloud := (hsame ['\u00a0'] "MOON".toList ['\t'] (List.forall_mem_singleton.2 rfl)
    (List.forall_mem_singleton.2 rfl) (by decide +kernel)).1
  exact ⟨hpadded, by decide +kernel, by decide +kernel, hmoon, hloud.trans hmoon⟩

end Dictionary

end TileEvents
