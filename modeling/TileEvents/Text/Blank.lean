/-
  TileEvents.Text.Blank
  ─────────────────────
  **BLANKS, TRIMMING AND WORDS.**

  A blank is a character with the Unicode property White_Space.  A text is
  trimmed by dropping the blanks at both ends; its words are its maximal runs
  of characters that are not blank.  Main statements: no word is empty and no
  word holds a blank.
-/

namespace TileEvents.Text

/-! ## §1. The class. -/

/-- Whether `c` has the Unicode property White_Space. -/
def isBlank (c : Char) : Bool :=
  let n := c.toNat
  (0x09 ≤ n && n ≤ 0x0d) || n == 0x20 || n == 0x85 || n == 0xa0 || n == 0x1680
    || (0x2000 ≤ n && n ≤ 0x200a) || n == 0x2028 || n == 0x2029 || n == 0x202f
    || n == 0x205f || n == 0x3000

/-! ## §2. Trimming. -/

/-- `s` without the characters of class `p` at its end. -/
def dropEnd (p : Char → Bool) (s : List Char) : List Char := (s.reverse.dropWhile p).reverse

/-- `s` without the blanks at its ends. -/
def trim (s : List Char) : List Char := dropEnd isBlank (s.dropWhile isBlank)

/-- A text of blanks only, or of nothing. -/
def isBlankText (s : List Char) : Bool := s.all isBlank

/-! ## §3. Words. -/

/-- The maximal runs of characters that are not blank, in order. -/
def words : List Char → List (List Char)
  | [] => []
  | c :: rest =>
    if isBlank c then words rest
    else
      match rest with
      | [] => [[c]]
      | d :: _ =>
        if isBlank d then [c] :: words rest
        else
          match words rest with
          | [] => [[c]]
          | w :: ws => (c :: w) :: ws

/-- Words are not empty and hold no blank. -/
theorem words_solid (s : List Char) :
    ∀ w ∈ words s, w ≠ [] ∧ ∀ c ∈ w, isBlank c = false := by
  fun_induction words s with
  | case1 => simp
  | case2 c rest h ih => exact ih
  | case3 c h => simp_all
  | case4 c h d tl hd ih =>
    intro w hw
    rcases List.mem_cons.1 hw with rfl | hw
    · simp_all
    · exact ih w hw
  | case5 c h d tl hd hws ih => simp_all
  | case6 c h d tl hd w ws hws ih =>
    intro v hv
    simp only [hws, List.mem_cons] at hv ih
    rcases hv with rfl | hv
    · simp_all
    · exact ih v (Or.inr hv)

end TileEvents.Text
