/-
  TileEvents.Toml.Scalar
  ──────────────────────
  **TEXTS, NUMBERS AND MOMENTS OF A SETTINGS FILE.**

  Text stands between double quotes, with escapes, or between apostrophes,
  without; three of either make a text of several lines, whose first line
  break does not count.  Whole numbers are decimal without leading zeros, or
  hexadecimal, octal or binary, and have to fit 64 bits; an underscore stands
  only between digits.  A number with a point or an exponent must not round to
  infinity as a double, unless it is negative.
-/
import TileEvents.Text.Quoted
import TileEvents.Toml.Table

namespace TileEvents.Toml

/-! ## §1. Characters. -/

/-- Whether `c` is a blank within a line. -/
def isBlank (c : Char) : Bool := c == ' ' || c == '\t'

/-- Whether `c` may stand in a line: no control character but the tab. -/
def isLineMark (c : Char) : Bool := c == '\t' || (0x20 ≤ c.toNat && c.toNat != 0x7f)

/-- What is left without the blanks in front. -/
def skipBlanks (s : List Char) : List Char := s.dropWhile isBlank

/-- What stands behind a line break. -/
def afterBreak? : List Char → Option (List Char)
  | '\n' :: rest => some rest
  | '\r' :: '\n' :: rest => some rest
  | _ => none

/-- What is left without a line break in front. -/
def dropBreak (s : List Char) : List Char := (afterBreak? s).getD s

/-! ## §2. Text of one line. -/

/-- The escapes of one character. -/
def plainEscapes : List (Char × Char) := [
  ('b', '\x08'), ('t', '\t'), ('n', '\n'), ('f', '\x0c'), ('r', '\r'), ('"', '"'), ('\\', '\\')]

/-- A character by `n` hexadecimal digits of its code. -/
def codeEscape? (n : Nat) (s : List Char) : Option (List Char × List Char) :=
  if (s.take n).length = n then (Text.ofHex? (s.take n)).map fun c => ([c], s.drop n) else none

/-- An escape. -/
def escape? : List Char → Option (List Char × List Char)
  | [] => none
  | 'u' :: rest => codeEscape? 4 rest
  | 'U' :: rest => codeEscape? 8 rest
  | c :: rest => (plainEscapes.lookup c).map fun d => ([d], rest)

/-- Whether all that is left of a line is blank. -/
def endsLine (s : List Char) : Bool := (afterBreak? (skipBlanks s)).isSome

/-- What is left without the blanks and line breaks in front. -/
def skipBreaks : List Char → List Char
  | [] => []
  | '\r' :: '\n' :: rest => skipBreaks rest
  | c :: rest => if isBlank c || c == '\n' then skipBreaks rest else c :: rest

/-- An escape in a text of several lines: a backslash at the end of a line takes the line break and
all blanks and breaks behind it away. -/
def longEscape? (s : List Char) : Option (List Char × List Char) :=
  match escape? s with
  | some r => some r
  | none =>
    if endsLine s then some ([], skipBreaks s) else none

theorem escape?_shorter {s rest cs : List Char} (h : escape? s = some (cs, rest)) :
    rest.length < s.length := by
  unfold escape? codeEscape? at h
  split at h
  · simp at h
  · split at h
    · simp only [Option.map_eq_some_iff, Prod.mk.injEq] at h
      obtain ⟨_, _, -, rfl⟩ := h
      simp only [List.length_drop, List.length_cons]
      omega
    · simp at h
  · split at h
    · simp only [Option.map_eq_some_iff, Prod.mk.injEq] at h
      obtain ⟨_, _, -, rfl⟩ := h
      simp only [List.length_drop, List.length_cons]
      omega
    · simp at h
  · simp only [Option.map_eq_some_iff, Prod.mk.injEq] at h
    obtain ⟨_, _, -, rfl⟩ := h
    simp

theorem skipBreaks_length (s : List Char) : (skipBreaks s).length ≤ s.length := by
  fun_induction skipBreaks s with
  | case1 => simp
  | case2 rest ih =>
    simp only [List.length_cons]
    omega
  | case3 c rest _ _ ih =>
    simp only [List.length_cons]
    omega
  | case4 => simp

theorem longEscape?_le {s rest cs : List Char} (h : longEscape? s = some (cs, rest)) :
    rest.length ≤ s.length := by
  unfold longEscape? at h
  split at h
  · rename_i r hr
    simp only [Option.some.injEq] at h
    subst h
    exact Nat.le_of_lt (escape?_shorter hr)
  · split at h
    · simp only [Option.some.injEq, Prod.mk.injEq] at h
      rw [← h.2]
      exact skipBreaks_length s
    · simp at h

/-- The text behind a double quote. -/
def quoted? (s : List Char) : Option (List Char × List Char) :=
  (Text.quotedBody? ⟨escape?, escape?_shorter⟩
    (fun c => if isLineMark c then some [c] else none) s).map fun (cs, rest) => (cs.flatten, rest)

/-- The text behind an apostrophe. -/
def literal? (s : List Char) : Option (List Char × List Char) :=
  match s.dropWhile fun c => isLineMark c && c != '\'' with
  | '\'' :: rest => some (s.takeWhile fun c => isLineMark c && c != '\'', rest)
  | _ => none

/-! ## §3. Text of several lines. -/

/-- The text of several lines up to three marks; up to two marks more belong to it.  Escapes are
read if `escapes`. -/
def longBody? (mark : Char) (escapes : Bool) (s : List Char) : Option (List Char × List Char) :=
  match s with
  | [] => none
  | c :: rest =>
    if c = mark then
      let marks := ((c :: rest).takeWhile (· == mark)).length
      if marks < 3 then
        (longBody? mark escapes ((c :: rest).drop (max marks 1))).map fun (cs, after) =>
          (List.replicate marks mark ++ cs, after)
      else
        let inside := min (marks - 3) 2
        some (List.replicate inside mark, (c :: rest).drop (inside + 3))
    else if escapes && c == '\\' then
      match _h : longEscape? rest with
      | none => none
      | some (cs, after) => (longBody? mark escapes after).map fun (ds, after) => (cs ++ ds, after)
    else if c = '\r' then
      match rest with
      | '\n' :: after => (longBody? mark escapes after).map fun (cs, after) => ('\n' :: cs, after)
      | _ => none
    else if isLineMark c || c == '\n' then
      (longBody? mark escapes rest).map fun (cs, after) => (c :: cs, after)
    else none
termination_by s.length
decreasing_by
  · simp only [List.length_drop, List.length_cons]
    omega
  · have := longEscape?_le ‹_›
    simp only [List.length_cons]
    omega
  · simp only [List.length_cons]
    omega
  · simp

/-- A text at the head of `s`. -/
def text? : List Char → Option (List Char × List Char)
  | '"' :: '"' :: '"' :: rest => longBody? '"' true (dropBreak rest)
  | '\'' :: '\'' :: '\'' :: rest => longBody? '\'' false (dropBreak rest)
  | '"' :: rest => quoted? rest
  | '\'' :: rest => literal? rest
  | _ => none

/-! ## §4. Numbers. -/

/-- The digits of a number without its underscores, each of which has to stand between two digits;
`behind` says whether a digit stands in front. -/
def digits? (isDigit : Char → Bool) (behind : Bool) : List Char → Option (List Char)
  | [] => if behind then some [] else none
  | c :: rest =>
    if isDigit c then (digits? isDigit true rest).map (c :: ·)
    else if c = '_' ∧ behind then digits? isDigit false rest
    else none

/-- The value of digits in a base. -/
def valueIn (base : Nat) (ds : List Char) : Nat :=
  ds.foldl (fun n d => base * n + (Text.hexValue? d).getD 0) 0

/-- Whether `c` is a digit of a base. -/
def isDigitOf (base : Nat) (c : Char) : Bool := (Text.hexValue? c).any (· < base)

/-- A whole number that fits 64 bits. -/
def fitting? (n : Int) : Option Value :=
  if -9223372036854775808 ≤ n ∧ n ≤ 9223372036854775807 then some (.integer n) else none

/-- Digits without a leading zero. -/
def decimalDigits? (s : List Char) : Option (List Char) :=
  match digits? Char.isDigit false s with
  | some ('0' :: _ :: _) => none
  | r => r

/-- Whether a sign is a minus, and what stands behind it. -/
def splitSign : List Char → Bool × List Char
  | '+' :: rest => (false, rest)
  | '-' :: rest => (true, rest)
  | s => (false, s)

/-- The whole number that `s` is. -/
def integer? (s : List Char) : Option Value :=
  match s with
  | '0' :: 'x' :: rest =>
    (digits? (isDigitOf 16) false rest).bind fun ds => fitting? (valueIn 16 ds)
  | '0' :: 'o' :: rest =>
    (digits? (isDigitOf 8) false rest).bind fun ds => fitting? (valueIn 8 ds)
  | '0' :: 'b' :: rest =>
    (digits? (isDigitOf 2) false rest).bind fun ds => fitting? (valueIn 2 ds)
  | s =>
    let (negative, s) := splitSign s
    (decimalDigits? s).bind fun ds =>
      fitting? (if negative then -(valueIn 10 ds : Int) else valueIn 10 ds)

/-- Whether `s` is the exponent of a number. -/
def isExponent : List Char → Bool
  | c :: rest => (c == 'e' || c == 'E') && (digits? Char.isDigit false (splitSign rest).2).isSome
  | [] => false

/-- Whether `s` is a number with a point or an exponent. -/
def isFloat (s : List Char) : Bool :=
  let s := (splitSign s).2
  let isPart (c : Char) : Bool := c.isDigit || c == '_'
  s == ['i', 'n', 'f'] || s == ['n', 'a', 'n'] ||
    (decimalDigits? (s.takeWhile isPart)).isSome &&
      match s.dropWhile isPart with
      | '.' :: rest =>
        (digits? Char.isDigit false (rest.takeWhile isPart)).isSome &&
          ((rest.dropWhile isPart).isEmpty || isExponent (rest.dropWhile isPart))
      | rest => isExponent rest

/-- The smallest number that rounds to infinity as a double; it has 309 digits. -/
def infinityBound : Nat := (1 <<< 1024) - (1 <<< 970)

/-- Whether a number without a sign rounds to infinity: it does if it has more than 309 digits before
the point, or 309 that make at least the bound. -/
def roundsToInfinity (s : List Char) : Bool :=
  let isExponentMark (c : Char) : Bool := c == 'e' || c == 'E'
  let mantissa := s.takeWhile (!isExponentMark ·)
  let (negative, exponent) := splitSign ((s.dropWhile (!isExponentMark ·)).drop 1)
  let shift := valueIn 10 (exponent.filter Char.isDigit)
  let places := ((mantissa.dropWhile (· != '.')).filter Char.isDigit).length
  let digits := (mantissa.filter Char.isDigit).dropWhile (· == '0')
  let size : Int := digits.length - places + (if negative then -(shift : Int) else shift)
  if digits.isEmpty || size < 309 then false
  else 309 < size || infinityBound ≤ valueIn 10 ((digits ++ List.replicate 309 '0').take 309)

/-- The number with a point or an exponent that `s` is. -/
def float? (s : List Char) : Option Value :=
  let (negative, magnitude) := splitSign s
  if isFloat s && (negative || !roundsToInfinity magnitude) then some .float else none

/-! ## §5. Moments. -/

/-- The number of a text of exactly `n` digits. -/
def fixed? (n : Nat) (s : List Char) : Option Nat :=
  if s.length = n ∧ s.all Char.isDigit then some (valueIn 10 s) else none

/-- The days of a month. -/
def daysOf (year month : Nat) : Nat :=
  if month = 2 then if year % 4 = 0 ∧ (year % 100 ≠ 0 ∨ year % 400 = 0) then 29 else 28
  else if month ∈ [4, 6, 9, 11] then 30 else 31

/-- Whether `s` is a date. -/
def isDate (s : List Char) : Bool :=
  match fixed? 4 (s.take 4), fixed? 2 ((s.drop 5).take 2), fixed? 2 (s.drop 8) with
  | some year, some month, some day =>
    s[4]? == some '-' && s[7]? == some '-' && 1 ≤ month && month ≤ 12 && 1 ≤ day
      && day ≤ daysOf year month
  | _, _, _ => false

/-- Whether `s` is an offset from universal time. -/
def isOffset (s : List Char) : Bool :=
  match s with
  | ['Z'] | ['z'] => true
  | sign :: rest =>
    match fixed? 2 (rest.take 2), fixed? 2 (rest.drop 3) with
    | some hour, some minute =>
      (sign == '+' || sign == '-') && rest[2]? == some ':' && hour ≤ 23 && minute ≤ 59
    | _, _ => false
  | [] => false

/-- Whether `s` is the fraction of a second, or nothing. -/
def isFraction (s : List Char) : Bool :=
  match s with
  | [] => true
  | '.' :: rest => !rest.isEmpty && rest.all Char.isDigit
  | _ => false

/-- Whether `s` is a time of day, with an offset or without. -/
def isTime (offset : Bool) (s : List Char) : Bool :=
  match fixed? 2 (s.take 2), fixed? 2 ((s.drop 3).take 2), fixed? 2 ((s.drop 6).take 2) with
  | some hour, some minute, some second =>
    let tail := s.drop 8
    let fraction := tail.takeWhile fun c => c == '.' || c.isDigit
    let zone := tail.dropWhile fun c => c == '.' || c.isDigit
    s[2]? == some ':' && s[5]? == some ':' && hour ≤ 23 && minute ≤ 59 && second ≤ 60
      && isFraction fraction && (zone.isEmpty || offset && isOffset zone)
  | _, _, _ => false

/-- Whether `s` is a date, a time, or a date and a time. -/
def isMoment (s : List Char) : Bool :=
  isTime false s || isDate s ||
    isDate (s.take 10) && s[10]?.any (· ∈ ['T', 't', ' ']) && isTime true (s.drop 11)

/-! ## §6. Words. -/

/-- Whether `c` belongs to a number, a moment or a truth value. -/
def isScalarMark (c : Char) : Bool := c.isAlphanum || c ∈ ['_', '+', '-', '.', ':']

/-- How far a number, a moment or a truth value reaches: a date goes on behind one space if a digit
stands there. -/
def scalarLength (s : List Char) : Nat :=
  let n := (s.takeWhile isScalarMark).length
  match s.drop n with
  | ' ' :: c :: rest =>
    if isDate (s.take n) && c.isDigit then n + 1 + ((c :: rest).takeWhile isScalarMark).length else n
  | _ => n

/-- The number, moment or truth value that `s` is. -/
def scalar? (s : List Char) : Option Value :=
  if s = ['t', 'r', 'u', 'e'] then some (.flag true)
  else if s = ['f', 'a', 'l', 's', 'e'] then some (.flag false)
  else
    match integer? s with
    | some v => some v
    | none =>
      match float? s with
      | some v => some v
      | none => if isMoment s then some .moment else none

end TileEvents.Toml
