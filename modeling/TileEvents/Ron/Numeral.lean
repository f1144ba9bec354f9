/-
  TileEvents.Ron.Numeral
  ──────────────────────
  **NUMBERS IN DOCUMENTS.**

  A whole number is an optional sign, digits with underscores between them
  and an optional suffix that names its width; the digits are binary, octal or
  hexadecimal after 0b, 0o and 0x.  Octal and hexadecimal numbers have no
  suffix, and a suffixed number has to fit its width.
  Everything else that looks like a number has to be a floating-point number;
  a decimal number without a suffix may be of any size, as it can be read as
  one of those.
-/
import TileEvents.Text.Quoted

namespace TileEvents.Ron

/-! ## §1. Numbers. -/

/-- The width that a suffix names. -/
inductive Width where
  | unsigned (bits : Nat)
  | signed (bits : Nat)
  deriving DecidableEq

/-- A number as it is written. -/
inductive Numeral where
  | integer (value : Int) (width : Option Width)
  /-- A floating-point number, by its text. -/
  | float (text : String)
  deriving DecidableEq

namespace Width

/-- The smallest number of a width. -/
def lowest : Width → Int
  | unsigned _ => 0
  | signed bits => -((1 <<< (bits - 1) : Nat) : Int)

/-- The largest number of a width. -/
def highest : Width → Int
  | unsigned bits => ((1 <<< bits : Nat) : Int) - 1
  | signed bits => ((1 <<< (bits - 1) : Nat) : Int) - 1

/-- Whether a number lies within a width. -/
def holds (w : Width) (n : Int) : Bool := w.lowest ≤ n && n ≤ w.highest

/-- The widths by their suffixes. -/
def suffixes : List (String × Width) := [
  ("u8", .unsigned 8), ("u16", .unsigned 16), ("u32", .unsigned 32), ("u64", .unsigned 64),
  ("i8", .signed 8), ("i16", .signed 16), ("i32", .signed 32), ("i64", .signed 64)]

/-- The suffix of a width. -/
def suffix : Width → String
  | unsigned bits => "u" ++ toString bits
  | signed bits => "i" ++ toString bits

end Width

namespace Numeral

/-! ## §2. Whole numbers. -/

/-- Whether a sign is a minus, and what stands behind it. -/
def splitSign : List Char → Bool × List Char
  | '+' :: rest => (false, rest)
  | '-' :: rest => (true, rest)
  | s => (false, s)

/-- The base of a number and its digits. -/
def splitBase : List Char → Nat × List Char
  | '0' :: 'b' :: rest => (2, rest)
  | '0' :: 'o' :: rest => (8, rest)
  | '0' :: 'x' :: rest => (16, rest)
  | s => (10, s)

/-- Whether `c` belongs to the digits of a whole number. -/
def isDigitMark (c : Char) : Bool := (Text.hexValue? c).isSome || c == '_'

/-- The value of `digits` behind digits of value `acc`; underscores do not count. -/
def magnitudeFrom? (base acc : Nat) : List Char → Option Nat
  | [] => some acc
  | c :: rest =>
    if c = '_' then magnitudeFrom? base acc rest
    else
      match Text.hexValue? c with
      | some d => if d < base then magnitudeFrom? base (base * acc + d) rest else none
      | none => none

/-- The value of the digits of a whole number, which do not begin with an underscore. -/
def magnitude? (base : Nat) : List Char → Option Nat
  | [] => none
  | c :: rest => if c = '_' then none else magnitudeFrom? base 0 (c :: rest)

/-- A whole number with the text behind its digits. -/
def withSuffix? (base : Nat) (value : Int) (suffix : List Char) : Option Numeral :=
  if suffix.isEmpty then
    if base = 10 ∨ (Width.signed 64).lowest ≤ value ∧ value ≤ (Width.unsigned 64).highest then
      some (.integer value none)
    else none
  else if base = 8 ∨ base = 16 then none
  else
    match Width.suffixes.lookup (String.ofList suffix) with
    | some w => if w.holds value then some (.integer value (some w)) else none
    | none => none

/-- The whole number that `s` is. -/
def integer? (s : List Char) : Option Numeral :=
  let (negative, s) := splitSign s
  let (base, s) := splitBase s
  match magnitude? base (s.takeWhile isDigitMark) with
  | some n => withSuffix? base (if negative then -(n : Int) else n) (s.dropWhile isDigitMark)
  | none => none

/-! ## §3. Floating-point numbers. -/

/-- Whether `c` belongs to the digits, signs and marks of a floating-point number. -/
def isFloatMark (c : Char) : Bool := c.isDigit || c ∈ ['e', 'E', '.', '+', '-', '_']

/-- `s` without its underscores, which may stand behind digits and the mark of the exponent; `free`
says whether one may stand first. -/
def dropUnderscores? (free : Bool) : List Char → Option (List Char)
  | [] => some []
  | c :: rest =>
    if c = '_' then if free then dropUnderscores? free rest else none
    else
      let free := if c.isDigit || c == 'e' || c == 'E' then true else if c == '.' then false else free
      (dropUnderscores? free rest).map (c :: ·)

/-- Whether `s` is an exponent, or nothing. -/
def isExponent : List Char → Bool
  | [] => true
  | c :: rest =>
    let digits := (splitSign rest).2
    (c == 'e' || c == 'E') && !digits.isEmpty && digits.all Char.isDigit

/-- Whether `s` is a decimal number without a sign: digits on at least one side of a point, and an
optional exponent. -/
def isDecimal (s : List Char) : Bool :=
  let whole := s.takeWhile Char.isDigit
  let (fraction, rest) :=
    match s.dropWhile Char.isDigit with
    | '.' :: rest => (rest.takeWhile Char.isDigit, rest.dropWhile Char.isDigit)
    | rest => ([], rest)
  !(whole.isEmpty && fraction.isEmpty) && isExponent rest

/-- Whether `s` names the width of a floating-point number, or nothing. -/
def isFloatSuffix (s : List Char) : Bool := s.isEmpty || s == ['f', '3', '2'] || s == ['f', '6', '4']

/-- Whether `s` is infinity or not a number. -/
def isSpecial (s : List Char) : Bool :=
  let s := (splitSign s).2
  (s.take 3 == ['i', 'n', 'f'] || s.take 3 == ['N', 'a', 'N']) && isFloatSuffix (s.drop 3)

/-- Whether `s` is a floating-point number. -/
def isFloat (s : List Char) : Bool :=
  isSpecial s ||
    isFloatSuffix (s.dropWhile isFloatMark) &&
      (dropUnderscores? false (s.takeWhile isFloatMark)).any fun s => isDecimal (splitSign s).2

/-! ## §4. Reading and writing. -/

/-- **The number that `s` is.** -/
def ofLexeme? (s : List Char) : Option Numeral :=
  match integer? s with
  | some n => some n
  | none => if isFloat s then some (.float (String.ofList s)) else none

/-- How a number is written. -/
def spell : Numeral → String
  | integer value none => toString value
  | integer value (some w) => toString value ++ w.suffix
  | float text => text

/-- The value of a whole number that fits a width and has no other suffix. -/
def valueWithin? (w : Width) : Numeral → Option Int
  | integer value none => if w.holds value then some value else none
  | integer value (some v) => if v = w then some value else none
  | float _ => none

end Numeral

end TileEvents.Ron
