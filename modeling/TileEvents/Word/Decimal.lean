/-
  TileEvents.Word.Decimal
  ───────────────────────
  **READING A DECIMAL NUMERAL INTO A BOUNDED RANGE.**

  A numeral is an optional plus sign and at least one ASCII digit; leading
  zeros are allowed and no other sign is.  It is read only if its value does
  not exceed the bound.
-/

namespace TileEvents.Word

/-- The value of a run of decimal digits. -/
def digitsValue (ds : List Char) : Nat := ds.foldl (fun n d => 10 * n + (d.toNat - 48)) 0

/-- The digits of a numeral: what is left after the optional plus sign. -/
def unsigned : List Char → List Char
  | '+' :: ds => ds
  | ds => ds

/-- The value of the numeral `s` if `s` is one and its value is at most `bound`. -/
def readDecimal? (bound : Nat) (s : List Char) : Option Nat :=
  let ds := unsigned s
  if ds ≠ [] ∧ ds.all Char.isDigit then
    if digitsValue ds ≤ bound then some (digitsValue ds) else none
  else none

/-- An 8-bit numeral. -/
def readWord8? (s : List Char) : Option UInt8 := (readDecimal? 255 s).map UInt8.ofNat

/-- A 16-bit numeral. -/
def readWord16? (s : List Char) : Option UInt16 := (readDecimal? 65535 s).map UInt16.ofNat

/-- A 32-bit numeral. -/
def readWord32? (s : List Char) : Option UInt32 := (readDecimal? 4294967295 s).map UInt32.ofNat

end TileEvents.Word
