/-
  TileEvents.Text.Utf8
  ────────────────────
  **TEXT AS BYTES.**

  A character takes one to four bytes in UTF-8, and its first byte tells how
  many.  A sequence of bytes is a text only if it is the encoding of one.
-/

namespace TileEvents.Text.Utf8

/-- The text that `bytes` encode, if they encode one. -/
def decode? (bytes : List UInt8) : Option String := String.fromUTF8? ⟨bytes.toArray⟩

/-- The one character that `bytes` encode, if they encode one. -/
def char? (bytes : List UInt8) : Option Char :=
  match (decode? bytes).map String.toList with
  | some [c] => some c
  | _ => none

/-- How many bytes follow a first byte. -/
def followers (first : UInt8) : Nat :=
  if first < 0xc0 then 0 else if first < 0xe0 then 1 else if first < 0xf0 then 2 else 3

/-- The bytes of a character. -/
def encode (c : Char) : List UInt8 := String.utf8EncodeChar c

end TileEvents.Text.Utf8
