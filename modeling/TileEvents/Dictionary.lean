/-
  TileEvents.Dictionary
  ─────────────────────
  **THE WORDS A PLAYER CAN SAY.**

  A dictionary numbers words.  What the player says is trimmed of blanks and
  then compared without regard to the case of the ASCII letters; the words of
  the dictionary are taken as they stand.
-/
import TileEvents.Text.Blank

namespace TileEvents

/-- A numbered list of words. -/
structure Dictionary where
  words : List String
  deriving DecidableEq

namespace Dictionary

/-- The dictionary without words. -/
def empty : Dictionary := ⟨[]⟩

/-- Whether two texts are the same up to the case of ASCII letters. -/
def sameLetters (a b : List Char) : Bool := a.map Char.toLower == b.map Char.toLower

/-- The word with this number. -/
def word? (d : Dictionary) (index : UInt16) : Option String := d.words[index.toNat]?

/-- Whether `input` says `word`. -/
def spells (input word : String) : Bool := sameLetters word.toList (Text.trim input.toList)

/-- Whether `input` says the word with this number. -/
def isSaid (d : Dictionary) (index : UInt16) (input : String) : Bool :=
  (d.word? index).any (spells input)

/-- The number of the first word that `input` says; a number beyond 16 bits is none. -/
def find? (d : Dictionary) (input : String) : Option UInt16 :=
  (d.words.findIdx? (spells input)).bind fun i =>
    if i ≤ 65535 then some (UInt16.ofNat i) else none

/-- How many words there are. -/
def size (d : Dictionary) : Nat := d.words.length

end Dictionary

end TileEvents
