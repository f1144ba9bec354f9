/-
  TileEvents.Completion
  ─────────────────────
  **COMPLETING THE FIRST WORD OF A LINE.**

  At a cursor inside the first word of a line, the console offers the keywords
  that begin with what stands between the blanks and the cursor, in lower
  case.  After a blank behind the first word it offers nothing.  Positions are
  counted in bytes.
-/
import TileEvents.Text.Blank

namespace TileEvents.Completion

/-! ## §1. The terms. -/

/-- The keywords that are offered, in ascending order. -/
def terms : List String := [
  "close", "enter", "exit", "fled", "flee", "fly", "hand", "help", "hour", "levitate", "load",
  "look", "mouth", "no", "npc", "party", "quit", "reset", "run", "save", "say", "status", "step",
  "talk", "tick", "tiles", "touch", "unlock", "use", "walk", "won", "yes"]

/-- Lower case as far as it can lead to a term: the ASCII letters, and the Kelvin sign, whose lower
case is the letter k.  No other character has a lower case within ASCII. -/
def lower (c : Char) : Char := if c == '\u212a' then 'k' else c.toLower

/-- The terms that begin with `typed`, whatever the case of its letters. -/
def candidates (typed : List Char) : List String :=
  if typed.isEmpty then [] else terms.filter fun t => (typed.map lower).isPrefixOf t.toList

/-! ## §2. The word at the cursor. -/

/-- How many bytes a text takes. -/
def byteLength : List Char → Nat
  | [] => 0
  | c :: rest => c.utf8Size + byteLength rest

/-- The characters of `s` before byte `position`, or all of them. -/
def before : Nat → List Char → List Char
  | _, [] => []
  | position, c :: rest =>
    if c.utf8Size ≤ position then c :: before (position - c.utf8Size) rest else []

/-- Where the word at the cursor begins and what of it stands before the cursor; behind a second
blank that is nothing. -/
def typedWord (line : List Char) (position : Nat) : Nat × List Char :=
  let word := (before position line).dropWhile Text.isBlank
  if word.any Text.isBlank then (position, []) else (position - byteLength word, word)

/-- **Where a completion begins and what it offers.** -/
def complete (line : String) (position : Nat) : Nat × List String :=
  let (start, typed) := typedWord line.toList position
  (start, candidates typed)

end TileEvents.Completion
