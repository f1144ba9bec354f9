/-
  TileEvents.Command
  ──────────────────
  **CONSOLE COMMANDS.**

  A line of input is a list of words, and the first word says what the rest
  must be: coordinates, an item and coordinates, a number, a path, words to be
  said, or nothing.  Keywords are written in lower case and several of them
  have synonyms.  A line that fits no form is an unknown command.
-/
import TileEvents.Text.Blank
import TileEvents.Trigger
import TileEvents.Walk.Prompt
import TileEvents.Word.Decimal

namespace TileEvents

/-! ## §1. Commands. -/

/-- A command of the console. -/
inductive Command where
  /-- Interact with the tile at a column and a row, counted from 0. -/
  | interact (interaction : Interaction) (x y : UInt8)
  /-- Talk to a character who stands at a tile and has the chain of `event`. -/
  | character (event : UInt16) (x y : UInt8)
  | respond (answer : Answer)
  | endTick
  | resetGuard
  | setHour (hour : UInt8)
  | tiles
  | party
  | status
  | save (path : Option String)
  | load (path : Option String)
  | help
  | quit
  | unknown
  deriving DecidableEq

namespace Command

/-! ## §2. Keywords. -/

/-- The keywords that stand alone. -/
def bareKeywords : List (String × Command) := [
  ("close", .respond .closed), ("ok", .respond .closed), ("dismiss", .respond .closed),
  ("yes", .respond .yes), ("y", .respond .yes), ("no", .respond .no), ("n", .respond .no),
  ("unlock", .respond .unlocked), ("won", .respond .won), ("win", .respond .won),
  ("fled", .respond .fled), ("flee", .respond .fled), ("tick", .endTick), ("reset", .resetGuard),
  ("tiles", .tiles), ("party", .party), ("status", .status), ("state", .status),
  ("save", .save none), ("load", .load none), ("help", .help), ("?", .help),
  ("quit", .quit), ("exit", .quit)]

/-- The keywords that are followed by a column and a row. -/
def tileKeywords : List (String × Interaction) := [
  ("step", .step), ("walk", .step), ("move", .step), ("look", .look), ("eye", .look),
  ("touch", .touch), ("hand", .touch), ("talk", .talk), ("mouth", .talk),
  ("levitate", .levitate), ("fly", .levitate), ("run", .scripted)]

/-! ## §3. Forms. -/

/-- A column and a row. -/
def coordinates? (x y : String) : Option (UInt8 × UInt8) :=
  match Word.readWord8? x.toList, Word.readWord8? y.toList with
  | some x, some y => some (x, y)
  | _, _ => none

/-- A keyword and one word. -/
def ofOne? (keyword word : String) : Option Command :=
  match keyword with
  | "enter" => (Word.readWord32? word.toList).map fun n => .respond (.number n)
  | "hour" => ((Word.readWord8? word.toList).filter (· < 24)).map .setHour
  | "save" => some (.save (some word))
  | "load" => some (.load (some word))
  | _ => none

/-- A keyword and two words. -/
def ofTwo? (keyword x y : String) : Option Command :=
  match tileKeywords.lookup keyword, coordinates? x y with
  | some interaction, some (x, y) => some (.interact interaction x y)
  | _, _ => none

/-- A keyword and three words. -/
def ofThree? (keyword number x y : String) : Option Command :=
  match Word.readWord16? number.toList, coordinates? x y with
  | some n, some (x, y) =>
    match keyword with
    | "use" => some (.interact (.useItem n) x y)
    | "npc" => some (.character n x y)
    | _ => none
  | _, _ => none

/-- The command that a list of words stands for. -/
def ofWords? : List String → Option Command
  | "say" :: word :: rest => some (.respond (.word (String.intercalate " " (word :: rest))))
  | [keyword] => bareKeywords.lookup keyword
  | [keyword, a] => ofOne? keyword a
  | [keyword, a, b] => ofTwo? keyword a b
  | [keyword, a, b, c] => ofThree? keyword a b c
  | _ => none

/-- **The command of a line.** -/
def parse (line : String) : Command :=
  (ofWords? ((Text.words line.toList).map String.ofList)).getD .unknown

end Command

end TileEvents
