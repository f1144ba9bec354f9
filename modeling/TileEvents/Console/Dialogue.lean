/-
  TileEvents.Console.Dialogue
  ───────────────────────────
  **PLAYING FROM LINES OF INPUT.**

  The console prints the name of its map and then, for each line of its input,
  a prompt and what came of the line.  A line that is no text is reported and
  a blank line is passed over; neither changes the game.  The dialogue ends
  with the line that quits or with the last line.
-/
import TileEvents.Console.Turn
import TileEvents.Text.Utf8

namespace TileEvents

/-! ## §1. Lines. -/

/-- The lines of an input, without the line feeds that end them.  What follows the last line feed
is a line only if there is something. -/
def Text.byteLines : List UInt8 → List (List UInt8)
  | [] => []
  | b :: rest =>
    if b = 10 then [] :: byteLines rest
    else
      match byteLines rest with
      | [] => [[b]]
      | line :: lines => (b :: line) :: lines

namespace Console

/-- **Take a line of input**, given by its bytes. -/
def hear (c : Console) (line : List UInt8) : Errand Turn :=
  match Text.Utf8.decode? line with
  | none => .done (c.tell (.error "Failed to read input. Try again."))
  | some text =>
    if Text.isBlankText text.toList then .done (c.say []) else c.execute (.parse text)

/-! ## §2. What is printed. -/

/-- The name of the map. -/
def titleSpans (c : Console) : List Span :=
  [.styled .title s!"Map {c.map.index}: {c.map.name}", .plain "\n"]

/-- What calls for a line: the tick and the hour, or that an answer is awaited. -/
def callSpan (c : Console) : Span :=
  let state := if c.pending.isSome then "answer" else s!"{hourText c.save.hour}:00"
  .styled .prompt s!"\n[Tick {c.tick}|{state}]>> "

/-! ## §3. Dialogues. -/

/-- How a dialogue ended. -/
structure Ending where
  printed : String
  console : Console
  disk : Disk

/-- The ending with something printed before it. -/
def Ending.after (printed : String) (e : Ending) : Ending := { e with printed := printed ++ e.printed }

/-- The dialogue over the lines that are left. -/
def converse (colored : Bool) (c : Console) (d : Disk) : List (List UInt8) → Ending
  | [] => ⟨c.callSpan.render colored, c, d⟩
  | line :: rest =>
    let (turn, d) := (c.hear line).run d
    let printed := c.callSpan.render colored ++ Notice.renderAll colored turn.notices
    if turn.quits then ⟨printed, turn.console, d⟩
    else (turn.console.converse colored d rest).after printed

/-- **Play from an input**, given by its bytes. -/
def play (colored : Bool) (c : Console) (d : Disk) (input : List UInt8) : Ending :=
  (c.converse colored d (Text.byteLines input)).after (Span.renderAll colored c.titleSpans)

end Console

end TileEvents
