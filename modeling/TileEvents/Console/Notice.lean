/-
  TileEvents.Console.Notice
  ─────────────────────────
  **WHAT THE CONSOLE SHOWS.**

  A command yields notices: texts of the map, messages, what happened in the
  world, what has to be answered, how the command ended, listings and errors.
  Each is printed on a line of its own, in the style of its kind and with the
  sign of its kind in front.
-/
import TileEvents.Console.Style
import TileEvents.GameMap
import TileEvents.Host
import TileEvents.Record

namespace TileEvents

namespace Console

/-! ## §1. Notices. -/

/-- Something that is shown to the player. -/
inductive Notice where
  | mapText (text : String)
  /-- A built-in message. -/
  | message (text : String)
  | world (text : String)
  /-- Something the player has to answer. -/
  | prompt (text : String)
  /-- How a command ended. -/
  | outcome (text : String)
  | listing (spans : List Span)
  | error (text : String)
  deriving DecidableEq

namespace Notice

/-- The spans of a notice. -/
def spans : Notice → List Span
  | mapText text => [.plain "  ", .styled .mapText text]
  | message text => [.styled .sign "⚙", .plain " ", .styled .world text]
  | world text => [.styled .sign "⌘", .plain " ", .styled .world text]
  | prompt text => [.styled .prompt "?", .plain " ", .styled .prompt text]
  | outcome text => [.styled .outcome text]
  | listing spans => spans
  | error text => [.styled .error "⚠\ufe0e", .plain " ", .styled .error text]

/-- What is printed of a notice. -/
def render (colored : Bool) (n : Notice) : String := Span.renderAll colored n.spans ++ "\n"

/-- What is printed of several notices. -/
def renderAll (colored : Bool) (notices : List Notice) : String :=
  String.join (notices.map (render colored))

end Notice

/-! ## §2. The world. -/

/-- A remark that is made only about a value that is there. -/
def remarkOf {α : Type} (remark : α → String) : Option α → String
  | some a => remark a
  | none => ""

/-- What is shown of a request of a walk; a refused entry is not shown. -/
def Notice.ofCall? (m : GameMap) : HostCall → Option Notice
  | .teleport map x y direction transition =>
    let facing := remarkOf (fun d : Direction => s!" facing {d.inspect}") direction
    some (world s!"{transition.inspect} to map {map} at ({x}, {y}){facing}")
  | .updateTile target tile =>
    some (world s!"tile ({target.x}, {target.y}) on map {target.map} becomes {tile}")
  | .spin direction => some (world s!"spun to face {direction.inspect}")
  | .enterPlace kind place usedMap admitted =>
    let inside := remarkOf (fun map : UInt16 => s!" (map {map})") usedMap
    if admitted then some (world s!"entered place {place} of type {kind}{inside}") else none
  | .playMusic song volume => some (world s!"music: song {song} at volume {volume}")
  | .spawn map x y travelType =>
    some (world s!"spawned on map {map} at ({x}, {y}) travelling by {travelType}")
  | .message (.mapText index) => some (mapText (m.textOrMark index))
  | .message (.builtin text) => some (message text)
  | .itemUncursed member item =>
    some (world s!"item {item} of member {member} is no longer cursed")

end Console

/-- What the log says of a request of a walk: only that the party was moved. -/
def HostCall.record? : HostCall → Option Record
  | .teleport map x y _ _ => some ⟨.info, s!"teleport to map {map} ({x}, {y})"⟩
  | _ => none

end TileEvents
