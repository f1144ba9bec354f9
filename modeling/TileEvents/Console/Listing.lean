/-
  TileEvents.Console.Listing
  ──────────────────────────
  **LISTINGS.**

  The console lists its commands, the event tiles of the map, the party and
  the state of the game.  Every listing has a heading in brackets and a line
  for each fact.
-/
import TileEvents.Console.Basic
import TileEvents.Console.Notice
import TileEvents.Text.Inspect

namespace TileEvents.Console

open Text

/-- A heading in brackets, on a line of its own. -/
def headingLine (text : String) : List Span :=
  [.styled .heading ("[" ++ text ++ "]"), .plain "\n"]

/-! ## §1. Commands. -/

/-- What can be typed, and what it does. -/
def usages : List (String × String) := [
  ("step|look|touch|talk|levitate <x> <y>", "interact with a tile"),
  ("use <item> <x> <y>", "use an item on a tile"),
  ("run <x> <y>", "run a tile's event as a scripted trigger"),
  ("npc <event> <x> <y>", "talk to a character standing at a tile"),
  ("close | yes | no | unlock | won | fled", "answer the pending prompt"),
  ("say <word> | enter <number>", "answer a word or number prompt"),
  ("tick", "end the current update tick"),
  ("reset", "forget the last triggered event"),
  ("hour <0-23>", "set the time of day"),
  ("tiles | party | status", "show the map and game state"),
  ("save [path] | load [path]", "write or read the savegame"),
  ("quit", "leave the console")]

/-- The line of a usage. -/
def usageLine (usage : String × String) : List Span :=
  [.plain "  ", .styled .prompt (padEnd 42 usage.1), .plain (" " ++ usage.2 ++ "\n")]

/-- The commands. -/
def helpListing : List Span := headingLine "commands" ++ usages.flatMap usageLine

/-! ## §2. Tiles. -/

/-- The line of an event tile. -/
def tileLine (map : UInt16) (save : Savegame) (t : EventTile) : List Span :=
  let x := padStart ' ' 3 (toString t.x)
  let y := padStart ' ' 3 (toString t.y)
  let event := padEnd 4 (toString t.event)
  let state : Span :=
    if save.eventBit (.tileEvent map t.event) then .styled .denied "deactivated"
    else .styled .world "active"
  [.plain s!"  ({x}, {y})  event {event} ", state, .plain "\n"]

/-- The event tiles of the map, in ascending order of column and row. -/
def tilesListing (c : Console) : List Span :=
  headingLine s!"map {c.map.index} tiles" ++
    (if c.map.tiles.isEmpty then [.plain "  (no event tiles)\n"]
    else c.map.tiles.flatMap (tileLine c.map.index c.save))

/-! ## §3. The party. -/

/-- The ailments of a member in brackets, if there are any. -/
def ailmentsRemark (m : Member) : String :=
  match Ailment.all.filter m.hasAilment with
  | [] => ""
  | ailments => "  " ++ inspectList (ailments.map Ailment.inspect)

/-- The line of a member; a star marks the one who acts. -/
def memberLine (active : UInt64) (position : Nat) (m : Member) : Span :=
  let mark := if position = active.toNat then "*" else " "
  let name := padEnd 12 m.name
  let health := s!"HP {m.hitPoints.current}/{m.hitPoints.max}"
  let load := s!"gold {m.gold}  food {m.food}  weight {m.totalWeight}"
  .plain s!"{mark} {position}: {name} {health}  {load}{ailmentsRemark m}\n"

/-- The members of the party. -/
def partyListing (c : Console) : List Span :=
  headingLine "party" ++
    (if c.save.party.isEmpty then [.plain "  (empty)\n"]
    else c.save.party.mapIdx (memberLine c.save.activeMember))

/-! ## §4. The state of the game. -/

/-- An hour in two digits. -/
def hourText (hour : UInt8) : String := padStart '0' 2 (toString hour)

/-- The inspection form of a set of numbers. -/
def numbersText (s : KeySet UInt16) : String := inspectSet (s.toList.map toString)

/-- The inspection form of a set of flag addresses. -/
def addressesText (s : KeySet BitAddress) : String :=
  inspectSet (s.toList.map fun a => inspectPair (toString a.map) (toString a.bit))

/-- The lines of the state. -/
def statusLines (c : Console) : List String :=
  let save := c.save
  let lastMap := inspectOption toString c.session.guard.map
  let lastEvent := inspectOption toString c.session.guard.event
  [s!"  tick {c.tick}  hour {hourText save.hour}  facing {save.direction.inspect}",
    s!"  last event: map {lastMap} event {lastEvent}",
    s!"  global variables set: {numbersText save.globalVariables}",
    s!"  deactivated events: {addressesText save.eventBits}",
    s!"  unlocked doors: {numbersText save.unlockedDoors}  "
      ++ s!"unlocked chests: {numbersText save.unlockedChests}",
    s!"  known words: {numbersText save.knownWords}  tile changes: {save.tileChanges.length}"]
  ++ c.pending.toList.map fun w => s!"  waiting at node {w.node.text}: {w.prompt.inspect}"

/-- The state of the game. -/
def statusListing (c : Console) : List Span :=
  headingLine "status" ++ c.statusLines.map fun line => .plain (line ++ "\n")

end TileEvents.Console
