/-
  TileEvents.Host
  ───────────────
  **WHAT A WALK ASKS OF THE GAME AROUND IT.**

  None of these requests waits for the player: they move the party, change
  what the map looks like, play music or show a message.  Only the entry into
  a place has an answer, and that is given by the host in advance.
-/
import TileEvents.Savegame.Basic
import TileEvents.Code.Direction

namespace TileEvents

/-- A message that is shown without waiting. -/
inductive Message where
  /-- A text of the map. -/
  | mapText (index : UInt16)
  /-- A built-in text. -/
  | builtin (text : String)
  deriving DecidableEq

/-- A request to the host. -/
inductive HostCall where
  /-- Move the party; columns and rows count from 1. -/
  | teleport (map : UInt16) (x y : UInt8) (direction : Option Direction) (transition : Transition)
  | updateTile (target : TileTarget) (tile : UInt16)
  | spin (direction : Direction)
  /-- Enter a place, which `admitted` says was allowed. -/
  | enterPlace (kind : UInt8) (place : UInt16) (usedMap : Option UInt16) (admitted : Bool)
  | playMusic (song : UInt16) (volume : UInt8)
  | spawn (map : UInt16) (x y travelType : UInt8)
  | message (message : Message)
  /-- A member lost a cursed item that was worn. -/
  | itemUncursed (member : Nat) (item : UInt16)
  deriving DecidableEq

end TileEvents
