/-
  TileEvents.Definition.Basic
  ───────────────────────────
  **MAP DEFINITIONS.**

  A map as its makers write it: codes where the game has kinds, and numbers
  where it has links.  A definition is decoded into a `GameMap` before it is
  played, and can be validated on its own.
-/
import TileEvents.Node.Id

namespace TileEvents

/-! ## §1. Nodes. -/

/-- The fields of a node as they are written. -/
inductive PayloadDefinition where
  | teleport (map : UInt16) (x y : UInt8) (direction : Option UInt8) (transition : UInt8)
  | door (door : UInt16) (key : Option UInt16) (lockpickReduction : UInt8)
      (unlockText : Option UInt16) (unlockFailed : UInt16)
  | chest (chest : UInt16) (key : Option UInt16) (lockpickReduction : UInt8) (searchCheck : Bool)
      (text : Option UInt16) (unlockFailed : UInt16)
  | popupText (text : UInt16) (image : Option UInt8) (byMoving byCursor : Bool)
  | spinner (direction : Option UInt8)
  | trap (target baseDamage : UInt8) (ailment : Option UInt8)
  | removeBuffs (buff : Option UInt8)
  | riddlemouth (riddleText solutionText : UInt16) (answers : List UInt16)
  | award (target kind operation : UInt8) (random : Bool) (index value : UInt16)
  | changeTile (map : UInt16) (x y : UInt8) (tile : UInt16)
  | startBattle (monsterGroup : UInt16)
  | enterPlace (kind : UInt8) (place : UInt16) (openingHour closingHour : UInt8)
      (closedText : UInt16) (usedMap : Option UInt16)
  | condition (kind : UInt8) (object value count alternate : UInt16)
  | action (kind : UInt8) (object value count : UInt16)
  | diceRoll (chance : UInt8) (alternate : UInt16)
  | conversation (kind : UInt8)
  | decision (text no : UInt16)
  | changeMusic (song : UInt16) (volume : UInt8)
  | spawn (map : UInt16) (x y travelType : UInt8)
  /-- The bytes of a kind that this format does not know. -/
  | raw (bytes : List UInt8)
  deriving DecidableEq

namespace PayloadDefinition

/-- The type code that goes with a payload; bytes have none of their own. -/
def typeCode? : PayloadDefinition → Option UInt8
  | teleport .. => some 1
  | door .. => some 2
  | chest .. => some 3
  | popupText .. => some 4
  | spinner .. => some 5
  | trap .. => some 6
  | removeBuffs .. => some 7
  | riddlemouth .. => some 8
  | award .. => some 9
  | changeTile .. => some 10
  | startBattle .. => some 11
  | enterPlace .. => some 12
  | condition .. => some 13
  | action .. => some 14
  | diceRoll .. => some 15
  | conversation .. => some 16
  | decision .. => some 19
  | changeMusic .. => some 20
  | spawn .. => some 22
  | raw .. => none

/-- The second link of a payload that has one, whether or not it leads anywhere. -/
def branch? : PayloadDefinition → Option UInt16
  | door _ _ _ _ unlockFailed => some unlockFailed
  | chest _ _ _ _ _ unlockFailed => some unlockFailed
  | condition _ _ _ _ alternate => some alternate
  | diceRoll _ alternate => some alternate
  | decision _ no => some no
  | _ => none

/-- The links a payload has besides the next one, those that lead nowhere left out. -/
def branchLinks (p : PayloadDefinition) : List UInt16 :=
  p.branch?.toList.filter (· != NodeId.noLink)

end PayloadDefinition

/-- A node as it is written. -/
structure NodeDefinition where
  /-- The declared type. -/
  type : UInt8
  next : UInt16
  payload : PayloadDefinition
  deriving DecidableEq

/-! ## §2. Maps. -/

/-- An event on a tile, counted from 0. -/
structure TileDefinition where
  x : UInt8
  y : UInt8
  event : UInt16
  deriving DecidableEq

/-- A map as it is written. -/
structure MapDefinition where
  index : UInt16
  name : String
  is3d : Bool
  width : UInt8
  height : UInt8
  battleBackground : UInt8
  /-- The table of nodes; links are positions in it. -/
  nodes : List NodeDefinition
  /-- The first node of every event's chain, events counting from 1. -/
  chainHeads : List UInt16
  tiles : List TileDefinition
  texts : List String
  deriving DecidableEq

end TileEvents
