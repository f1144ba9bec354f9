/-
  TileEvents.Scene
  ────────────────
  **ALL THAT A WALK READS AND WRITES.**

  A walk over a map works on a scene: the savegame, the dice, the targets that
  tile replacements of the map have settled on, the requests made to the host
  and the log.  What stays fixed during a walk is its context.
-/
import TileEvents.Dice.Basic
import TileEvents.Dictionary
import TileEvents.Host
import TileEvents.Node.Id
import TileEvents.Record
import TileEvents.Settings

namespace TileEvents

/-- What stays fixed during a walk. -/
structure Context where
  settings : Settings
  dictionary : Dictionary
  /-- The host's answer to every wish to enter a place. -/
  admits : Bool

/-- The targets that the tile replacements of one map have settled on. -/
abbrev SettledTargets := List (NodeId × TileTarget)

/-- What a walk reads and writes. -/
structure Scene where
  save : Savegame
  dice : Dice
  settled : SettledTargets
  calls : Array HostCall
  log : Array Record

namespace Scene

/-- The scene with a request to the host added. -/
def call (s : Scene) (c : HostCall) : Scene := { s with calls := s.calls.push c }

/-- The scene with a log record added. -/
def note (s : Scene) (level : Level) (text : String) : Scene :=
  { s with log := s.log.push ⟨level, text⟩ }

/-- The scene with several log records added. -/
def notes (s : Scene) (records : List Record) : Scene := { s with log := s.log ++ records.toArray }

/-- The scene with another savegame. -/
def setSave (s : Scene) (save : Savegame) : Scene := { s with save := save }

/-- The scene with other dice. -/
def setDice (s : Scene) (dice : Dice) : Scene := { s with dice := dice }

/-- A throw between two bounds. -/
def throwDice (s : Scene) (lo hi : UInt32) : UInt32 × Scene :=
  let (value, dice) := s.dice.between lo hi
  (value, s.setDice dice)

/-- A percentile throw. -/
def throwPercentile (s : Scene) : UInt32 × Scene :=
  let (value, dice) := s.dice.percentile
  (value, s.setDice dice)

/-- The target a node's tile replacement has settled on. -/
def settledTarget? (s : Scene) (id : NodeId) : Option TileTarget :=
  (s.settled.find? fun entry => entry.1 == id).map Prod.snd

end Scene

/-- The text of a log record about a node. -/
def NodeId.remark (id : NodeId) (text : String) : String := s!"└─ node {id.text}: {text}"

/-- The scene with an ordinary remark about a node in the log. -/
def Scene.remark (s : Scene) (id : NodeId) (text : String) : Scene := s.note .info (id.remark text)

/-- The scene with a warning about a node in the log. -/
def Scene.warnOf (s : Scene) (id : NodeId) (text : String) : Scene := s.note .warn (id.remark text)

end TileEvents
