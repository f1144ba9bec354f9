/-
  TileEvents.Node.Basic
  ─────────────────────
  **EVENT NODES.**

  A node declares a type, may link to a next node, and carries a payload with
  the fields of its kind.  Most kinds are told apart by the payload itself;
  the declared type has to agree with it, and a node where it does not is
  corrupt.  A payload of bytes goes with any type that is not known.
-/
import TileEvents.Code.Ailment
import TileEvents.Code.Direction
import TileEvents.Code.EventType
import TileEvents.Code.Kinds
import TileEvents.Node.Id
import TileEvents.Savegame.Basic

namespace TileEvents

/-! ## §1. The larger payloads. -/

/-- A door: closed until the savegame says it was opened. -/
structure Door where
  door : UInt16
  key : Option UInt16
  lockpickReduction : UInt8
  unlockText : Option UInt16
  unlockFailed : Option NodeId
  deriving DecidableEq

/-- A chest; a hidden one has to be found by a search first. -/
structure Chest where
  chest : UInt16
  key : Option UInt16
  lockpickReduction : UInt8
  searchCheck : Bool
  text : Option UInt16
  unlockFailed : Option NodeId
  deriving DecidableEq

/-- A trap. -/
structure Trap where
  target : Audience
  baseDamage : UInt8
  ailment : Option Ailment
  deriving DecidableEq

/-- An award: a change to the stats of party members. -/
structure Award where
  target : Audience
  kind : AwardKind
  operation : AwardOperation
  /-- Throw the amount between 1 and `value` for every member. -/
  random : Bool
  value : UInt16
  deriving DecidableEq

/-- A tile to be replaced.  A zero map, column or row stands for where the first walk through the
node came from. -/
structure TileReplacement where
  target : TileTarget
  tile : UInt16
  deriving DecidableEq

/-- A place that can be entered at its opening hours. -/
structure Place where
  kind : UInt8
  place : UInt16
  openingHour : UInt8
  closingHour : UInt8
  closedText : UInt16
  usedMap : Option UInt16
  deriving DecidableEq

/-- A test that decides how the walk goes on. -/
structure Condition where
  kind : ConditionKind
  object : UInt16
  /-- The expected result: anything but zero stands for true. -/
  value : UInt16
  count : UInt16
  alternate : Option NodeId
  deriving DecidableEq

/-- A change to the savegame. -/
structure Action where
  kind : ActionKind
  object : UInt16
  /-- For flags 0 clears, 1 sets and 2 toggles; for goods 0 takes and 1 gives. -/
  value : UInt16
  count : UInt16
  deriving DecidableEq

/-! ## §2. Payloads and nodes. -/

/-- What a node does, by kind. -/
inductive Payload where
  | teleport (map : UInt16) (x y : UInt8) (direction : Option Direction) (transition : Transition)
  | door (door : Door)
  | chest (chest : Chest)
  | popupText (text : UInt16) (image : Option UInt8) (byMoving byCursor : Bool)
  | spinner (direction : Option Direction)
  | trap (trap : Trap)
  | removeBuffs (buff : Option UInt8)
  | riddlemouth (riddleText solutionText : UInt16) (answers : List UInt16)
  | award (award : Award)
  | changeTile (replacement : TileReplacement)
  | startBattle (monsterGroup : UInt16)
  | enterPlace (place : Place)
  | condition (condition : Condition)
  | action (action : Action)
  | diceRoll (chance : UInt8) (alternate : Option NodeId)
  | conversation (kind : ConversationKind)
  | decision (text : UInt16) (no : Option NodeId)
  | changeMusic (song : UInt16) (volume : UInt8)
  | spawn (map : UInt16) (x y travelType : UInt8)
  /-- The bytes of a kind that is not known. -/
  | unknown (bytes : List UInt8)
  deriving DecidableEq

/-- The type that goes with a payload; bytes have none of their own. -/
def Payload.type? : Payload → Option EventType
  | teleport .. => some .teleport
  | door .. => some .door
  | chest .. => some .chest
  | popupText .. => some .popupText
  | spinner .. => some .spinner
  | trap .. => some .trap
  | removeBuffs .. => some .removeBuffs
  | riddlemouth .. => some .riddlemouth
  | award .. => some .award
  | changeTile .. => some .changeTile
  | startBattle .. => some .startBattle
  | enterPlace .. => some .enterPlace
  | condition .. => some .condition
  | action .. => some .action
  | diceRoll .. => some .diceRoll
  | conversation .. => some .conversation
  | decision .. => some .decision
  | changeMusic .. => some .changeMusic
  | spawn .. => some .spawn
  | unknown .. => none

/-- A node of a map. -/
structure Node where
  id : NodeId
  declared : EventType
  next : Option NodeId
  payload : Payload
  deriving DecidableEq

/-- Whether the declared type goes with the payload. -/
def Node.isConsistent (n : Node) : Bool :=
  match n.payload.type?, n.declared with
  | none, .unknown _ => true
  | none, _ => false
  | some t, declared => t == declared

end TileEvents
