/-
  TileEvents.Session.RepeatGuard
  ──────────────────────────────
  **NO EVENT TWICE IN A ROW BY STANDING STILL.**

  The guard remembers the map and the tile event that fired last.  A step onto
  a tile with that event again is held back, so that a text does not pop up
  twice; doors, teleports, chests, places, the end of buffs, riddles and, on
  3D maps, traps fire every time.  Which of these an event is shows in its
  first node that is neither a condition nor a dice roll.
-/
import TileEvents.GameMap
import TileEvents.Record
import TileEvents.Trigger

namespace TileEvents

/-! ## §1. What an event is. -/

/-- Whether nodes of this type only decide how the chain goes on. -/
def EventType.isBranching : EventType → Bool
  | condition | diceRoll => true
  | _ => false

/-- The declared type of the first node that does not only decide, at most `hops` links on from
`id`. -/
def GameMap.firstType (m : GameMap) : Nat → NodeId → Except ChainError (Option EventType)
  | hops, id =>
    match m.node id with
    | .error e => .error e
    | .ok n =>
      if n.declared.isBranching then
        match hops, n.next with
        | 0, _ => .ok none
        | _ + 1, none => .ok none
        | hops + 1, some next => m.firstType hops next
      else .ok (some n.declared)

/-- The declared type of an event's first node that does not only decide. -/
def GameMap.eventKind (m : GameMap) (event : UInt16) : Except ChainError (Option EventType) :=
  match m.chainHead event with
  | .error e => .error e
  | .ok head => m.firstType m.nodes.size head

/-- Whether an event of this kind fires again on every step onto its tile. -/
def GameMap.refires (m : GameMap) : Option EventType → Bool
  | some .teleport | some .chest | some .door | some .enterPlace | some .removeBuffs
  | some .riddlemouth => true
  | some .trap => m.is3d
  | _ => false

/-! ## §2. The guard. -/

/-- The event that fired last. -/
structure RepeatGuard where
  map : Option UInt16
  event : Option UInt16
  deriving DecidableEq

namespace RepeatGuard

/-- A guard that remembers nothing. -/
def fresh : RepeatGuard := ⟨none, none⟩

/-- A guard that remembers the map but no event. -/
def onMap (map : UInt16) : RepeatGuard := ⟨some map, none⟩

/-- A guard that remembers an event of a map. -/
def fired (map event : UInt16) : RepeatGuard := ⟨some map, some event⟩

/-- Whether an event has to be held back. -/
def holdsBack (g : RepeatGuard) (m : GameMap) (event : UInt16) (trigger : Trigger) :
    Except ChainError Bool :=
  if trigger = .move ∧ g = .fired m.index event then
    match m.eventKind event with
    | .error e => .error e
    | .ok kind => .ok (!m.refires kind)
  else .ok false

/-- **Ask the guard**: whether the event is held back, the guard afterwards and what the log says.
An event that is let through is the one remembered from then on. -/
def ask (g : RepeatGuard) (m : GameMap) (event : UInt16) (trigger : Trigger) :
    Except ChainError Bool × RepeatGuard × List Record :=
  match g.holdsBack m event trigger with
  | .error e => (.error e, g, [])
  | .ok true =>
    (.ok true, g,
      [⟨.debug, s!"suppressing repeated move trigger of event {event} on map {m.index}"⟩])
  | .ok false => (.ok false, .fired m.index event, [])

end RepeatGuard

end TileEvents
