/-
  TileEvents.GameMap
  ──────────────────
  **A MAP AND ITS EVENTS.**

  A map holds a table of nodes, the list of its events, each given by the node
  its chain begins with, the events that lie on its tiles, and the texts its
  nodes refer to.  Events count from 1, nodes, texts and tiles from 0.
-/
import TileEvents.Error
import TileEvents.Node.Basic

namespace TileEvents

/-- A tile of a map with the event that lies on it. -/
structure EventTile where
  x : UInt8
  y : UInt8
  event : UInt16
  deriving DecidableEq

/-- Whether `a` lies before `b`: by column, then by row. -/
def EventTile.before (a b : EventTile) : Bool := a.x < b.x || (a.x == b.x && a.y < b.y)

/-- A map with its events. -/
structure GameMap where
  index : UInt16
  name : String
  is3d : Bool
  width : UInt8
  height : UInt8
  battleBackground : UInt8
  nodes : Array Node
  /-- The first node of every event's chain. -/
  chainHeads : Array NodeId
  /-- At most one entry for a tile, in ascending order of column and row. -/
  tiles : List EventTile
  texts : Array String

namespace GameMap

/-! ## §1. Looking up. -/

/-- The node at a position of the table. -/
def node (m : GameMap) (id : NodeId) : Except ChainError Node :=
  match m.nodes[id.index.toNat]? with
  | some n => .ok n
  | none => .error (.corruptData id (.outsideTable m.nodes.size))

/-- The first node of an event's chain. -/
def chainHead (m : GameMap) (event : UInt16) : Except ChainError NodeId :=
  match event.toNat with
  | 0 => .error (.unknownEvent event)
  | n + 1 =>
    match m.chainHeads[n]? with
    | some id => .ok id
    | none => .error (.unknownEvent event)

/-- How many events there are. -/
def eventCount (m : GameMap) : Nat := m.chainHeads.size

/-- The event on a tile. -/
def tileEvent? (m : GameMap) (x y : UInt8) : Option UInt16 :=
  (m.tiles.find? fun t => t.x == x && t.y == y).map EventTile.event

/-- A text of the map. -/
def text? (m : GameMap) (index : UInt16) : Option String := m.texts[index.toNat]?

/-- A text of the map, or a mark in the place of one that is missing. -/
def textOrMark (m : GameMap) (index : UInt16) : String :=
  (m.text? index).getD s!"<missing text {index}>"

/-! ## §2. Placing events. -/

/-- `tiles` with `t` placed: an event already on that tile gives way. -/
def placeTile (t : EventTile) : List EventTile → List EventTile
  | [] => [t]
  | u :: rest =>
    if t.before u then t :: u :: rest
    else if u.before t then u :: placeTile t rest
    else t :: rest

/-- The map with an event on a tile. -/
def placeEvent (m : GameMap) (x y : UInt8) (event : UInt16) : GameMap :=
  { m with tiles := placeTile ⟨x, y, event⟩ m.tiles }

end GameMap

end TileEvents
