/-
  TileEvents.Node.Id
  ──────────────────
  **NODES AND LINKS.**

  The nodes of a map form a table and refer to each other by position.  Map
  data writes a link as a number, with one number reserved for "no link".
-/

namespace TileEvents

/-- The position of a node in its map's table. -/
structure NodeId where
  index : UInt16
  deriving DecidableEq

namespace NodeId

/-- How a node is named in texts. -/
def text (id : NodeId) : String := s!"#{id.index}"

/-- The number that stands for no link. -/
def noLink : UInt16 := 0xffff

/-- The node that a link leads to, if any. -/
def ofLink? (raw : UInt16) : Option NodeId := if raw = noLink then none else some ⟨raw⟩

/-- The number written for a link. -/
def toLink : Option NodeId → UInt16
  | none => noLink
  | some id => id.index

@[simp] theorem toLink_ofLink? (raw : UInt16) : toLink (ofLink? raw) = raw := by
  unfold ofLink?
  split
  next h => simp [toLink, h]
  next => rfl

end NodeId

end TileEvents
