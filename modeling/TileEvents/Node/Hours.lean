/-
  TileEvents.Node.Hours
  ─────────────────────
  **OPENING HOURS.**

  A place is open from its opening hour up to but not at its closing hour.
  Equal hours mean always open, and a closing hour before the opening hour
  lies past midnight.
-/
import TileEvents.Node.Basic

namespace TileEvents

/-- Whether the place is open at `hour`. -/
def Place.isOpenAt (p : Place) (hour : UInt8) : Bool :=
  if p.openingHour < p.closingHour then p.openingHour ≤ hour && hour < p.closingHour
  else if p.closingHour < p.openingHour then p.openingHour ≤ hour || hour < p.closingHour
  else true

end TileEvents
