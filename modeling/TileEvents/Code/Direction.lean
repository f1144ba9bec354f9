/-
  TileEvents.Code.Direction
  ─────────────────────────
  **FACING AND TRANSITIONS.**

  The four ways the party can face and the four ways a teleport is shown.
  Map data and savegames refer to both by small codes.  Main statement: a
  facing is recovered from its code.
-/

namespace TileEvents

/-- The way the party faces. -/
inductive Direction where
  | up
  | right
  | down
  | left
  deriving DecidableEq, Inhabited

namespace Direction

/-- Every facing, in the order of the codes. -/
def all : List Direction := [up, right, down, left]

/-- The facing with this code; codes from 4 on name none. -/
def ofCode? (code : UInt8) : Option Direction := all[code.toNat]?

/-- The code of a facing. -/
def code : Direction → UInt8
  | up => 0
  | right => 1
  | down => 2
  | left => 3

/-- The inspection form. -/
def inspect : Direction → String
  | up => "Up"
  | right => "Right"
  | down => "Down"
  | left => "Left"

/-- The word a savegame uses. -/
def tag : Direction → String
  | up => "up"
  | right => "right"
  | down => "down"
  | left => "left"

/-- The facing a savegame's word stands for. -/
def ofTag? (tag : String) : Option Direction := all.find? (·.tag == tag)

@[simp] theorem ofCode?_code (d : Direction) : ofCode? d.code = some d := by
  cases d <;> rfl

@[simp] theorem ofTag?_tag (d : Direction) : ofTag? d.tag = some d := by
  cases d <;> rfl

end Direction

/-- How a teleport is shown. -/
inductive Transition where
  | teleporter
  | walkThrough
  | climbing
  | falling
  deriving DecidableEq, Inhabited

namespace Transition

/-- Every transition, in the order of the codes. -/
def all : List Transition := [teleporter, walkThrough, climbing, falling]

/-- The transition with this code; codes from 4 on name none. -/
def ofCode? (code : UInt8) : Option Transition := all[code.toNat]?

/-- The inspection form. -/
def inspect : Transition → String
  | teleporter => "Teleporter"
  | walkThrough => "WalkThrough"
  | climbing => "Climbing"
  | falling => "Falling"

end Transition

end TileEvents
