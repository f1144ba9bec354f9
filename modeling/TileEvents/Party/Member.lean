/-
  TileEvents.Party.Member
  ───────────────────────
  **PARTY MEMBERS.**

  What the game keeps of a member of the party: identity, purse, carried
  weight, stats, ailments, learned bits, counters, and the stacks of items
  carried and worn.  Main statements: setting an ailment decides that ailment
  and no other, and damage never takes more than the member has.
-/
import TileEvents.Code.Ailment
import TileEvents.Word.Total

namespace TileEvents

/-! ## §1. Stats and item stacks. -/

/-- A stat with its current and its largest value. -/
structure Stat where
  current : UInt32
  max : UInt32
  deriving DecidableEq

/-- The stat of a newcomer. -/
def Stat.zero : Stat := ⟨0, 0⟩

/-- A stack of equal items. -/
structure ItemSlot where
  item : UInt16
  amount : UInt16
  cursed : Bool
  deriving DecidableEq

/-! ## §2. Members. -/

/-- A member of the party. -/
structure Member where
  /-- The character the member is, which conditions on the party ask for. -/
  character : UInt16
  name : String
  gold : UInt32
  food : UInt32
  /-- The weight carried, in the units of the settings. -/
  totalWeight : UInt32
  hitPoints : Stat
  spellPoints : Stat
  attributes : List Stat
  skills : List Stat
  /-- The ailments, one bit each. -/
  ailments : UInt16
  languages : UInt8
  spellSchools : UInt8
  experience : UInt32
  trainingPoints : UInt32
  spellLearningPoints : UInt32
  inventory : List ItemSlot
  equipment : List ItemSlot
  deriving DecidableEq

namespace Member

/-- A newcomer without name, means or items. -/
def blank : Member where
  character := 0
  name := ""
  gold := 0
  food := 0
  totalWeight := 0
  hitPoints := .zero
  spellPoints := .zero
  attributes := []
  skills := []
  ailments := 0
  languages := 0
  spellSchools := 0
  experience := 0
  trainingPoints := 0
  spellLearningPoints := 0
  inventory := []
  equipment := []

/-- Whether the member suffers from `a`. -/
def hasAilment (m : Member) (a : Ailment) : Bool := m.ailments &&& a.bit != 0

/-- The member with `a` switched on or off. -/
def setAilment (m : Member) (a : Ailment) (on : Bool) : Member :=
  { m with ailments := if on then m.ailments ||| a.bit else m.ailments &&& ~~~a.bit }

/-- A member is alive unless dead by ailment; hit points do not matter. -/
def isAlive (m : Member) : Bool := !m.hasAilment .dead

/-- The sizes of the stacks of `item` carried and worn. -/
def stackSizes (m : Member) (item : UInt16) : List UInt32 :=
  ((m.inventory ++ m.equipment).filter (·.item == item)).map (·.amount.toUInt32)

/-- The copies of `item` carried and worn. -/
def itemCount (m : Member) (item : UInt16) : UInt32 := Word.sum32 (m.stackSizes item)

/-- The copies of `item` carried and worn, unless there are too many for a word. -/
def checkedItemCount (m : Member) (item : UInt16) : Option UInt32 :=
  Word.checkedSum32 (m.stackSizes item)

/-- The hit points that `damage` really costs the member. -/
def damageTaken (m : Member) (damage : UInt32) : UInt32 :=
  if damage ≤ m.hitPoints.current then damage else m.hitPoints.current

/-- The member after `damage`; one without hit points is dead from then on. -/
def takeDamage (m : Member) (damage : UInt32) : Member :=
  let left := m.hitPoints.current - m.damageTaken damage
  let hurt := { m with hitPoints := { m.hitPoints with current := left } }
  if left == 0 then hurt.setAilment .dead true else hurt

/-! ## §3. Laws. -/

theorem damageTaken_le (m : Member) (damage : UInt32) :
    m.damageTaken damage ≤ m.hitPoints.current := by
  unfold damageTaken
  split
  · assumption
  · exact UInt32.le_refl _

end Member

end TileEvents
