/-
  TileEvents.Code.Ailment
  ───────────────────────
  **AILMENTS AND THEIR BITS.**

  A party member carries a set of ailments as a 16-bit mask.  The ailment with
  code k owns bit k of it.  Main statements: the code is recovered, and no two
  ailments share a bit.
-/

namespace TileEvents

/-- What can be wrong with a party member. -/
inductive Ailment where
  | irritated
  | crazy
  | blind
  | drugged
  | lamed
  | poisoned
  | petrified
  | diseased
  | aging
  | exhausted
  | dead
  deriving DecidableEq

namespace Ailment

/-- Every ailment, in the order of the codes. -/
def all : List Ailment :=
  [irritated, crazy, blind, drugged, lamed, poisoned, petrified, diseased, aging, exhausted, dead]

/-- The ailment with this code; codes from 11 on name none. -/
def ofCode? (code : UInt8) : Option Ailment := all[code.toNat]?

/-- The ailment a 16-bit object index stands for. -/
def ofIndex? (index : UInt16) : Option Ailment := all[index.toNat]?

/-- The position of the ailment's bit. -/
def index : Ailment → Nat
  | irritated => 0
  | crazy => 1
  | blind => 2
  | drugged => 3
  | lamed => 4
  | poisoned => 5
  | petrified => 6
  | diseased => 7
  | aging => 8
  | exhausted => 9
  | dead => 10

/-- The mask that holds the ailment's bit alone. -/
def bit (a : Ailment) : UInt16 := UInt16.ofNat (1 <<< a.index)

/-- The inspection form. -/
def inspect : Ailment → String
  | irritated => "Irritated"
  | crazy => "Crazy"
  | blind => "Blind"
  | drugged => "Drugged"
  | lamed => "Lamed"
  | poisoned => "Poisoned"
  | petrified => "Petrified"
  | diseased => "Diseased"
  | aging => "Aging"
  | exhausted => "Exhausted"
  | dead => "Dead"

@[simp] theorem ofCode?_index (a : Ailment) : ofCode? (UInt8.ofNat a.index) = some a := by
  cases a <;> rfl

/-- Two ailments share a bit only if they are the same. -/
theorem bit_and_bit_ne_zero_iff (a b : Ailment) : a.bit &&& b.bit ≠ 0 ↔ a = b := by
  cases a <;> cases b <;> decide

end Ailment

end TileEvents
