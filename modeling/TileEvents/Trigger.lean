/-
  TileEvents.Trigger
  ──────────────────
  **WHAT THE PLAYER DID, AND WHAT A NODE SEES OF IT.**

  Every interaction of the player counts as exactly one trigger, and nodes
  decide by the trigger whether they run, let the walk pass or reject it.  A
  trigger also has a stored form: a number, with the items numbered from
  `firstItem` on.
-/

namespace TileEvents

/-! ## §1. Interactions. -/

/-- What the player did to a tile. -/
inductive Interaction where
  | step
  | look
  | touch
  | talk
  | useItem (item : UInt16)
  /-- Not the player but a script. -/
  | scripted
  /-- A step taken while floating above the ground. -/
  | levitate
  deriving DecidableEq

/-- The inspection form. -/
def Interaction.inspect : Interaction → String
  | step => "Step"
  | look => "Look"
  | touch => "Touch"
  | talk => "Talk"
  | useItem item => s!"UseItem({item})"
  | scripted => "Scripted"
  | levitate => "Levitate"

/-! ## §2. Triggers. -/

/-- What a node sees of an interaction. -/
inductive Trigger where
  | move
  | eye
  | hand
  | mouth
  /-- A script, or any node after a condition that held. -/
  | always
  | levitating
  | item (index : UInt16)
  deriving DecidableEq

/-- The trigger of an interaction. -/
def Interaction.trigger : Interaction → Trigger
  | step => .move
  | look => .eye
  | touch => .hand
  | talk => .mouth
  | useItem item => .item item
  | scripted => .always
  | levitate => .levitating

namespace Trigger

/-- The name shown in logs. -/
def name : Trigger → String
  | move => "move"
  | eye => "eye"
  | hand => "hand"
  | mouth => "mouth"
  | always => "always"
  | levitating => "levitating"
  | item index => s!"item {index}"

/-! ## §3. The stored form. -/

/-- The number of the first item. -/
def firstItem : UInt16 := 6

/-- The number of a trigger; item numbers that do not fit share the last one. -/
def toRaw : Trigger → UInt16
  | move => 0
  | eye => 1
  | hand => 2
  | mouth => 3
  | always => 4
  | levitating => 5
  | item index => UInt16.ofNat (min (firstItem.toNat + index.toNat) 65535)

/-- The trigger with a number. -/
def ofRaw (raw : UInt16) : Trigger :=
  match raw.toNat with
  | 0 => move
  | 1 => eye
  | 2 => hand
  | 3 => mouth
  | 4 => always
  | 5 => levitating
  | n => item (UInt16.ofNat (n - firstItem.toNat))

end Trigger

end TileEvents
