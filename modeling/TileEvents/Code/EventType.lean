/-
  TileEvents.Code.EventType
  ─────────────────────────
  **THE DECLARED TYPE OF AN EVENT NODE.**

  Every node of a map declares its type by a code.  A code that stands for no
  known type is kept as it is, so that maps of a later format still load.
  Main statement: the code of the type that a code stands for is that code.
-/

namespace TileEvents

/-- The declared type of a node. -/
inductive EventType where
  | teleport
  | door
  | chest
  | popupText
  | spinner
  | trap
  | removeBuffs
  | riddlemouth
  | award
  | changeTile
  | startBattle
  | enterPlace
  | condition
  | action
  | diceRoll
  | conversation
  | decision
  | changeMusic
  | spawn
  | unknown (code : UInt8)
  deriving DecidableEq

namespace EventType

/-- The type a code stands for. -/
def ofCode (code : UInt8) : EventType :=
  match code.toNat with
  | 1 => teleport
  | 2 => door
  | 3 => chest
  | 4 => popupText
  | 5 => spinner
  | 6 => trap
  | 7 => removeBuffs
  | 8 => riddlemouth
  | 9 => award
  | 10 => changeTile
  | 11 => startBattle
  | 12 => enterPlace
  | 13 => condition
  | 14 => action
  | 15 => diceRoll
  | 16 => conversation
  | 19 => decision
  | 20 => changeMusic
  | 22 => spawn
  | _ => unknown code

/-- The code of a type. -/
def code : EventType → UInt8
  | teleport => 1
  | door => 2
  | chest => 3
  | popupText => 4
  | spinner => 5
  | trap => 6
  | removeBuffs => 7
  | riddlemouth => 8
  | award => 9
  | changeTile => 10
  | startBattle => 11
  | enterPlace => 12
  | condition => 13
  | action => 14
  | diceRoll => 15
  | conversation => 16
  | decision => 19
  | changeMusic => 20
  | spawn => 22
  | unknown code => code

/-- The inspection form. -/
def inspect : EventType → String
  | teleport => "Teleport"
  | door => "Door"
  | chest => "Chest"
  | popupText => "PopupText"
  | spinner => "Spinner"
  | trap => "Trap"
  | removeBuffs => "RemoveBuffs"
  | riddlemouth => "Riddlemouth"
  | award => "Award"
  | changeTile => "ChangeTile"
  | startBattle => "StartBattle"
  | enterPlace => "EnterPlace"
  | condition => "Condition"
  | action => "Action"
  | diceRoll => "Dice100Roll"
  | conversation => "Conversation"
  | decision => "Decision"
  | changeMusic => "ChangeMusic"
  | spawn => "Spawn"
  | unknown code => s!"Unknown({code})"

/-- The known types, that is all that no unknown code stands for. -/
def isKnown : EventType → Bool
  | unknown _ => false
  | _ => true

@[simp] theorem code_ofCode (code : UInt8) : (ofCode code).code = code := by
  unfold ofCode
  split <;> simp_all [EventType.code, ← UInt8.toNat_inj]

@[simp] theorem ofCode_code {t : EventType} (h : t.isKnown = true) : ofCode t.code = t := by
  cases t with
  | unknown c => simp [isKnown] at h
  | _ => rfl

end EventType

end TileEvents
