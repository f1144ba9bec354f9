/-
  TileEvents.Code.Kinds
  ─────────────────────
  **THE CODES INSIDE NODE PAYLOADS.**

  What a condition tests, what an action writes, whom an award reaches, what
  it changes and by which operation, and how a conversation begins.  Each of
  these is a small code in the map data; a code outside its table decodes to
  nothing and makes the node corrupt.
-/

namespace TileEvents

/-! ## §1. Conditions. -/

/-- What a condition tests. -/
inductive ConditionKind where
  | globalVariable
  | eventBit
  | doorLocked
  | chestLocked
  | characterBit
  | partyMember
  | itemOwned
  | useItem
  | knowWord
  | lastEventResult
  | gameOptionSet
  | direction
  | hasAilment
  | hand
  | sayWord
  | enterNumber
  | levitating
  | hasGold
  | hasFood
  | eye
  deriving DecidableEq

namespace ConditionKind

/-- The kinds by code; code 11 is not in use. -/
def table : List (Option ConditionKind) :=
  [some globalVariable, some eventBit, some doorLocked, some chestLocked, some characterBit,
   some partyMember, some itemOwned, some useItem, some knowWord, some lastEventResult,
   some gameOptionSet, none, some direction, some hasAilment, some hand, some sayWord,
   some enterNumber, some levitating, some hasGold, some hasFood, some eye]

/-- The kind with this code. -/
def ofCode? (code : UInt8) : Option ConditionKind := (table[code.toNat]?).join

/-- The inspection form. -/
def inspect : ConditionKind → String
  | globalVariable => "GlobalVariable"
  | eventBit => "EventBit"
  | doorLocked => "DoorLocked"
  | chestLocked => "ChestLocked"
  | characterBit => "CharacterBit"
  | partyMember => "PartyMember"
  | itemOwned => "ItemOwned"
  | useItem => "UseItem"
  | knowWord => "KnowWord"
  | lastEventResult => "LastEventResult"
  | gameOptionSet => "GameOptionSet"
  | direction => "Direction"
  | hasAilment => "HasAilment"
  | hand => "Hand"
  | sayWord => "SayWord"
  | enterNumber => "EnterNumber"
  | levitating => "Levitating"
  | hasGold => "HasGold"
  | hasFood => "HasFood"
  | eye => "Eye"

end ConditionKind

/-! ## §2. Actions. -/

/-- What an action writes. -/
inductive ActionKind where
  | setGlobalVariable
  | setEventBit
  | lockDoor
  | lockChest
  | setCharacterBit
  | addItem
  | addKeyword
  | setGameOption
  | setDirection
  | addAilment
  | addGold
  | addFood
  deriving DecidableEq

namespace ActionKind

/-- Every kind, in the order of the codes. -/
def all : List ActionKind :=
  [setGlobalVariable, setEventBit, lockDoor, lockChest, setCharacterBit, addItem, addKeyword,
   setGameOption, setDirection, addAilment, addGold, addFood]

/-- The kind with this code. -/
def ofCode? (code : UInt8) : Option ActionKind := all[code.toNat]?

/-- The inspection form. -/
def inspect : ActionKind → String
  | setGlobalVariable => "SetGlobalVariable"
  | setEventBit => "SetEventBit"
  | lockDoor => "LockDoor"
  | lockChest => "LockChest"
  | setCharacterBit => "SetCharacterBit"
  | addItem => "AddItem"
  | addKeyword => "AddKeyword"
  | setGameOption => "SetGameOption"
  | setDirection => "SetDirection"
  | addAilment => "AddAilment"
  | addGold => "AddGold"
  | addFood => "AddFood"

end ActionKind

/-! ## §3. Awards. -/

/-- Whom an award or a trap reaches. -/
inductive Audience where
  | activePlayer
  | everyone
  deriving DecidableEq

namespace Audience

/-- Both audiences, in the order of the codes. -/
def all : List Audience := [activePlayer, everyone]

/-- The audience with this code. -/
def ofCode? (code : UInt8) : Option Audience := all[code.toNat]?

/-- The inspection form. -/
def inspect : Audience → String
  | activePlayer => "ActivePlayer"
  | everyone => "All"

end Audience

/-- What an award changes; some kinds carry the index of a stat or a bit. -/
inductive AwardKind where
  | attributeAt (index : UInt16)
  | skillAt (index : UInt16)
  | hitPoints
  | spellPoints
  | spellLearningPoints
  | ailmentAt (bit : UInt16)
  | spellTypeAt (bit : UInt16)
  | languageAt (bit : UInt16)
  | experience
  | trainingPoints
  deriving DecidableEq

namespace AwardKind

/-- The kind with this code, given the index for the kinds that carry one. -/
def ofCode? (code : UInt8) (index : UInt16) : Option AwardKind :=
  match code.toNat with
  | 0 => some (attributeAt index)
  | 1 => some (skillAt index)
  | 2 => some hitPoints
  | 3 => some spellPoints
  | 4 => some spellLearningPoints
  | 5 => some (ailmentAt index)
  | 6 => some (spellTypeAt index)
  | 7 => some (languageAt index)
  | 8 => some experience
  | 9 => some trainingPoints
  | _ => none

/-- The inspection form. -/
def inspect : AwardKind → String
  | attributeAt index => s!"Attribute({index})"
  | skillAt index => s!"Skill({index})"
  | hitPoints => "HitPoints"
  | spellPoints => "SpellPoints"
  | spellLearningPoints => "SpellLearningPoints"
  | ailmentAt bit => s!"Ailments({bit})"
  | spellTypeAt bit => s!"UsableSpellTypes({bit})"
  | languageAt bit => s!"Languages({bit})"
  | experience => "Experience"
  | trainingPoints => "TrainingPoints"

end AwardKind

/-- How an award changes its stat, counter or bit. -/
inductive AwardOperation where
  | increase
  | decrease
  | increasePercentage
  | decreasePercentage
  | fill
  | remove
  | add
  deriving DecidableEq

namespace AwardOperation

/-- Every operation, in the order of the codes. -/
def all : List AwardOperation :=
  [increase, decrease, increasePercentage, decreasePercentage, fill, remove, add]

/-- The operation with this code. -/
def ofCode? (code : UInt8) : Option AwardOperation := all[code.toNat]?

/-- The inspection form. -/
def inspect : AwardOperation → String
  | increase => "Increase"
  | decrease => "Decrease"
  | increasePercentage => "IncreasePercentage"
  | decreasePercentage => "DecreasePercentage"
  | fill => "Fill"
  | remove => "Remove"
  | add => "Add"

end AwardOperation

/-! ## §4. Conversations. -/

/-- How a conversation begins; maps only ever start one by talking. -/
inductive ConversationKind where
  | keyword
  | showItem
  | giveItem
  | giveGold
  | giveFood
  | joinParty
  | leaveParty
  | leave
  | talk
  deriving DecidableEq

namespace ConversationKind

/-- Every kind, in the order of the codes. -/
def all : List ConversationKind :=
  [keyword, showItem, giveItem, giveGold, giveFood, joinParty, leaveParty, leave, talk]

/-- The kind with this code. -/
def ofCode? (code : UInt8) : Option ConversationKind := all[code.toNat]?

/-- The inspection form. -/
def inspect : ConversationKind → String
  | keyword => "Keyword"
  | showItem => "ShowItem"
  | giveItem => "GiveItem"
  | giveGold => "GiveGold"
  | giveFood => "GiveFood"
  | joinParty => "JoinParty"
  | leaveParty => "LeaveParty"
  | leave => "Leave"
  | talk => "Talk"

end ConversationKind

end TileEvents
