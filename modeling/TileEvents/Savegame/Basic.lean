/-
  TileEvents.Savegame.Basic
  ─────────────────────────
  **WHAT THE GAME REMEMBERS.**

  A savegame holds the flags, locks, learned words, options, facing, hour,
  party and replaced tiles of a game.  Doors and chests start locked, so the
  savegame remembers the ones that were opened.  An event bit that is set
  switches its tile event off.

  Each flag has a reader and a writer; §5 says of every writer what its reader
  finds afterwards.
-/
import TileEvents.Code.Direction
import TileEvents.Party.Member
import TileEvents.Savegame.BitAddress

namespace TileEvents

/-! ## §1. Replaced tiles. -/

/-- A tile of a map; columns and rows count from 1. -/
structure TileTarget where
  map : UInt16
  x : UInt8
  y : UInt8
  deriving DecidableEq

/-- A tile and what it became. -/
structure TileChange where
  target : TileTarget
  tile : UInt16
  deriving DecidableEq

/-- `changes` with the tile at `target` now being `tile`: the entry of that target is replaced in
place, or a new one follows the others. -/
def TileChange.record (target : TileTarget) (tile : UInt16) : List TileChange → List TileChange
  | [] => [⟨target, tile⟩]
  | c :: rest =>
    if c.target = target then ⟨target, tile⟩ :: rest else c :: record target tile rest

/-! ## §2. The savegame. -/

/-- All that outlives a walk. -/
structure Savegame where
  globalVariables : KeySet UInt16
  /-- The tile events that are switched off. -/
  eventBits : KeySet BitAddress
  characterBits : KeySet BitAddress
  unlockedDoors : KeySet UInt16
  unlockedChests : KeySet UInt16
  knownWords : KeySet UInt16
  /-- Thirty-two options, one bit each. -/
  gameOptions : UInt32
  direction : Direction
  activeBuffs : KeySet UInt8
  hour : UInt8
  party : List Member
  /-- The position of the member who acts; it may lie outside the party. -/
  activeMember : UInt64
  tileChanges : List TileChange
  deriving DecidableEq

namespace Savegame

/-- The savegame of a game not yet begun. -/
def blank : Savegame where
  globalVariables := .empty
  eventBits := .empty
  characterBits := .empty
  unlockedDoors := .empty
  unlockedChests := .empty
  knownWords := .empty
  gameOptions := 0
  direction := .up
  activeBuffs := .empty
  hour := 0
  party := []
  activeMember := 0
  tileChanges := []

/-! ## §3. Readers. -/

def globalVariable (s : Savegame) (index : UInt16) : Bool := s.globalVariables.contains index

def eventBit (s : Savegame) (address : BitAddress) : Bool := s.eventBits.contains address

def characterBit (s : Savegame) (address : BitAddress) : Bool := s.characterBits.contains address

def isDoorLocked (s : Savegame) (door : UInt16) : Bool := !s.unlockedDoors.contains door

def isChestLocked (s : Savegame) (chest : UInt16) : Bool := !s.unlockedChests.contains chest

def knowsWord (s : Savegame) (word : UInt16) : Bool := s.knownWords.contains word

/-- Options from 32 on do not exist and read as switched off. -/
def gameOption (s : Savegame) (option : UInt16) : Bool :=
  decide (option < 32) && s.gameOptions &&& (1 <<< option.toUInt32) != 0

/-- The member who acts, if the party has one at that position. -/
def actor? (s : Savegame) : Option Member := s.party[s.activeMember.toNat]?

/-! ## §4. Writers. -/

def setGlobalVariable (s : Savegame) (index : UInt16) (on : Bool) : Savegame :=
  { s with globalVariables := s.globalVariables.assign index on }

def setEventBit (s : Savegame) (address : BitAddress) (on : Bool) : Savegame :=
  { s with eventBits := s.eventBits.assign address on }

def setCharacterBit (s : Savegame) (address : BitAddress) (on : Bool) : Savegame :=
  { s with characterBits := s.characterBits.assign address on }

def setDoorLocked (s : Savegame) (door : UInt16) (locked : Bool) : Savegame :=
  { s with unlockedDoors := s.unlockedDoors.assign door (!locked) }

def setChestLocked (s : Savegame) (chest : UInt16) (locked : Bool) : Savegame :=
  { s with unlockedChests := s.unlockedChests.assign chest (!locked) }

def addWord (s : Savegame) (word : UInt16) : Savegame :=
  { s with knownWords := s.knownWords.insert word }

/-- Options from 32 on cannot be switched. -/
def setGameOption (s : Savegame) (option : UInt16) (on : Bool) : Savegame :=
  if option < 32 then
    let mask : UInt32 := 1 <<< option.toUInt32
    { s with gameOptions := if on then s.gameOptions ||| mask else s.gameOptions &&& ~~~mask }
  else s

/-- How many buffs `removeBuffs` ends. -/
def buffsRemoved (s : Savegame) : Option UInt8 → Nat
  | some buff => if s.activeBuffs.contains buff then 1 else 0
  | none => s.activeBuffs.size

/-- One buff ended, or all of them. -/
def removeBuffs (s : Savegame) : Option UInt8 → Savegame
  | some buff => { s with activeBuffs := s.activeBuffs.erase buff }
  | none => { s with activeBuffs := .empty }

def setParty (s : Savegame) (party : List Member) : Savegame := { s with party := party }

/-- The member at `position` revised by `f`; nothing happens where there is none. -/
def reviseMember (s : Savegame) (position : Nat) (f : Member → Member) : Savegame :=
  s.setParty (s.party.modify position f)

def recordTileChange (s : Savegame) (target : TileTarget) (tile : UInt16) : Savegame :=
  { s with tileChanges := TileChange.record target tile s.tileChanges }

end Savegame

/-! ## §5. What a reader finds after its writer. -/

namespace KeySet

variable {α : Type} [Ranked α]

/-- After an assignment the assigned key reads as assigned, and no other key has changed. -/
@[simp] theorem contains_assign [DecidableEq α] (s : KeySet α) (a b : α) (on : Bool) :
    (s.assign a on).contains b = if b = a then on else s.contains b := by
  rw [Bool.eq_iff_iff, contains_iff]
  cases on <;> by_cases h : b = a <;> simp [assign, h, contains_iff]

end KeySet

namespace Savegame

@[simp] theorem globalVariable_setGlobalVariable (s : Savegame) (i j : UInt16) (on : Bool) :
    (s.setGlobalVariable i on).globalVariable j = if j = i then on else s.globalVariable j := by
  simp [globalVariable, setGlobalVariable]

@[simp] theorem eventBit_setEventBit (s : Savegame) (a b : BitAddress) (on : Bool) :
    (s.setEventBit a on).eventBit b = if b = a then on else s.eventBit b := by
  simp [eventBit, setEventBit]

@[simp] theorem characterBit_setCharacterBit (s : Savegame) (a b : BitAddress) (on : Bool) :
    (s.setCharacterBit a on).characterBit b = if b = a then on else s.characterBit b := by
  simp [characterBit, setCharacterBit]

@[simp] theorem isDoorLocked_setDoorLocked (s : Savegame) (i j : UInt16) (locked : Bool) :
    (s.setDoorLocked i locked).isDoorLocked j = if j = i then locked else s.isDoorLocked j := by
  by_cases h : j = i <;> simp [isDoorLocked, setDoorLocked, h]

@[simp] theorem isChestLocked_setChestLocked (s : Savegame) (i j : UInt16) (locked : Bool) :
    (s.setChestLocked i locked).isChestLocked j = if j = i then locked else s.isChestLocked j := by
  by_cases h : j = i <;> simp [isChestLocked, setChestLocked, h]

end Savegame

end TileEvents
