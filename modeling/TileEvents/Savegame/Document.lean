/-
  TileEvents.Savegame.Document
  ────────────────────────────
  **SAVEGAMES AS DOCUMENTS.**

  A savegame is written as one record with all its fields in a fixed order,
  sets in ascending order.  It is read field by field: a missing field of the
  savegame or of a member is empty or zero, while stats, stacks and replaced
  tiles need all their fields but the curse.
-/
import TileEvents.Ron.Document
import TileEvents.Savegame.Basic

namespace TileEvents

open Ron

/-! ## §1. Writing. -/

/-- The written form of a set: the list of its members. -/
def KeySet.toValue {α : Type} [Ranked α] (value : α → Value) (s : KeySet α) : Value :=
  .list (s.toList.map value)

/-- The written form of a stat. -/
def Stat.toValue (s : Stat) : Value :=
  .record none [("current", .word32 s.current), ("max", .word32 s.max)]

/-- The written form of a stack. -/
def ItemSlot.toValue (s : ItemSlot) : Value :=
  .record none [("item_index", .word16 s.item), ("amount", .word16 s.amount),
    ("cursed", .flag s.cursed)]

/-- The written form of a bit address. -/
def BitAddress.toValue (a : BitAddress) : Value :=
  .tuple none [.word16 a.map, .word16 a.bit]

/-- The written form of a replaced tile. -/
def TileChange.toValue (c : TileChange) : Value :=
  .record none [
    ("target", .record none [("map_index", .word16 c.target.map), ("x", .word8 c.target.x),
      ("y", .word8 c.target.y)]),
    ("tile_index", .word16 c.tile)]

/-- The written form of a member. -/
def Member.toValue (m : Member) : Value :=
  .record none [
    ("character_index", .word16 m.character),
    ("name", .text m.name),
    ("gold", .word32 m.gold),
    ("food", .word32 m.food),
    ("total_weight", .word32 m.totalWeight),
    ("hit_points", m.hitPoints.toValue),
    ("spell_points", m.spellPoints.toValue),
    ("attributes", .list (m.attributes.map Stat.toValue)),
    ("skills", .list (m.skills.map Stat.toValue)),
    ("ailments", .word16 m.ailments),
    ("languages", .word8 m.languages),
    ("spell_schools", .word8 m.spellSchools),
    ("experience", .word32 m.experience),
    ("training_points", .word32 m.trainingPoints),
    ("spell_learning_points", .word32 m.spellLearningPoints),
    ("inventory", .list (m.inventory.map ItemSlot.toValue)),
    ("equipment", .list (m.equipment.map ItemSlot.toValue))]

/-- **The written form of a savegame.** -/
def Savegame.toValue (s : Savegame) : Value :=
  .record none [
    ("global_variables", s.globalVariables.toValue .word16),
    ("event_bits", s.eventBits.toValue BitAddress.toValue),
    ("character_bits", s.characterBits.toValue BitAddress.toValue),
    ("unlocked_doors", s.unlockedDoors.toValue .word16),
    ("unlocked_chests", s.unlockedChests.toValue .word16),
    ("known_words", s.knownWords.toValue .word16),
    ("game_options", .word32 s.gameOptions),
    ("direction", .word s.direction.tag),
    ("active_buffs", s.activeBuffs.toValue .word8),
    ("hour", .word8 s.hour),
    ("party", .list (s.party.map Member.toValue)),
    ("active_member", .word64 s.activeMember),
    ("tile_changes", .list (s.tileChanges.map TileChange.toValue))]

/-- The text of a savegame. -/
def Savegame.write (s : Savegame) : String := s.toValue.write

/-! ## §2. Reading. -/

open Decode

/-- A set, from a list in any order and with any repetitions. -/
def KeySet.ofValue? {α : Type} [Ranked α] (decode : Decoder α) : Decoder (KeySet α) := fun d v =>
  (list decode d v).map KeySet.ofList

/-- A stat. -/
def Stat.ofValue? : Decoder Stat := fun d v => do
  let fs ← fields "StatValue" ["current", "max"] d v
  let current ← required d fs "current" word32
  let max ← required d fs "max" word32
  some { current, max }

/-- A stack. -/
def ItemSlot.ofValue? : Decoder ItemSlot := fun d v => do
  let fs ← fields "ItemSlot" ["item_index", "amount", "cursed"] d v
  let item ← required d fs "item_index" word16
  let amount ← required d fs "amount" word16
  let cursed ← defaulted d fs "cursed" false flag
  some { item, amount, cursed }

/-- A bit address. -/
def BitAddress.ofValue? : Decoder BitAddress := fun d v =>
  (pair word16 word16 d v).map fun (map, bit) => ⟨map, bit⟩

/-- A facing. -/
def Direction.ofValue? : Decoder Direction
  | _, .word tag => Direction.ofTag? tag
  | _, _ => none

/-- A tile of a map. -/
def TileTarget.ofValue? : Decoder TileTarget := fun d v => do
  let fs ← fields "TileTarget" ["map_index", "x", "y"] d v
  let map ← required d fs "map_index" word16
  let x ← required d fs "x" word8
  let y ← required d fs "y" word8
  some { map, x, y }

/-- A replaced tile. -/
def TileChange.ofValue? : Decoder TileChange := fun d v => do
  let fs ← fields "TileChange" ["target", "tile_index"] d v
  let target ← required d fs "target" TileTarget.ofValue?
  let tile ← required d fs "tile_index" word16
  some { target, tile }

/-- A member of the party. -/
def Member.ofValue? : Decoder Member := fun d v => do
  let fs ← fields "PartyMember" [
      "character_index", "name", "gold", "food", "total_weight", "hit_points", "spell_points",
      "attributes", "skills", "ailments", "languages", "spell_schools", "experience",
      "training_points", "spell_learning_points", "inventory", "equipment"] d v
  let character ← defaulted d fs "character_index" 0 word16
  let name ← defaulted d fs "name" "" text
  let gold ← defaulted d fs "gold" 0 word32
  let food ← defaulted d fs "food" 0 word32
  let totalWeight ← defaulted d fs "total_weight" 0 word32
  let hitPoints ← defaulted d fs "hit_points" .zero Stat.ofValue?
  let spellPoints ← defaulted d fs "spell_points" .zero Stat.ofValue?
  let attributes ← defaulted d fs "attributes" [] (list Stat.ofValue?)
  let skills ← defaulted d fs "skills" [] (list Stat.ofValue?)
  let ailments ← defaulted d fs "ailments" 0 word16
  let languages ← defaulted d fs "languages" 0 word8
  let spellSchools ← defaulted d fs "spell_schools" 0 word8
  let experience ← defaulted d fs "experience" 0 word32
  let trainingPoints ← defaulted d fs "training_points" 0 word32
  let spellLearningPoints ← defaulted d fs "spell_learning_points" 0 word32
  let inventory ← defaulted d fs "inventory" [] (list ItemSlot.ofValue?)
  let equipment ← defaulted d fs "equipment" [] (list ItemSlot.ofValue?)
  some { character, name, gold, food, totalWeight, hitPoints, spellPoints, attributes, skills,
         ailments, languages, spellSchools, experience, trainingPoints, spellLearningPoints,
         inventory, equipment }

/-- **A savegame.** -/
def Savegame.ofValue? : Decoder Savegame := fun d v => do
  let fs ← fields "Savegame" [
      "global_variables", "event_bits", "character_bits", "unlocked_doors", "unlocked_chests",
      "known_words", "game_options", "direction", "active_buffs", "hour", "party", "active_member",
      "tile_changes"] d v
  let globalVariables ← defaulted d fs "global_variables" .empty (KeySet.ofValue? word16)
  let eventBits ← defaulted d fs "event_bits" .empty (KeySet.ofValue? BitAddress.ofValue?)
  let characterBits ← defaulted d fs "character_bits" .empty (KeySet.ofValue? BitAddress.ofValue?)
  let unlockedDoors ← defaulted d fs "unlocked_doors" .empty (KeySet.ofValue? word16)
  let unlockedChests ← defaulted d fs "unlocked_chests" .empty (KeySet.ofValue? word16)
  let knownWords ← defaulted d fs "known_words" .empty (KeySet.ofValue? word16)
  let gameOptions ← defaulted d fs "game_options" 0 word32
  let direction ← defaulted d fs "direction" .up Direction.ofValue?
  let activeBuffs ← defaulted d fs "active_buffs" .empty (KeySet.ofValue? word8)
  let hour ← defaulted d fs "hour" 0 word8
  let party ← defaulted d fs "party" [] (list Member.ofValue?)
  let activeMember ← defaulted d fs "active_member" 0 word64
  let tileChanges ← defaulted d fs "tile_changes" [] (list TileChange.ofValue?)
  some { globalVariables, eventBits, characterBits, unlockedDoors, unlockedChests, knownWords,
         gameOptions, direction, activeBuffs, hour, party, activeMember, tileChanges }

/-- **The savegame that a text is.** -/
def Savegame.read? (text : String) : Option Savegame := do
  let doc ← Document.read? text
  Savegame.ofValue? doc.dialect doc.value

end TileEvents
