/-
  TileEvents.Definition.Document
  ──────────────────────────────
  **MAP DEFINITIONS AND DICTIONARIES AS DOCUMENTS.**

  A map definition is read from a record.  Its index and size have to be
  given, all else is empty or zero when it is missing; a link that is missing
  leads nowhere and music that does not say otherwise plays at full volume.
  The payload of a node is a record named after its kind, or the bytes of a
  kind that is not known.  Written definitions leave nothing out.
-/
import TileEvents.Definition.Basic
import TileEvents.Dictionary
import TileEvents.Ron.Document

namespace TileEvents

open Ron Ron.Decode

/-! ## §1. Reading payloads. -/

/-- The bytes of a payload of unknown kind. -/
def rawPayload? : Decoder PayloadDefinition
  | d, .tuple (some "raw") [v] => (list word8 d v).map .raw
  | _, _ => none

/-- The fields of a kind of payload. -/
def payloadFields (kind : String) : List String :=
  match kind with
  | "teleport" => ["map", "x", "y", "direction", "transition"]
  | "door" => ["door", "key", "lockpick_reduction", "unlock_text", "unlock_failed"]
  | "chest" => ["chest", "key", "lockpick_reduction", "search_check", "text", "unlock_failed"]
  | "popupText" => ["text", "image", "trigger_by_moving", "trigger_by_cursor"]
  | "spinner" => ["direction"]
  | "trap" => ["target", "base_damage", "ailment"]
  | "removeBuffs" => ["buff"]
  | "riddlemouth" => ["riddle_text", "solution_text", "answers"]
  | "award" => ["target", "award_type", "operation", "random", "type_value", "value"]
  | "changeTile" => ["map", "x", "y", "tile"]
  | "startBattle" => ["monster_group"]
  | "enterPlace" =>
    ["place_type", "place", "opening_hour", "closing_hour", "closed_text", "used_map"]
  | "condition" => ["condition_type", "object_index", "value", "count", "alternate"]
  | "action" => ["action_type", "object_index", "value", "count"]
  | "dice100Roll" => ["chance", "alternate"]
  | "conversation" => ["interaction"]
  | "decision" => ["text", "no"]
  | "changeMusic" => ["song", "volume"]
  | "spawn" => ["map", "x", "y", "travel_type"]
  | _ => []

/-- The payload of a kind with these fields. -/
def payloadOf? (d : Dialect) (kind : String) (fs : Fields) : Option PayloadDefinition :=
  match kind with
  | "teleport" => do
    let map ← required d fs "map" word16
    let x ← required d fs "x" word8
    let y ← required d fs "y" word8
    let direction ← defaulted d fs "direction" none (optional word8)
    let transition ← defaulted d fs "transition" 0 word8
    some (.teleport map x y direction transition)
  | "door" => do
    let index ← required d fs "door" word16
    let key ← defaulted d fs "key" none (optional word16)
    let lockpickReduction ← defaulted d fs "lockpick_reduction" 0 word8
    let unlockText ← defaulted d fs "unlock_text" none (optional word16)
    let unlockFailed ← defaulted d fs "unlock_failed" NodeId.noLink word16
    some (.door index key lockpickReduction unlockText unlockFailed)
  | "chest" => do
    let index ← required d fs "chest" word16
    let key ← defaulted d fs "key" none (optional word16)
    let lockpickReduction ← defaulted d fs "lockpick_reduction" 0 word8
    let searchCheck ← defaulted d fs "search_check" false flag
    let text ← defaulted d fs "text" none (optional word16)
    let unlockFailed ← defaulted d fs "unlock_failed" NodeId.noLink word16
    some (.chest index key lockpickReduction searchCheck text unlockFailed)
  | "popupText" => do
    let text ← required d fs "text" word16
    let image ← defaulted d fs "image" none (optional word8)
    let byMoving ← defaulted d fs "trigger_by_moving" false flag
    let byCursor ← defaulted d fs "trigger_by_cursor" false flag
    some (.popupText text image byMoving byCursor)
  | "spinner" => do
    let direction ← defaulted d fs "direction" none (optional word8)
    some (.spinner direction)
  | "trap" => do
    let target ← required d fs "target" word8
    let baseDamage ← required d fs "base_damage" word8
    let ailment ← defaulted d fs "ailment" none (optional word8)
    some (.trap target baseDamage ailment)
  | "removeBuffs" => do
    let buff ← defaulted d fs "buff" none (optional word8)
    some (.removeBuffs buff)
  | "riddlemouth" => do
    let riddleText ← required d fs "riddle_text" word16
    let solutionText ← required d fs "solution_text" word16
    let answers ← defaulted d fs "answers" [] (list word16)
    some (.riddlemouth riddleText solutionText answers)
  | "award" => do
    let target ← required d fs "target" word8
    let type ← required d fs "award_type" word8
    let operation ← required d fs "operation" word8
    let random ← defaulted d fs "random" false flag
    let index ← defaulted d fs "type_value" 0 word16
    let value ← required d fs "value" word16
    some (.award target type operation random index value)
  | "changeTile" => do
    let map ← defaulted d fs "map" 0 word16
    let x ← defaulted d fs "x" 0 word8
    let y ← defaulted d fs "y" 0 word8
    let tile ← required d fs "tile" word16
    some (.changeTile map x y tile)
  | "startBattle" => do
    let monsterGroup ← required d fs "monster_group" word16
    some (.startBattle monsterGroup)
  | "enterPlace" => do
    let type ← required d fs "place_type" word8
    let place ← required d fs "place" word16
    let openingHour ← defaulted d fs "opening_hour" 0 word8
    let closingHour ← defaulted d fs "closing_hour" 0 word8
    let closedText ← defaulted d fs "closed_text" 0 word16
    let usedMap ← defaulted d fs "used_map" none (optional word16)
    some (.enterPlace type place openingHour closingHour closedText usedMap)
  | "condition" => do
    let type ← required d fs "condition_type" word8
    let object ← defaulted d fs "object_index" 0 word16
    let value ← defaulted d fs "value" 0 word16
    let count ← defaulted d fs "count" 0 word16
    let alternate ← defaulted d fs "alternate" NodeId.noLink word16
    some (.condition type object value count alternate)
  | "action" => do
    let type ← required d fs "action_type" word8
    let object ← defaulted d fs "object_index" 0 word16
    let value ← defaulted d fs "value" 0 word16
    let count ← defaulted d fs "count" 0 word16
    some (.action type object value count)
  | "dice100Roll" => do
    let chance ← required d fs "chance" word8
    let alternate ← defaulted d fs "alternate" NodeId.noLink word16
    some (.diceRoll chance alternate)
  | "conversation" => do
    let type ← required d fs "interaction" word8
    some (.conversation type)
  | "decision" => do
    let text ← required d fs "text" word16
    let no ← defaulted d fs "no" NodeId.noLink word16
    some (.decision text no)
  | "changeMusic" => do
    let song ← required d fs "song" word16
    let volume ← defaulted d fs "volume" 255 word8
    some (.changeMusic song volume)
  | "spawn" => do
    let map ← defaulted d fs "map" 0 word16
    let x ← required d fs "x" word8
    let y ← required d fs "y" word8
    let travelType ← required d fs "travel_type" word8
    some (.spawn map x y travelType)
  | _ => none

/-- How many levels of a document a payload may take: it stands six levels deep, and to be one of
several kinds takes a level of its own. -/
def payloadLevels : Nat := Value.maxLevels - 7

/-- **A payload.** -/
def PayloadDefinition.ofValue? : Decoder PayloadDefinition := fun d v =>
  if payloadLevels < v.levels then none
  else
    match rawPayload? d v with
    | some p => some p
    | none => do
      let (kind, fs) ← choice payloadFields d v
      payloadOf? d kind fs

/-! ## §2. Reading maps. -/

/-- A node. -/
def NodeDefinition.ofValue? : Decoder NodeDefinition := fun d v => do
  let fs ← fields "EventDef" ["event_type", "next", "payload"] d v
  let type ← required d fs "event_type" word8
  let next ← defaulted d fs "next" NodeId.noLink word16
  let payload ← required d fs "payload" PayloadDefinition.ofValue?
  some { type, next, payload }

/-- An event on a tile. -/
def TileDefinition.ofValue? : Decoder TileDefinition := fun d v => do
  let fs ← fields "TileEventDef" ["x", "y", "event_id"] d v
  let x ← required d fs "x" word8
  let y ← required d fs "y" word8
  let event ← required d fs "event_id" word16
  some { x, y, event }

/-- **A map definition.** -/
def MapDefinition.ofValue? : Decoder MapDefinition := fun d v => do
  let fs ← fields "MapEventsDef" [
      "map_index", "name", "is_3d", "width", "height", "battle_background", "events", "chain_heads",
      "tiles", "texts"] d v
  let index ← required d fs "map_index" word16
  let name ← defaulted d fs "name" "" text
  let is3d ← defaulted d fs "is_3d" false flag
  let width ← required d fs "width" word8
  let height ← required d fs "height" word8
  let battleBackground ← defaulted d fs "battle_background" 0 word8
  let nodes ← defaulted d fs "events" [] (list NodeDefinition.ofValue?)
  let chainHeads ← defaulted d fs "chain_heads" [] (list word16)
  let tiles ← defaulted d fs "tiles" [] (list TileDefinition.ofValue?)
  let texts ← defaulted d fs "texts" [] (list text)
  some { index, name, is3d, width, height, battleBackground, nodes, chainHeads, tiles, texts }

/-- **The map definition that a text is.** -/
def MapDefinition.read? (text : String) : Option MapDefinition := do
  let doc ← Document.read? text
  MapDefinition.ofValue? doc.dialect doc.value

/-! ## §3. Reading dictionaries. -/

/-- A dictionary. -/
def Dictionary.ofValue? : Decoder Dictionary := fun d v => do
  let fs ← fields "DictionaryDef" ["words"] d v
  let words ← defaulted d fs "words" [] (list text)
  some { words }

/-- **The dictionary that a text is.** -/
def Dictionary.read? (text : String) : Option Dictionary := do
  let doc ← Document.read? text
  Dictionary.ofValue? doc.dialect doc.value

/-! ## §4. Writing. -/

/-- **The written form of a payload.** -/
def PayloadDefinition.toValue : PayloadDefinition → Value
  | .teleport map x y direction transition =>
    .record (some "teleport") [("map", .word16 map), ("x", .word8 x), ("y", .word8 y),
      ("direction", .optional .word8 direction), ("transition", .word8 transition)]
  | .door index key lockpickReduction unlockText unlockFailed =>
    .record (some "door") [("door", .word16 index), ("key", .optional .word16 key),
      ("lockpick_reduction", .word8 lockpickReduction),
      ("unlock_text", .optional .word16 unlockText), ("unlock_failed", .word16 unlockFailed)]
  | .chest index key lockpickReduction searchCheck text unlockFailed =>
    .record (some "chest") [("chest", .word16 index), ("key", .optional .word16 key),
      ("lockpick_reduction", .word8 lockpickReduction), ("search_check", .flag searchCheck),
      ("text", .optional .word16 text), ("unlock_failed", .word16 unlockFailed)]
  | .popupText text image byMoving byCursor =>
    .record (some "popupText") [("text", .word16 text), ("image", .optional .word8 image),
      ("trigger_by_moving", .flag byMoving), ("trigger_by_cursor", .flag byCursor)]
  | .spinner direction => .record (some "spinner") [("direction", .optional .word8 direction)]
  | .trap target baseDamage ailment =>
    .record (some "trap") [("target", .word8 target), ("base_damage", .word8 baseDamage),
      ("ailment", .optional .word8 ailment)]
  | .removeBuffs buff => .record (some "removeBuffs") [("buff", .optional .word8 buff)]
  | .riddlemouth riddleText solutionText answers =>
    .record (some "riddlemouth") [("riddle_text", .word16 riddleText),
      ("solution_text", .word16 solutionText), ("answers", .list (answers.map .word16))]
  | .award target type operation random index value =>
    .record (some "award") [("target", .word8 target), ("award_type", .word8 type),
      ("operation", .word8 operation), ("random", .flag random), ("type_value", .word16 index),
      ("value", .word16 value)]
  | .changeTile map x y tile =>
    .record (some "changeTile") [("map", .word16 map), ("x", .word8 x), ("y", .word8 y),
      ("tile", .word16 tile)]
  | .startBattle monsterGroup =>
    .record (some "startBattle") [("monster_group", .word16 monsterGroup)]
  | .enterPlace type place openingHour closingHour closedText usedMap =>
    .record (some "enterPlace") [("place_type", .word8 type), ("place", .word16 place),
      ("opening_hour", .word8 openingHour), ("closing_hour", .word8 closingHour),
      ("closed_text", .word16 closedText), ("used_map", .optional .word16 usedMap)]
  | .condition type object value count alternate =>
    .record (some "condition") [("condition_type", .word8 type), ("object_index", .word16 object),
      ("value", .word16 value), ("count", .word16 count), ("alternate", .word16 alternate)]
  | .action type object value count =>
    .record (some "action") [("action_type", .word8 type), ("object_index", .word16 object),
      ("value", .word16 value), ("count", .word16 count)]
  | .diceRoll chance alternate =>
    .record (some "dice100Roll") [("chance", .word8 chance), ("alternate", .word16 alternate)]
  | .conversation type => .record (some "conversation") [("interaction", .word8 type)]
  | .decision text no => .record (some "decision") [("text", .word16 text), ("no", .word16 no)]
  | .changeMusic song volume =>
    .record (some "changeMusic") [("song", .word16 song), ("volume", .word8 volume)]
  | .spawn map x y travelType =>
    .record (some "spawn") [("map", .word16 map), ("x", .word8 x), ("y", .word8 y),
      ("travel_type", .word8 travelType)]
  | .raw bytes => .tuple (some "raw") [.list (bytes.map .word8)]

/-- The written form of a node. -/
def NodeDefinition.toValue (n : NodeDefinition) : Value :=
  .record none [("event_type", .word8 n.type), ("next", .word16 n.next),
    ("payload", n.payload.toValue)]

/-- The written form of an event on a tile. -/
def TileDefinition.toValue (t : TileDefinition) : Value :=
  .record none [("x", .word8 t.x), ("y", .word8 t.y), ("event_id", .word16 t.event)]

/-- **The written form of a map definition.** -/
def MapDefinition.toValue (m : MapDefinition) : Value :=
  .record none [
    ("map_index", .word16 m.index),
    ("name", .text m.name),
    ("is_3d", .flag m.is3d),
    ("width", .word8 m.width),
    ("height", .word8 m.height),
    ("battle_background", .word8 m.battleBackground),
    ("events", .list (m.nodes.map NodeDefinition.toValue)),
    ("chain_heads", .list (m.chainHeads.map .word16)),
    ("tiles", .list (m.tiles.map TileDefinition.toValue)),
    ("texts", .list (m.texts.map .text))]

end TileEvents
