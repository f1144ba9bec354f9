/-
  TileEvents.Definition.Build
  ───────────────────────────
  **FROM A DEFINITION TO A MAP.**

  Building decodes every code and link of a definition.  A code that stands
  for nothing makes its node corrupt, and the first corrupt node is the error
  of the map; a declared type that stands for nothing is no error.  A dice
  chance above 100 counts as 100.
-/
import TileEvents.Definition.Basic
import TileEvents.GameMap

namespace TileEvents

/-! ## §1. Codes. -/

/-- The value of a code, or the fault of the node that carries it. -/
def decode {α : Type} (what : String) (code : UInt8) : Option α → Except Fault α
  | some a => .ok a
  | none => .error (.badCode what code)

/-- A facing by its code. -/
def decodeDirection (code : UInt8) : Except Fault Direction :=
  decode "direction" code (Direction.ofCode? code)

/-- A code that may be missing. -/
def decodeOptional {α : Type} (f : UInt8 → Except Fault α) : Option UInt8 → Except Fault (Option α)
  | none => .ok none
  | some code => (f code).map some

/-! ## §2. Payloads. -/

/-- **The payload that is written so.** -/
def PayloadDefinition.build : PayloadDefinition → Except Fault Payload
  | .teleport map x y direction transition => do
    let direction ← decodeOptional decodeDirection direction
    let transition ← decode "transition" transition (Transition.ofCode? transition)
    .ok (.teleport map x y direction transition)
  | .door index key lockpickReduction unlockText unlockFailed =>
    .ok (.door
      { door := index, key, lockpickReduction, unlockText
        unlockFailed := NodeId.ofLink? unlockFailed })
  | .chest index key lockpickReduction searchCheck text unlockFailed =>
    .ok (.chest
      { chest := index, key, lockpickReduction, searchCheck, text
        unlockFailed := NodeId.ofLink? unlockFailed })
  | .popupText text image byMoving byCursor => .ok (.popupText text image byMoving byCursor)
  | .spinner direction => do
    let direction ← decodeOptional decodeDirection direction
    .ok (.spinner direction)
  | .trap target baseDamage ailment => do
    let target ← decode "trap target" target (Audience.ofCode? target)
    let ailment ← decodeOptional (fun code => decode "ailment" code (Ailment.ofCode? code)) ailment
    .ok (.trap { target, baseDamage, ailment })
  | .removeBuffs buff => .ok (.removeBuffs buff)
  | .riddlemouth riddleText solutionText answers =>
    .ok (.riddlemouth riddleText solutionText answers)
  | .award target kind operation random index value => do
    let target ← decode "award target" target (Audience.ofCode? target)
    let kind ← decode "award type" kind (AwardKind.ofCode? kind index)
    let operation ← decode "award operation" operation (AwardOperation.ofCode? operation)
    .ok (.award { target, kind, operation, random, value })
  | .changeTile map x y tile => .ok (.changeTile { target := ⟨map, x, y⟩, tile })
  | .startBattle monsterGroup => .ok (.startBattle monsterGroup)
  | .enterPlace kind place openingHour closingHour closedText usedMap =>
    .ok (.enterPlace { kind, place, openingHour, closingHour, closedText, usedMap })
  | .condition kind object value count alternate => do
    let kind ← decode "condition" kind (ConditionKind.ofCode? kind)
    .ok (.condition { kind, object, value, count, alternate := NodeId.ofLink? alternate })
  | .action kind object value count => do
    let kind ← decode "action" kind (ActionKind.ofCode? kind)
    .ok (.action { kind, object, value, count })
  | .diceRoll chance alternate =>
    .ok (.diceRoll (if chance ≤ 100 then chance else 100) (NodeId.ofLink? alternate))
  | .conversation kind => do
    let kind ← decode "interaction" kind (ConversationKind.ofCode? kind)
    .ok (.conversation kind)
  | .decision text no => .ok (.decision text (NodeId.ofLink? no))
  | .changeMusic song volume => .ok (.changeMusic song volume)
  | .spawn map x y travelType => .ok (.spawn map x y travelType)
  | .raw bytes => .ok (.unknown bytes)

/-! ## §3. Nodes and maps. -/

/-- **The node that is written so** and stands at a position of its table. -/
def NodeDefinition.build (position : Nat) (n : NodeDefinition) : Except ChainError Node :=
  if position ≤ 65535 then
    let id : NodeId := ⟨UInt16.ofNat position⟩
    match n.payload.build with
    | .error fault => .error (.corruptData id fault)
    | .ok payload =>
      .ok { id, declared := .ofCode n.type, next := NodeId.ofLink? n.next, payload }
  else .error (.corruptData ⟨65535⟩ .tableTooLarge)

/-- The nodes that are written so, the first standing at `position`; the first error wins. -/
def buildNodes : Nat → List NodeDefinition → Except ChainError (List Node)
  | _, [] => .ok []
  | position, n :: rest =>
    match n.build position with
    | .error e => .error e
    | .ok node =>
      match buildNodes (position + 1) rest with
      | .error e => .error e
      | .ok nodes => .ok (node :: nodes)

/-- **The map of a definition.**  Of several events on one tile the last counts. -/
def MapDefinition.build (d : MapDefinition) : Except ChainError GameMap :=
  match buildNodes 0 d.nodes with
  | .error e => .error e
  | .ok nodes =>
    let bare : GameMap :=
      { index := d.index, name := d.name, is3d := d.is3d, width := d.width, height := d.height
        battleBackground := d.battleBackground, nodes := nodes.toArray
        chainHeads := (d.chainHeads.map NodeId.mk).toArray, tiles := []
        texts := d.texts.toArray }
    .ok (d.tiles.foldl (fun m t => m.placeEvent t.x t.y t.event) bare)

end TileEvents
