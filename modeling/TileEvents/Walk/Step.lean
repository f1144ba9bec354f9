/-
  TileEvents.Walk.Step
  ────────────────────
  **RUNNING ONE NODE.**

  A step runs one node of a walk.  It tells the walk where to go next, rejects
  the interaction, or stops with a prompt; it works on the scene and on the
  cursor, which holds the trigger the node sees and the status of the last
  branching.  A step that fails has written nothing but a line of the log.
-/
import TileEvents.GameMap
import TileEvents.Node.Hours
import TileEvents.Walk.Action
import TileEvents.Walk.Award
import TileEvents.Walk.Condition

namespace TileEvents

open Text

/-! ## §1. Cursors and directives. -/

/-- Where a walk stands between two nodes. -/
structure Cursor where
  trigger : Trigger
  /-- How the last branching went. -/
  status : Bool
  deriving DecidableEq

/-- What a node tells the walk to do. -/
inductive Directive where
  /-- Go on at a node, or end the chain. -/
  | goto (next : Option NodeId)
  /-- Reject the interaction. -/
  | reject
  /-- Stop until the player answers. -/
  | await (prompt : Prompt)
  deriving DecidableEq

/-- What came of a step. -/
structure Stepped where
  directive : Directive
  cursor : Cursor
  scene : Scene

/-! ## §2. Branching. -/

/-- The way on from a branching that failed: the alternate, or rejection where there is none. -/
def Directive.otherwise : Option NodeId → Directive
  | some alternate => .goto (some alternate)
  | none => .reject

/-- The way on from a decided condition.  After a match the rest of the chain sees the trigger
`always`. -/
def Condition.follow (c : Condition) (matched : Bool) (next : Option NodeId) (cursor : Cursor) :
    Directive × Cursor :=
  if matched then (.goto next, ⟨.always, true⟩)
  else (.otherwise c.alternate, { cursor with status := false })

/-! ## §3. Small parts of steps. -/

/-- The map a zero stands for. -/
def Origin.mapOr (origin : Origin) (map : UInt16) : UInt16 := if map = 0 then origin.map else map

/-- The tile a replacement aims at when it has not settled yet: zero fields are filled in from
where the walk came from. -/
def Origin.aim (origin : Origin) (raw : TileTarget) : TileTarget where
  map := origin.mapOr raw.map
  x := if raw.x = 0 then Word.clamp8 (origin.x.toNat + 1) else raw.x
  y := if raw.y = 0 then Word.clamp8 (origin.y.toNat + 1) else raw.y

/-- Let a replacement settle, unless it has; also the tile it is settled on. -/
def Scene.settle (s : Scene) (id : NodeId) (origin : Origin) (raw : TileTarget) :
    TileTarget × Scene :=
  match s.settledTarget? id with
  | some target => (target, s)
  | none => (origin.aim raw, { s with settled := (id, origin.aim raw) :: s.settled })

/-- Throw against the searching skill of the acting member. -/
def Scene.search (s : Scene) (settings : Settings) : Bool × Scene :=
  let skill :=
    match s.save.actor?.bind fun m => m.skills[settings.searchingSkill]? with
    | some stat => stat.current
    | none => 0
  let (roll, s) := s.throwPercentile
  (decide (roll < skill), s)

/-- A random facing. -/
def Scene.throwDirection (s : Scene) : Direction × Scene :=
  let (roll, s) := s.throwDice 0 3
  ((Direction.all[roll.toNat]?).getD .up, s)

/-- The facing of a spinner. -/
def Scene.spinTo (s : Scene) : Option Direction → Direction × Scene
  | some direction => (direction, s)
  | none => s.throwDirection

/-- The scene in which a built-in message is shown. -/
def Scene.tell (s : Scene) (text : String) : Scene := s.call (.message (.builtin text))

/-- Replace a tile and switch the tile event off that the walk came from. -/
def Scene.replaceTile (s : Scene) (id : NodeId) (origin : Origin) (r : TileReplacement) : Scene :=
  let (target, s) := s.settle id origin r.target
  let s := s.note .info
    s!"recording tile change at map {target.map} ({target.x}, {target.y}) -> tile {r.tile}"
  let s := (s.setSave (s.save.recordTileChange target r.tile)).call (.updateTile target r.tile)
  match origin.event with
  | none => s
  | some event => s.setSave (s.save.setEventBit (.tileEvent origin.map event) true)

/-! ## §4. The step. -/

/-- What a consistent node does to a scene.  Whether it fails does not depend on the scene. -/
def Node.perform (ctx : Context) (map : GameMap) (origin : Origin) (n : Node) (cursor : Cursor) :
    Except ChainError (Scene → Stepped) :=
  let id := n.id
  let goOn (s : Scene) : Stepped := ⟨.goto n.next, cursor, s⟩
  let stop (s : Scene) : Stepped := ⟨.goto none, cursor, s⟩
  let reject (s : Scene) : Stepped := ⟨.reject, cursor, s⟩
  let await (prompt : Prompt) (s : Scene) : Stepped := ⟨.await prompt, cursor, s⟩
  match n.payload with
  | .teleport target x y direction transition =>
    .ok fun s =>
      match cursor.trigger with
      | .move | .always => stop (s.call (.teleport (origin.mapOr target) x y direction transition))
      | _ => goOn s
  | .door d =>
    .ok fun s =>
      if s.save.isDoorLocked d.door then
        await (.door d.door d.key d.lockpickReduction d.unlockText) s
      else ⟨.goto n.next, { cursor with status := true }, s⟩
  | .chest c =>
    .ok fun s =>
      if cursor.trigger = .mouth then reject s
      else
        let (found, s) := if c.searchCheck then s.search ctx.settings else (true, s)
        if found then
          await (.chest c.chest c.key c.lockpickReduction (s.save.isChestLocked c.chest) c.text) s
        else reject (s.tell ctx.settings.messages.searchFailed)
  | .popupText text image byMoving byCursor =>
    let accepted :=
      match cursor.trigger with
      | .always => true
      | .move => byMoving
      | .eye => byCursor
      | _ => false
    .ok (if accepted then await (.popup text image) else reject)
  | .spinner direction =>
    .ok fun s =>
      match cursor.trigger with
      | .move | .always =>
        let (facing, s) := s.spinTo direction
        goOn ((s.setSave { s.save with direction := facing }).call (.spin facing))
      | .eye => reject (s.tell ctx.settings.messages.spinnerSeen)
      | _ => goOn s
  | .trap t =>
    .ok fun s =>
      match cursor.trigger with
      | .move | .always =>
        let (hits, s) := t.spring id s
        await (.trap hits) s
      | .eye => reject (s.tell ctx.settings.messages.trapSeen)
      | _ => reject s
  | .removeBuffs buff =>
    .ok fun s =>
      goOn ((s.setSave (s.save.removeBuffs buff)).remark id
        s!"cleared {s.save.buffsRemoved buff} buff(s)")
  | .riddlemouth riddleText solutionText _ =>
    .ok (match cursor.trigger with
      | .always | .eye | .hand | .mouth => await (.riddle riddleText solutionText)
      | _ => goOn)
  | .award a => .ok fun s => goOn (a.apply id s)
  | .changeTile r => .ok fun s => goOn (s.replaceTile id origin r)
  | .startBattle monsterGroup => .ok (await (.battle monsterGroup map.battleBackground))
  | .enterPlace p =>
    .ok fun s =>
      if p.isOpenAt s.save.hour then
        let s := s.call (.enterPlace p.kind p.place p.usedMap ctx.admits)
        if ctx.admits then stop s else reject (s.tell ctx.settings.messages.placeRefused)
      else reject (s.call (.message (.mapText p.closedText)))
  | .condition c =>
    .ok fun s =>
      match c.verdict s.save cursor.trigger cursor.status with
      | .decided matched =>
        let (directive, cursor) := c.follow matched n.next cursor
        ⟨directive, cursor, s.remark id s!"{c.kind.inspect} matched = {inspectBool matched}"⟩
      | .awaitWord => await .sayWord s
      | .awaitNumber => await .enterNumber s
      | .wrongTrigger => reject s
  | .action a =>
    match a.effect ctx.settings id with
    | .error e => .error e
    | .ok f => .ok fun s => goOn (f s)
  | .diceRoll chance alternate =>
    .ok fun s =>
      let (roll, s) := s.throwPercentile
      let won := decide (roll < chance.toUInt32)
      let directive := if won then .goto n.next else .otherwise alternate
      ⟨directive, { cursor with status := won }, s.remark id s!"rolled {roll} against {chance}%"⟩
  | .conversation kind =>
    .ok (if cursor.trigger = .mouth ∧ kind = .talk then await .conversation else reject)
  | .decision text _ => .ok (await (.decision text))
  | .changeMusic song volume => .ok fun s => goOn (s.call (.playMusic song volume))
  | .spawn target x y travelType =>
    .ok fun s => goOn (s.call (.spawn (origin.mapOr target) x y travelType))
  | .unknown bytes =>
    .ok fun s => goOn (s.warnOf id
      s!"unknown event type {n.declared.code} ({bytes.length} payload bytes), passing through")

/-- The error of a node whose declared type does not go with its payload. -/
def Node.check (n : Node) : Except ChainError Unit :=
  if n.isConsistent then .ok ()
  else .error (.corruptData n.id (.mismatch n.declared n.payload.type?))

/-- **Run one node**: what comes of it and the scene it leaves, which after an error is the scene
before with at most a line more in the log. -/
def Node.step (ctx : Context) (map : GameMap) (origin : Origin) (n : Node) (cursor : Cursor)
    (s : Scene) : Except ChainError (Directive × Cursor) × Scene :=
  match n.check with
  | .error e => (.error e, s)
  | .ok () =>
    let s := s.remark n.id s!"{n.declared.inspect} ({cursor.trigger.name})"
    match n.perform ctx map origin cursor with
    | .error e => (.error e, s)
    | .ok f =>
      let ⟨directive, cursor, s⟩ := f s
      (.ok (directive, cursor),
        if directive = .reject then s.remark n.id "interaction rejected" else s)

end TileEvents
