/-
  TileEvents.Session.Playthrough
  ──────────────────────────────
  **A GAME PLAYED MOVE BY MOVE.**

  A playthrough holds everything that one game needs: its maps with the
  targets their tile replacements have settled on, the savegame, the dice, the
  session and every suspension a move has returned so far.  A move is anything
  the game around the interpreter may do; it yields a report with the result,
  the requests to the host and the log of that move alone.
-/
import TileEvents.Session.Basic

namespace TileEvents

/-! ## §1. The state. -/

/-- A map in play. -/
structure Stage where
  map : GameMap
  settled : SettledTargets

/-- A game in play. -/
structure Playthrough where
  stages : Array Stage
  save : Savegame
  dice : Dice
  session : Session
  context : Context
  /-- Every suspension returned so far; none is ever used up. -/
  suspensions : Array Suspension

/-- A new game. -/
def Playthrough.start (maps : List GameMap) (save : Savegame) (dice : Dice) (context : Context) :
    Playthrough where
  stages := (maps.map fun m => Stage.mk m []).toArray
  save := save
  dice := dice
  session := .fresh
  context := context
  suspensions := #[]

/-! ## §2. Moves and reports. -/

/-- Something the game around the interpreter does; `stage` is the position of a map. -/
inductive Move where
  | tile (stage : Nat) (x y : UInt8) (interaction : Interaction)
  | character (stage : Nat) (event : UInt16) (x y : UInt8) (interaction : Interaction)
  | walk (stage : Nat) (start : NodeId) (interaction : Interaction) (origin : Origin) (status : Bool)
  /-- Answer the suspension at a position, or the newest one. -/
  | resume (stage : Nat) (which : Option Nat) (answer : Answer)
  /-- Answer a suspension that no walk returned. -/
  | forge (stage : Nat) (suspension : Suspension) (answer : Answer)
  /-- Look at the target of a tile replacement. -/
  | inspectTarget (stage : Nat) (node : NodeId)
  | endTick
  | resetGuard
  | clearLast (map : UInt16)
  | setHour (hour : UInt8)
  | setActive (member : UInt64)
  | setEventBit (address : BitAddress) (on : Bool)
  | setAdmits (admits : Bool)
  | place (stage : Nat) (x y : UInt8) (event : UInt16)

/-- What came of a move. -/
inductive MoveResult where
  | walked (result : Except ChainError Outcome)
  /-- There is no suspension to answer. -/
  | noSuspension
  /-- There is no map at that position. -/
  | noStage
  /-- The target of a tile replacement, and whether it has settled; other nodes have none. -/
  | target (target : Option (TileTarget × Bool))
  | failed (e : ChainError)
  | done

/-- The account of a move. -/
structure Report where
  result : MoveResult
  calls : Array HostCall
  log : Array Record

namespace Playthrough

/-- The account of a move that made no requests and logged nothing. -/
def quietly (result : MoveResult) (p : Playthrough) : Report × Playthrough :=
  (⟨result, #[], #[]⟩, p)

/-! ## §3. Walking moves. -/

/-- An interaction with a map: what it makes of the session and the scene. -/
abbrev Interplay := Context → GameMap → Session → Scene → Except ChainError Outcome × Session × Scene

/-- The suspensions after a walk. -/
def collect (suspensions : Array Suspension) : Except ChainError Outcome → Array Suspension
  | .ok (.suspended w) => suspensions.push w
  | _ => suspensions

/-- Play an interaction on the map at a position. -/
def interact (p : Playthrough) (stage : Nat) (f : Interplay) : Report × Playthrough :=
  match p.stages[stage]? with
  | none => p.quietly .noStage
  | some st =>
    let (result, session, scene) :=
      f p.context st.map p.session ⟨p.save, p.dice, st.settled, #[], #[]⟩
    (⟨.walked result, scene.calls, scene.log⟩,
      { p with
        stages := p.stages.setIfInBounds stage { st with settled := scene.settled }
        save := scene.save
        dice := scene.dice
        session := session
        suspensions := collect p.suspensions result })

/-- A walk that leaves the session alone. -/
def Interplay.ofWalk (f : Context → GameMap → Scene → Except ChainError Outcome × Scene) :
    Interplay := fun ctx m session s =>
  let (result, s) := f ctx m s
  (result, session, s)

/-- The suspension that is to be answered. -/
def suspension? (p : Playthrough) : Option Nat → Option Suspension
  | some i => p.suspensions[i]?
  | none => p.suspensions.back?

/-- The target of the tile replacement at a node. -/
def targetOf (st : Stage) (id : NodeId) : MoveResult :=
  match st.map.node id with
  | .error e => .failed e
  | .ok node =>
    match node.payload with
    | .changeTile r =>
      match st.settled.find? fun entry => entry.1 == node.id with
      | some entry => .target (some (entry.2, true))
      | none => .target (some (r.target, false))
    | _ => .target none

/-! ## §4. Moves. -/

/-- **Make a move.** -/
def play (p : Playthrough) : Move → Report × Playthrough
  | .tile stage x y interaction =>
    p.interact stage fun ctx m session s => session.onTile ctx m x y interaction.trigger s
  | .character stage event x y interaction =>
    p.interact stage fun ctx m session s => session.onCharacter ctx m event x y interaction.trigger s
  | .walk stage start interaction origin status =>
    p.interact stage <| .ofWalk fun ctx m s =>
      TileEvents.walk ctx m origin start interaction.trigger status s
  | .resume stage which answer =>
    match p.suspension? which with
    | none => p.quietly .noSuspension
    | some w => p.interact stage <| .ofWalk fun ctx m s => TileEvents.resume ctx m w answer s
  | .forge stage w answer =>
    p.interact stage <| .ofWalk fun ctx m s => TileEvents.resume ctx m w answer s
  | .inspectTarget stage id =>
    match p.stages[stage]? with
    | none => p.quietly .noStage
    | some st => p.quietly (targetOf st id)
  | .endTick => { p with session := p.session.endTick }.quietly .done
  | .resetGuard => { p with session := p.session.forget }.quietly .done
  | .clearLast map => { p with session := { p.session with guard := .onMap map } }.quietly .done
  | .setHour hour => { p with save := { p.save with hour := hour } }.quietly .done
  | .setActive member => { p with save := { p.save with activeMember := member } }.quietly .done
  | .setEventBit address on => { p with save := p.save.setEventBit address on }.quietly .done
  | .setAdmits admits => { p with context := { p.context with admits := admits } }.quietly .done
  | .place stage x y event =>
    match p.stages[stage]? with
    | none => p.quietly .noStage
    | some st =>
      { p with
        stages := p.stages.setIfInBounds stage
          { st with map := st.map.placeEvent x y event } }.quietly .done

/-- Make moves one after the other. -/
def playAll (p : Playthrough) : List Move → List Report × Playthrough
  | [] => ([], p)
  | move :: rest =>
    let (report, p) := p.play move
    let (reports, p) := p.playAll rest
    (report :: reports, p)

end Playthrough

end TileEvents
