/-
  TileEvents.Session.Basic
  ────────────────────────
  **INTERACTIONS WITH TILES AND CHARACTERS.**

  A session outlives single walks: it keeps the repeat guard and whether a
  character is already being talked to in this tick.  An interaction with a
  tile looks up the event that lies there, asks the guard and walks the
  event's chain; an interaction with a character claims the tick.
-/
import TileEvents.Session.RepeatGuard
import TileEvents.Walk.Run

namespace TileEvents

/-- What is kept between walks. -/
structure Session where
  guard : RepeatGuard
  /-- Whether a character was talked to in this tick. -/
  characterBusy : Bool
  deriving DecidableEq

namespace Session

/-- A new session. -/
def fresh : Session := ⟨.fresh, false⟩

/-- The session in the next tick. -/
def endTick (s : Session) : Session := { s with characterBusy := false }

/-- The session with a guard that remembers nothing. -/
def forget (s : Session) : Session := { s with guard := .fresh }

end Session

/-! ## §1. Tiles. -/

/-- The event on a tile, unless the savegame has switched it off. -/
def GameMap.activeEvent? (m : GameMap) (save : Savegame) (x y : UInt8) : Option UInt16 :=
  (m.tileEvent? x y).filter fun event => !save.eventBit (.tileEvent m.index event)

/-- The session after a tile without an active event: stepping onto it lets the last event fire
again. -/
def Session.afterQuietTile (session : Session) (m : GameMap) (trigger : Trigger) : Session :=
  if trigger = .move then { session with guard := .onMap m.index } else session

/-- **Interact with a tile.** -/
def Session.onTile (session : Session) (ctx : Context) (m : GameMap) (x y : UInt8)
    (trigger : Trigger) (s : Scene) : Except ChainError Outcome × Session × Scene :=
  match m.activeEvent? s.save x y with
  | none =>
    (.ok .noEvent, session.afterQuietTile m trigger,
      s.note .debug s!"no active event at ({x}, {y}) on map {m.index}")
  | some event =>
    match m.chainHead event with
    | .error e => (.error e, session, s)
    | .ok head =>
      match session.guard.ask m event trigger with
      | (.error e, guard, records) => (.error e, { session with guard := guard }, s.notes records)
      | (.ok true, guard, records) =>
        (.ok .suppressed, { session with guard := guard }, s.notes records)
      | (.ok false, guard, records) =>
        let (result, s) :=
          walk ctx m ⟨m.index, x, y, some event⟩ head trigger false (s.notes records)
        (result, { session with guard := guard }, s)

/-! ## §2. Characters. -/

/-- **Interact with a character** who stands at a tile and has the chain of `event`. -/
def Session.onCharacter (session : Session) (ctx : Context) (m : GameMap) (event : UInt16)
    (x y : UInt8) (trigger : Trigger) (s : Scene) : Except ChainError Outcome × Session × Scene :=
  match m.chainHead event with
  | .error e => (.error e, session, s)
  | .ok head =>
    if session.characterBusy then
      (.ok .suppressed, session,
        s.note .debug s!"character interaction already running this tick, ignoring event {event}")
    else
      let (result, s) := walk ctx m ⟨m.index, x, y, none⟩ head trigger false s
      (result, { session with characterBusy := true }, s)

end TileEvents
