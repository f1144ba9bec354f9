/-
  TileEvents.Console.Basic
  ────────────────────────
  **THE STATE OF A CONSOLE.**

  A console plays one map: it holds the map with the targets its tile
  replacements have settled on, the savegame, the session, the dice, the ticks
  counted so far and the walk that waits for an answer, if there is one.
-/
import TileEvents.Session.Basic

namespace TileEvents

/-- A map in play at a console. -/
structure Console where
  map : GameMap
  settled : SettledTargets
  save : Savegame
  context : Context
  session : Session
  dice : Dice
  /-- Where the savegame is written to and read from unless a command says otherwise. -/
  savePath : String
  /-- The walk that waits for an answer. -/
  pending : Option Suspension
  tick : Nat

namespace Console

/-- A console at which nothing has happened yet. -/
def fresh (map : GameMap) (save : Savegame) (context : Context) (dice : Dice) (savePath : String) :
    Console where
  map := map
  settled := []
  save := save
  context := context
  session := .fresh
  dice := dice
  savePath := savePath
  pending := none
  tick := 0

/-! ## §1. Walks. -/

/-- The scene a walk begins in. -/
def scene (c : Console) : Scene := ⟨c.save, c.dice, c.settled, #[], #[]⟩

/-- The console after a walk. -/
def afterScene (c : Console) (s : Scene) : Console :=
  { c with save := s.save, dice := s.dice, settled := s.settled }

end Console

end TileEvents
