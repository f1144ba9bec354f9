/-
  TileEvents.Proofs.Sample
  ────────────────────────
  **A PLAIN GAME TO TRY A STATEMENT ON.**

  The theorems hold of every map, savegame and host.  Where one of them has
  hypotheses, a run in this plain game shows that they can be met: built-in
  settings, nothing remembered, dice that always fall on the lowest side, and
  a host that lets the party in.
-/
import TileEvents.Scene
import TileEvents.GameMap

namespace TileEvents

/-- The built-in settings, a dictionary with these words, and a host that lets the party in. -/
def Context.plain (words : List String) : Context := ⟨.builtin, ⟨words⟩, true⟩

/-- A scene at the beginning of a game. -/
def Scene.blank : Scene := ⟨.blank, .ofScript [], [], #[], #[]⟩

/-- A map with these nodes, a chain for each of the heads, and nothing on its tiles. -/
def GameMap.ofNodes (nodes : List Node) (heads : List NodeId) : GameMap where
  index := 1
  name := ""
  is3d := false
  width := 1
  height := 1
  battleBackground := 0
  nodes := nodes.toArray
  chainHeads := heads.toArray
  tiles := []
  texts := #[]

end TileEvents
