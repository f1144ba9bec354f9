/-
  TileEvents.Settings
  ───────────────────
  **THE TUNING OF A GAME.**

  Weights, the skill that finds hidden chests, the length at which a walk is
  taken for a cycle, the seed of the dice and the texts of the built-in
  messages.
-/

namespace TileEvents

/-- What is shown when a node rejects the player. -/
structure Messages where
  spinnerSeen : String
  trapSeen : String
  searchFailed : String
  placeRefused : String
  deriving DecidableEq

/-- The tuning of a game. -/
structure Settings where
  /-- The weight of a gold coin. -/
  goldWeight : UInt32
  /-- The weight of a food ration. -/
  foodWeight : UInt32
  /-- The position of the skill that a search rolls against. -/
  searchingSkill : Nat
  /-- How many nodes a single walk may visit. -/
  maxChainSteps : Nat
  /-- The seed of the dice; without one they are thrown anew in every game. -/
  seed : Option UInt64
  messages : Messages
  deriving DecidableEq

/-- The built-in messages. -/
def Messages.builtin : Messages where
  spinnerSeen := "The floor here looks oddly worn in a circle."
  trapSeen := "You notice a trap!"
  searchFailed := "You find nothing of interest."
  placeRefused := "You are not admitted."

/-- The built-in tuning. -/
def Settings.builtin : Settings where
  goldWeight := 5
  foodWeight := 250
  searchingSkill := 8
  maxChainSteps := 4096
  seed := none
  messages := .builtin

end TileEvents
