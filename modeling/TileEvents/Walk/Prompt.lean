/-
  TileEvents.Walk.Prompt
  ──────────────────────
  **PROMPTS, ANSWERS AND SUSPENDED WALKS.**

  A walk that needs the player stops with a prompt.  What is left of it is a
  suspension: the prompt, the node that gave it, where the walk came from and
  how its last branching went.  The game shows the prompt and hands the
  suspension back together with the player's answer.
-/
import TileEvents.Code.Ailment
import TileEvents.Node.Id
import TileEvents.Text.Inspect

namespace TileEvents

open Text

/-! ## §1. Prompts. -/

/-- A party member hit by a trap. -/
structure TrapHit where
  member : Nat
  damage : UInt32
  ailment : Option Ailment
  deriving DecidableEq

/-- What has to be presented before a walk can go on. -/
inductive Prompt where
  | popup (text : UInt16) (image : Option UInt8)
  | decision (text : UInt16)
  | riddle (riddleText solutionText : UInt16)
  | conversation
  | sayWord
  | enterNumber
  | door (door : UInt16) (key : Option UInt16) (lockpickReduction : UInt8) (unlockText : Option UInt16)
  | chest (chest : UInt16) (key : Option UInt16) (lockpickReduction : UInt8) (locked : Bool)
      (text : Option UInt16)
  | battle (monsterGroup : UInt16) (background : UInt8)
  /-- The trap has already sprung; its effect is shown. -/
  | trap (hits : List TrapHit)
  deriving DecidableEq

/-- The inspection form. -/
def TrapHit.inspect (h : TrapHit) : String :=
  inspectRecord "TrapHit" [("member", toString h.member), ("damage", toString h.damage),
    ("ailment", inspectOption Ailment.inspect h.ailment)]

/-- The inspection form. -/
def Prompt.inspect : Prompt → String
  | popup text image =>
    inspectRecord "Popup" [("text_index", toString text), ("image_index", inspectOption toString image)]
  | decision text => inspectRecord "Decision" [("text_index", toString text)]
  | riddle riddleText solutionText =>
    inspectRecord "Riddle" [("riddle_text_index", toString riddleText),
      ("solution_text_index", toString solutionText)]
  | conversation => "Conversation"
  | sayWord => "SayWord"
  | enterNumber => "EnterNumber"
  | door index key lockpickReduction unlockText =>
    inspectRecord "Door" [("door_index", toString index), ("key_index", inspectOption toString key),
      ("lockpick_reduction", toString lockpickReduction),
      ("unlock_text_index", inspectOption toString unlockText)]
  | chest index key lockpickReduction locked text =>
    inspectRecord "Chest" [("chest_index", toString index), ("key_index", inspectOption toString key),
      ("lockpick_reduction", toString lockpickReduction), ("locked", inspectBool locked),
      ("text_index", inspectOption toString text)]
  | battle monsterGroup background =>
    inspectRecord "Battle" [("monster_group_index", toString monsterGroup),
      ("background", toString background)]
  | trap hits => inspectRecord "Trap" [("hits", inspectList (hits.map TrapHit.inspect))]

/-! ## §2. Answers. -/

/-- The player's answer to a prompt. -/
inductive Answer where
  /-- Dismissed, or closed without success. -/
  | closed
  | yes
  | no
  | word (text : String)
  | number (n : UInt32)
  /-- The lock was opened. -/
  | unlocked
  | won
  | fled
  deriving DecidableEq

/-- The inspection form. -/
def Answer.inspect : Answer → String
  | closed => "Closed"
  | yes => "Yes"
  | no => "No"
  | word text => inspectApplied "Word" (inspectString text)
  | number n => inspectApplied "Number" (toString n)
  | unlocked => "Unlocked"
  | won => "Won"
  | fled => "Fled"

/-! ## §3. Suspensions and outcomes. -/

/-- Where a walk came from. -/
structure Origin where
  map : UInt16
  /-- Column and row of the tile or character, counted from 0. -/
  x : UInt8
  y : UInt8
  /-- The tile event; a character's walk has none. -/
  event : Option UInt16
  deriving DecidableEq

/-- A walk that waits for the player. -/
structure Suspension where
  prompt : Prompt
  origin : Origin
  /-- The node that gave the prompt. -/
  node : NodeId
  /-- How the last branching of the walk went. -/
  status : Bool
  deriving DecidableEq

/-- How a walk ended. -/
inductive Outcome where
  /-- There was no event, or it is switched off. -/
  | noEvent
  /-- The event was held back as a repetition, or a character is already being talked to. -/
  | suppressed
  /-- The chain ended, with the status of its last branching. -/
  | completed (status : Bool)
  /-- A node rejected the interaction. -/
  | aborted
  | suspended (suspension : Suspension)
  deriving DecidableEq

end TileEvents
