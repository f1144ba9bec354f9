/-
  TileEvents.Console.Guidance
  ───────────────────────────
  **HOW A PROMPT IS PRESENTED.**

  A prompt is shown in two parts: the texts that belong to it, which are shown
  once, and a line that names the answers, which is shown whenever an answer
  is called for.
-/
import TileEvents.Console.Notice
import TileEvents.Walk.Prompt

namespace TileEvents

open Console

/-! ## §1. Texts. -/

/-- What a trap did to a member. -/
def TrapHit.text (h : TrapHit) : String :=
  let ailment := remarkOf (fun a : Ailment => s!" and is now {a.inspect}") h.ailment
  s!"Member {h.member} takes {h.damage} damage{ailment}."

namespace Prompt

/-- The texts that belong to a prompt.  The text of a chest is inside it. -/
def texts (m : GameMap) : Prompt → List String
  | .popup text _ => [m.textOrMark text]
  | .decision text => [m.textOrMark text]
  | .riddle riddleText _ => [m.textOrMark riddleText]
  | .door _ _ _ unlockText => unlockText.toList.map m.textOrMark
  | .chest _ _ _ isLocked text => if isLocked then [] else text.toList.map m.textOrMark
  | .trap hits => hits.map TrapHit.text
  | .conversation | .sayWord | .enterNumber | .battle .. => []

/-! ## §2. Answers. -/

/-- What helps with a lock: its key, and how far picking it is made harder. -/
def lockRemark (key : Option UInt16) (lockpickReduction : UInt8) : String :=
  remarkOf (fun k : UInt16 => s!", key item {k}") key
    ++ (if lockpickReduction = 0 then "" else s!", lockpicking -{lockpickReduction}%")

/-- The line that names the answers. -/
def guidance (m : GameMap) : Prompt → String
  | .popup _ image => remarkOf (fun i : UInt8 => s!"[image {i}] ") image ++ "close"
  | .decision _ => "yes / no"
  | .riddle .. => "say <answer> / close"
  | .conversation => "A conversation opens. close"
  | .sayWord => "say <word> / close"
  | .enterNumber => "enter <number> / close"
  | .door index key lockpickReduction _ =>
    s!"Door {index} is locked{lockRemark key lockpickReduction}. unlock / close"
  | .chest index key lockpickReduction isLocked _ =>
    if isLocked then s!"Chest {index} is locked{lockRemark key lockpickReduction}. unlock / close"
    else s!"Chest {index} is open. close"
  | .battle group background =>
    s!"Battle against monster group {group} (background {background}) on map {m.index}. won / fled"
  | .trap _ => "close"

/-- The notice that calls for an answer. -/
def askNotice (m : GameMap) (p : Prompt) : Notice := .prompt (p.guidance m)

/-- The notices of a prompt that has just come up. -/
def notices (m : GameMap) (p : Prompt) : List Notice :=
  (p.texts m).map .mapText ++ [p.askNotice m]

end Prompt

end TileEvents
