/-
  TileEvents.Walk.Run
  ───────────────────
  **WALKING A CHAIN AND PICKING IT UP AGAIN.**

  A walk runs nodes from a start until one ends the chain, rejects the
  interaction or needs the player.  It may visit only so many nodes; the limit
  is checked before the next node is looked up.

  A suspended walk goes on with the player's answer.  Which answers fit is
  decided by the node that gave the prompt, and the walk then starts afresh at
  the branch the answer chooses, with the trigger `always`.  A condition that
  asked for a word or a number is matched by the right answer alone, whatever
  result the node expects.
-/
import TileEvents.Walk.Step

namespace TileEvents

/-! ## §1. Walking. -/

/-- Walk on from node `id` with `left` nodes still allowed, in a walk that began at `start` under
`limit`. -/
def walkFrom (ctx : Context) (map : GameMap) (origin : Origin) (start : NodeId) (limit : Nat) :
    Nat → NodeId → Cursor → Scene → Except ChainError Outcome × Scene
  | 0, _, _, s => (.error (.chainLimitExceeded start limit), s)
  | left + 1, id, cursor, s =>
    match map.node id with
    | .error e => (.error e, s)
    | .ok node =>
      match node.step ctx map origin cursor s with
      | (.error e, s) => (.error e, s)
      | (.ok (.reject, _), s) => (.ok .aborted, s)
      | (.ok (.await prompt, cursor), s) =>
        (.ok (.suspended ⟨prompt, origin, id, cursor.status⟩),
          s.note .debug s!"chain suspended at node {id.text}: {prompt.inspect}")
      | (.ok (.goto none, cursor), s) => (.ok (.completed cursor.status), s)
      | (.ok (.goto (some next), cursor), s) => walkFrom ctx map origin start limit left next cursor s

/-- **Walk the chain that begins at `start`.** -/
def walk (ctx : Context) (map : GameMap) (origin : Origin) (start : NodeId) (trigger : Trigger)
    (status : Bool) (s : Scene) : Except ChainError Outcome × Scene :=
  let s := s.note .info
    s!"walking chain from node {start.text} on map {map.index} ({trigger.name})"
  let limit := ctx.settings.maxChainSteps
  walkFrom ctx map origin start limit limit start ⟨trigger, status⟩ s

/-! ## §2. Answers. -/

/-- How an answer continues a walk. -/
inductive Branch where
  /-- Go on at a node, or end the chain, with this status. -/
  | proceed (next : Option NodeId) (status : Bool)
  | abort
  /-- The same prompt again. -/
  | again
  deriving DecidableEq

/-- Why an answer was not taken. -/
inductive Refusal where
  /-- The node does not take this answer. -/
  | unexpected
  /-- The node never asks anything. -/
  | notSuspendable
  deriving DecidableEq

/-- The branch of a decided condition. -/
def Condition.branch (c : Condition) (matched : Bool) (next : Option NodeId) : Branch :=
  if matched then .proceed next true
  else
    match c.alternate with
    | some alternate => .proceed (some alternate) false
    | none => .abort

/-- The branch of a lock: open, whether by this answer or meanwhile, or still closed. -/
def lockBranch (isOpen : Bool) (next failed : Option NodeId) : Branch :=
  if isOpen then .proceed next true else .proceed failed false

/-- **The branch an answer takes**, given the status at the prompt. -/
def Node.answer (dictionary : Dictionary) (n : Node) (save : Savegame) (status : Bool) (a : Answer) :
    Except Refusal Branch :=
  match n.payload with
  | .popupText .. | .conversation _ | .trap _ =>
    match a with
    | .closed => .ok (.proceed n.next status)
    | _ => .error .unexpected
  | .decision _ no =>
    match a with
    | .yes => .ok (.proceed n.next true)
    | .no => .ok (.proceed no false)
    | _ => .error .unexpected
  | .riddlemouth _ _ answers =>
    match a with
    | .word text =>
      .ok (if answers.any (dictionary.isSaid · text) then .proceed n.next true else .again)
    | .closed => .ok (.proceed none false)
    | _ => .error .unexpected
  | .condition c =>
    match c.kind, a with
    | .sayWord, .word text => .ok (c.branch (dictionary.isSaid c.object text) n.next)
    | .enterNumber, .number number => .ok (c.branch (number == c.object.toUInt32) n.next)
    | .sayWord, .closed => .ok (c.branch false n.next)
    | .enterNumber, .closed => .ok (c.branch false n.next)
    | .sayWord, _ => .error .unexpected
    | .enterNumber, _ => .error .unexpected
    | _, _ => .error .notSuspendable
  | .door d =>
    match a with
    | .unlocked => .ok (lockBranch true n.next d.unlockFailed)
    | .closed => .ok (lockBranch (!save.isDoorLocked d.door) n.next d.unlockFailed)
    | _ => .error .unexpected
  | .chest c =>
    match a with
    | .unlocked => .ok (lockBranch true n.next c.unlockFailed)
    | .closed => .ok (lockBranch (!save.isChestLocked c.chest) n.next c.unlockFailed)
    | _ => .error .unexpected
  | .startBattle _ =>
    match a with
    | .won => .ok (.proceed n.next true)
    | .fled => .ok (.proceed none false)
    | _ => .error .unexpected
  | _ => .error .notSuspendable

/-- The savegame after an answer: an unlocked door or chest stays open. -/
def Node.afterAnswer (n : Node) (save : Savegame) (a : Answer) : Savegame :=
  match n.payload, a with
  | .door d, .unlocked => save.setDoorLocked d.door false
  | .chest c, .unlocked => save.setChestLocked c.chest false
  | _, _ => save

/-- The error for an answer that was not taken. -/
def Refusal.error (r : Refusal) (id : NodeId) (a : Answer) : ChainError :=
  match r with
  | .unexpected => .unexpectedResponse id a
  | .notSuspendable => .notSuspendable id

/-! ## §3. Resuming. -/

/-- **Continue a suspended walk with the player's answer.** -/
def resume (ctx : Context) (map : GameMap) (w : Suspension) (a : Answer) (s : Scene) :
    Except ChainError Outcome × Scene :=
  match map.node w.node with
  | .error e => (.error e, s)
  | .ok node =>
    match node.check with
    | .error e => (.error e, s)
    | .ok () =>
      let s := s.note .info s!"resuming node {w.node.text} with {a.inspect}"
      match node.answer ctx.dictionary s.save w.status a with
      | .error r => (.error (r.error w.node a), s)
      | .ok branch =>
        let s := s.setSave (node.afterAnswer s.save a)
        match branch with
        | .proceed (some next) status => walk ctx map w.origin next .always status s
        | .proceed none status => (.ok (.completed status), s)
        | .abort => (.ok .aborted, s)
        | .again => (.ok (.suspended w), s)

end TileEvents
