/-
  TileEvents.Console.Turn
  ───────────────────────
  **ONE COMMAND AT A CONSOLE.**

  A command yields a turn: what is shown, what the log says and the console
  afterwards.  While a walk waits for an answer no other walk can begin.  An
  answer that does not fit leaves the walk waiting; any other answer takes it
  up again.  Writing and reading the savegame is an errand, so a turn with
  files ends only when the disk has answered, and one that fails leaves the
  console as it was.
-/
import TileEvents.Command
import TileEvents.Console.Guidance
import TileEvents.Console.Listing
import TileEvents.DataFile

namespace TileEvents

/-! ## §1. Turns. -/

/-- What came of a command. -/
structure Console.Turn where
  console : Console
  notices : List Console.Notice
  log : List Record
  /-- Whether the player leaves. -/
  quits : Bool

namespace Console

/-- A turn that only shows something. -/
def say (c : Console) (notices : List Notice) : Turn := ⟨c, notices, [], false⟩

/-- A turn with one notice and nothing in the log. -/
def tell (c : Console) (notice : Notice) : Turn := c.say [notice]

/-! ## §2. The end of a walk. -/

/-- What is shown of the requests of a walk. -/
def worldNotices (m : GameMap) (s : Scene) : List Notice :=
  s.calls.toList.filterMap (Notice.ofCall? m)

/-- What the log says of a walk.  The party is moved only at the end of a walk, so the remark on it
comes last. -/
def walkRecords (s : Scene) : List Record :=
  s.log.toList ++ s.calls.toList.filterMap HostCall.record?

/-- How the end of a walk is shown. -/
def endNotices (m : GameMap) : Except ChainError Outcome → List Notice
  | .error e => [.error e.message]
  | .ok .noEvent => [.outcome "Nothing happens."]
  | .ok .suppressed => [.outcome "(the same event does not fire twice in a row)"]
  | .ok (.completed status) => [.outcome s!"Event finished (status: {Text.inspectBool status})."]
  | .ok .aborted => [.outcome "Event ended."]
  | .ok (.suspended w) => w.prompt.notices m

/-- What the log says of the end of a walk. -/
def endRecords : Except ChainError Outcome → List Record
  | .error e => [⟨.error, s!"event chain failed: {e.message}"⟩]
  | .ok _ => []

/-- The walk that waits for an answer at the end of a walk. -/
def waiting? : Except ChainError Outcome → Option Suspension
  | .ok (.suspended w) => some w
  | _ => none

/-- The turn of a walk with this result, which left this session and scene. -/
def finish (c : Console) (result : Except ChainError Outcome) (session : Session) (s : Scene) :
    Turn where
  console := { c.afterScene s with session := session, pending := waiting? result }
  notices := worldNotices c.map s ++ endNotices c.map result
  log := walkRecords s ++ endRecords result
  quits := false

/-! ## §3. Interactions. -/

/-- The turn of an interaction that comes while a walk waits. -/
def refuse (c : Console) (w : Suspension) : Turn :=
  c.say [.error "Answer the pending prompt first.", w.prompt.askNotice c.map]

/-- **Interact with a tile.** -/
def interact (c : Console) (interaction : Interaction) (x y : UInt8) : Turn :=
  match c.pending with
  | some w => c.refuse w
  | none =>
    let trigger := interaction.trigger
    let scene := c.scene.note .info
      s!"{interaction.inspect} at ({x}, {y}) classified as {trigger.name}"
    let (result, session, s) := c.session.onTile c.context c.map x y trigger scene
    c.finish result session s

/-- **Talk to a character.** -/
def talk (c : Console) (event : UInt16) (x y : UInt8) : Turn :=
  match c.pending with
  | some w => c.refuse w
  | none =>
    let (result, session, s) :=
      c.session.onCharacter c.context c.map event x y Interaction.talk.trigger c.scene
    c.finish result session s

/-- **Answer the walk that waits.** -/
def respond (c : Console) (a : Answer) : Turn :=
  match c.pending with
  | none => c.tell (.error "Nothing is waiting for an answer.")
  | some w =>
    match resume c.context c.map w a c.scene with
    | (.error (.unexpectedResponse id a), s) =>
      ⟨c.afterScene s,
        worldNotices c.map s ++
          [.error (ChainError.unexpectedResponse id a).message, w.prompt.askNotice c.map],
        walkRecords s, false⟩
    | (result, s) => c.finish result c.session s

/-! ## §4. The savegame. -/

/-- The console with another savegame: the walk that waits is given up, and the last event may fire
again. -/
def restore (c : Console) (save : Savegame) : Console :=
  { c with save := save, pending := none, session := c.session.forget }

/-- What the log says when the walk that waits is given up. -/
def discardRecords (c : Console) : List Record :=
  c.pending.toList.map fun w => ⟨.info, s!"discarding walk suspended at node {w.node.text}"⟩

/-- The turn of a savegame that was written, or was not. -/
def afterWrite (c : Console) (path : String) : Except WriteError Unit → Turn
  | .ok () =>
    ⟨c, [.outcome s!"Saved to '{path}'."], [⟨.info, s!"savegame written to '{path}'"⟩], false⟩
  | .error e =>
    ⟨c, [.error s!"Save failed: {e.message}"], [⟨.warn, s!"save failed: {e.message}"⟩], false⟩

/-- The turn of a savegame that was loaded, or was not. -/
def afterLoad (c : Console) (path : String) : Except LoadError Savegame → Turn
  | .ok save =>
    ⟨c.restore save, [.outcome s!"Loaded '{path}'."],
      [⟨.info, s!"savegame loaded from '{path}' ({save.party.length} party members)"⟩]
        ++ c.discardRecords ++ [⟨.info, s!"console state replaced from '{path}'"⟩],
      false⟩
  | .error e =>
    ⟨c, [.error s!"Load failed: {e.message}"], [⟨.warn, s!"load failed: {e.message}"⟩], false⟩

/-- The path a command names, or the console's own. -/
def targetPath (c : Console) (path : Option String) : String := path.getD c.savePath

/-- **Write the savegame.** -/
def saveTo (c : Console) (path : String) : Errand Turn := .write path c.save.write (c.afterWrite path)

/-- **Read a savegame.** -/
def loadFrom (c : Console) (path : String) : Errand Turn :=
  .read path fun text => c.afterLoad path (Savegame.load path text)

/-! ## §5. Commands. -/

/-- The console in the next tick. -/
def nextTick (c : Console) : Console :=
  { c with session := c.session.endTick, tick := c.tick + 1 }

/-- The console with a guard that remembers nothing. -/
def forget (c : Console) : Console := { c with session := c.session.forget }

/-- The console at another hour. -/
def setHour (c : Console) (hour : UInt8) : Console := { c with save := { c.save with hour := hour } }

/-- **Execute a command.** -/
def execute (c : Console) : Command → Errand Turn
  | .interact interaction x y => .done (c.interact interaction x y)
  | .character event x y => .done (c.talk event x y)
  | .respond a => .done (c.respond a)
  | .endTick => .done (c.nextTick.tell (.outcome s!"tick {c.nextTick.tick} begins"))
  | .resetGuard => .done (c.forget.tell (.outcome "event guard reset"))
  | .setHour hour => .done ((c.setHour hour).tell (.outcome s!"it is now {hourText hour}:00"))
  | .tiles => .done (c.tell (.listing c.tilesListing))
  | .party => .done (c.tell (.listing c.partyListing))
  | .status => .done (c.tell (.listing c.statusListing))
  | .save path => c.saveTo (c.targetPath path)
  | .load path => c.loadFrom (c.targetPath path)
  | .help => .done (c.tell (.listing helpListing))
  | .quit => .done { c.say [] with quits := true }
  | .unknown => .done (c.tell (.error "Unrecognized command. Type 'help' for a list."))

end Console

end TileEvents
