/-
  TileEvents.Walk.Action
  ──────────────────────
  **CARRYING OUT ACTIONS.**

  An action on a flag reads the flag, applies the operation of the node and
  writes the flag back.  An action on items, gold or food takes for value 0,
  gives for value 1 and does nothing otherwise; gold and food are shared among
  the whole party and change the weight every member carries.  The only
  actions that can fail set a facing or an ailment that does not exist, and
  they fail before anything is written.
-/
import TileEvents.Error
import TileEvents.Party.Pack
import TileEvents.Party.Purse
import TileEvents.Scene
import TileEvents.Node.Basic

namespace TileEvents

open Text

/-! ## §1. Flags. -/

/-- A flag after an operation: 0 clears, 1 sets, 2 toggles, anything else leaves it. -/
def flagAfter (operation : UInt16) (current : Bool) : Bool :=
  match operation.toNat with
  | 0 => false
  | 1 => true
  | 2 => !current
  | _ => current

/-! ## §2. Gold and food. -/

/-- What the party shares. -/
inductive Currency where
  | gold
  | food
  deriving DecidableEq

namespace Currency

/-- The inspection form. -/
def inspect : Currency → String
  | gold => "Gold"
  | food => "Food"

/-- What a member has of it. -/
def balance : Currency → Member → UInt32
  | gold, m => m.gold
  | food, m => m.food

/-- The member with another balance. -/
def setBalance (c : Currency) (m : Member) (amount : UInt32) : Member :=
  match c with
  | gold => { m with gold := amount }
  | food => { m with food := amount }

/-- The weight of one piece. -/
def unitWeight : Currency → Settings → UInt32
  | gold, settings => settings.goldWeight
  | food, settings => settings.foodWeight

/-- The weight a member carries after a balance changed from `old` to `new`. -/
def weightAfter (unit weight old new : UInt32) : UInt32 :=
  if old ≤ new then Word.add32 weight (Word.mul32 (new - old) unit)
  else Word.sub32 weight (Word.mul32 (old - new) unit)

/-- The member with a new balance and the weight that goes with it. -/
def settle (c : Currency) (unit : UInt32) (m : Member) (new : UInt32) : Member :=
  { c.setBalance m new with totalWeight := weightAfter unit m.totalWeight (c.balance m) new }

/-- The party with new balances, in order. -/
def settleAll (c : Currency) (unit : UInt32) (party : List Member) (balances : List UInt32) :
    List Member :=
  List.zipWith (c.settle unit) party balances

end Currency

/-! ## §3. Actions. -/

namespace Action

/-- Give items to the acting member. -/
def giveItems (id : NodeId) (item count : UInt16) (s : Scene) : Scene :=
  let s' :=
    match s.save.actor? with
    | none => s.note .warn s!"no active party member to receive item {item}"
    | some _ =>
      s.setSave (s.save.reviseMember s.save.activeMember.toNat fun m =>
        { m with inventory := Pack.put item count m.inventory })
  s'.remark id s!"added {count}x item {item}"

/-- Take items from the party and report the curses lifted. -/
def takeItems (id : NodeId) (item count : UInt16) (s : Scene) : Scene :=
  let r := Pack.takeFromParty item count.toNat s.save.party
  let told := r.uncursed.foldl (fun s m => s.call (.itemUncursed m item))
    (s.setSave (s.save.setParty r.party))
  told.remark id s!"removed {r.removed}/{count}x item {item}"

/-- An action on items. -/
def applyItem (a : Action) (id : NodeId) (s : Scene) : Scene :=
  let count := if a.count = 0 then 1 else a.count
  match a.value.toNat with
  | 1 => giveItems id a.object count s
  | 0 => takeItems id a.object count s
  | _ => s.remark id s!"item {a.object} left unchanged (operation {a.value})"

/-- An action on gold or food. -/
def applyCurrency (a : Action) (settings : Settings) (id : NodeId) (c : Currency) (s : Scene) :
    Scene :=
  let amount := a.object.toUInt32
  let unit := c.unitWeight settings
  let before := s.save.party.map c.balance
  match a.value.toNat with
  | 1 =>
    let after := Purse.payIn before amount
    (s.setSave (s.save.setParty (c.settleAll unit s.save.party after))).remark id
      s!"{c.inspect} + {amount}"
  | 0 =>
    let (after, taken) := Purse.takeOut before amount
    let s' :=
      if taken < amount then
        s.remark id s!"party could only give up {taken} of {amount} {c.inspect}"
      else s
    (s'.setSave (s.save.setParty (c.settleAll unit s.save.party after))).remark id
      s!"{c.inspect} - {amount}"
  | _ => s.remark id s!"{c.inspect} left unchanged (operation {a.value})"

/-- An action on an ailment of the acting member. -/
def applyAilment (a : Action) (id : NodeId) (ailment : Ailment) (s : Scene) : Scene :=
  match s.save.actor? with
  | none => s.warnOf id "no active party member for ailment change"
  | some member =>
    let on := flagAfter a.value (member.hasAilment ailment)
    let save := s.save.reviseMember s.save.activeMember.toNat fun m => m.setAilment ailment on
    (s.setSave save).remark id s!"{member.name} {ailment.inspect} = {inspectBool on}"

/-- The scene after an action on one flag: `read` and `write` are the flag's reader and writer, and
`what` names it in the log. -/
def applyFlag (a : Action) (id : NodeId) (what : String) (read : Savegame → Bool)
    (write : Savegame → Bool → Savegame) (s : Scene) : Scene :=
  let on := flagAfter a.value (read s.save)
  (s.setSave (write s.save on)).remark id s!"{what} = {inspectBool on}"

/-- **What an action does to a scene**, unless it names a facing or an ailment that does not
exist. -/
def effect (a : Action) (settings : Settings) (id : NodeId) : Except ChainError (Scene → Scene) :=
  match a.kind with
  | .setGlobalVariable =>
    .ok (a.applyFlag id s!"global variable {a.object}" (·.globalVariable a.object)
      (·.setGlobalVariable a.object))
  | .setEventBit =>
    let address := BitAddress.event a.object
    .ok (a.applyFlag id s!"event bit {address.map}:{address.bit}" (·.eventBit address)
      (·.setEventBit address))
  | .setCharacterBit =>
    let address := BitAddress.character a.object
    .ok (a.applyFlag id s!"character bit {address.map}:{address.bit}" (·.characterBit address)
      (·.setCharacterBit address))
  | .lockDoor =>
    .ok (a.applyFlag id s!"door {a.object} locked" (·.isDoorLocked a.object)
      (·.setDoorLocked a.object))
  | .lockChest =>
    .ok (a.applyFlag id s!"chest {a.object} locked" (·.isChestLocked a.object)
      (·.setChestLocked a.object))
  | .setGameOption =>
    .ok (a.applyFlag id s!"game option {a.object}" (·.gameOption a.object)
      (·.setGameOption a.object))
  | .addKeyword =>
    .ok fun s => (s.setSave (s.save.addWord a.object)).remark id s!"learned word {a.object}"
  | .setDirection =>
    match Direction.all[a.object.toNat]? with
    | none => .error (.corruptData id (.noDirection a.object))
    | some direction =>
      .ok fun s =>
        (s.setSave { s.save with direction := direction }).remark id s!"facing {direction.inspect}"
  | .addAilment =>
    match Ailment.ofIndex? a.object with
    | none => .error (.corruptData id (.noAilment a.object))
    | some ailment => .ok (a.applyAilment id ailment)
  | .addItem => .ok (a.applyItem id)
  | .addGold => .ok (a.applyCurrency settings id .gold)
  | .addFood => .ok (a.applyCurrency settings id .food)

end Action

end TileEvents
