/-
  TileEvents.Walk.Condition
  ─────────────────────────
  **DECIDING CONDITIONS.**

  A condition compares a predicate with its expected value.  Two kinds have no
  predicate of their own: they ask the player for a word or a number, and only
  when the player came with the mouth or with the hand.  All others are
  decided at once from the savegame, the trigger and the status of the walk.

  Three kinds look at a sum over the party, of gold, of food or of copies of an
  item.  The sum is a word.  One that leaves its range starts again at zero; a
  build that checks its additions has no verdict there and breaks down.
-/
import TileEvents.Node.Basic
import TileEvents.Trigger

namespace TileEvents

/-- What comes of looking at a condition. -/
inductive Verdict where
  /-- The predicate was compared with the expected value. -/
  | decided (matched : Bool)
  | awaitWord
  | awaitNumber
  /-- A word or number was wanted from a player who came another way. -/
  | wrongTrigger
  deriving DecidableEq

namespace Condition

/-! ## §1. Sums over the party. -/

/-- What a condition adds up over the party. -/
def sum (c : Condition) (save : Savegame) : UInt32 :=
  match c.kind with
  | .itemOwned => Word.sum32 (save.party.map (·.itemCount c.object))
  | .hasGold => Word.sum32 (save.party.map (·.gold))
  | .hasFood => Word.sum32 (save.party.map (·.food))
  | _ => 0

/-- What a condition adds up over the party where every addition is checked. -/
def checkedSum (c : Condition) (save : Savegame) : Option UInt32 :=
  match c.kind with
  | .itemOwned => (save.party.mapM (Member.checkedItemCount · c.object)).bind Word.checkedSum32
  | .hasGold => Word.checkedSum32 (save.party.map (·.gold))
  | .hasFood => Word.checkedSum32 (save.party.map (·.food))
  | _ => some 0

/-- **Whether a condition has too much to add up.**  A build that checks its additions breaks down
there. -/
def overflows (c : Condition) (save : Savegame) : Bool := (c.checkedSum save).isNone

/-! ## §2. Predicates. -/

/-- The expected result. -/
def expected (c : Condition) : Bool := c.value != 0

/-- The ailment that a condition asks about is one the acting member has. -/
def actorSuffers (save : Savegame) (object : UInt16) : Bool :=
  match Ailment.ofIndex? object, save.actor? with
  | some ailment, some member => member.hasAilment ailment
  | _, _ => false

/-- The predicate of a condition that needs no answer, given what it has added up. -/
def holdsOf (c : Condition) (sum : Nat) (save : Savegame) (trigger : Trigger) (status : Bool) :
    Bool :=
  match c.kind with
  | .globalVariable => save.globalVariable c.object
  | .eventBit => save.eventBit (.event c.object)
  | .doorLocked => save.isDoorLocked c.object
  | .chestLocked => save.isChestLocked c.object
  | .characterBit => save.characterBit (.character c.object)
  | .partyMember => save.party.any (·.character == c.object)
  | .itemOwned => max c.count.toNat 1 ≤ sum
  | .useItem => trigger == .item c.object
  | .knowWord => save.knowsWord c.object
  | .lastEventResult => status
  | .gameOptionSet => save.gameOption c.object
  | .direction => save.direction.code.toNat == c.object.toNat
  | .hasAilment => actorSuffers save c.object
  | .hand => trigger == .hand
  | .levitating => trigger == .levitating
  | .hasGold => c.count.toNat ≤ sum
  | .hasFood => c.count.toNat ≤ sum
  | .eye => trigger == .eye
  | .sayWord => false
  | .enterNumber => false

/-- **The predicate of a condition that needs no answer.** -/
def holds (c : Condition) (save : Savegame) (trigger : Trigger) (status : Bool) : Bool :=
  c.holdsOf (c.sum save).toNat save trigger status

/-! ## §3. Verdicts. -/

/-- **What comes of a condition** when a walk reaches it. -/
def verdict (c : Condition) (save : Savegame) (trigger : Trigger) (status : Bool) : Verdict :=
  match c.kind with
  | .sayWord => if trigger = .mouth then .awaitWord else .wrongTrigger
  | .enterNumber => if trigger = .hand then .awaitNumber else .wrongTrigger
  | _ => .decided (c.holds save trigger status == c.expected)

end Condition

end TileEvents
