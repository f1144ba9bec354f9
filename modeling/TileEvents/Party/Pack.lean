/-
  TileEvents.Party.Pack
  ─────────────────────
  **GIVING AND TAKING ITEMS.**

  A gift goes to one member and joins the first uncursed stack of the item, or
  starts a stack of its own.  A removal works through the inventories of the
  whole party in order and only then through the equipment; a stack that loses
  copies loses its curse, and empty stacks vanish from every list that the
  removal visits.  A member whose equipment lost a cursed copy is reported.
-/
import TileEvents.Party.Member
import TileEvents.Word

namespace TileEvents.Pack

/-! ## §1. Gifts. -/

/-- `slots` with `amount` copies of `item` added. -/
def put (item : UInt16) (amount : UInt16) : List ItemSlot → List ItemSlot
  | [] => [⟨item, amount, false⟩]
  | s :: rest =>
    if s.item == item && !s.cursed then
      { s with amount := Word.clamp16 (s.amount.toNat + amount.toNat) } :: rest
    else s :: put item amount rest

/-! ## §2. Removals from one list of stacks. -/

/-- What became of a list of stacks. -/
structure Removal where
  slots : List ItemSlot
  /-- The copies that are still to be found elsewhere. -/
  missing : Nat
  /-- Whether a cursed stack lost a copy. -/
  curseLifted : Bool

/-- Take up to `wanted` copies from the stacks in order, leaving empty stacks in place. -/
def drain (item : UInt16) : Nat → List ItemSlot → Removal
  | wanted, [] => ⟨[], wanted, false⟩
  | wanted, s :: rest =>
    if s.item == item then
      let taken := min wanted s.amount.toNat
      let r := drain item (wanted - taken) rest
      let lifted := s.cursed && decide (0 < taken)
      { slots := ⟨s.item, s.amount - UInt16.ofNat taken, s.cursed && !lifted⟩ :: r.slots
        missing := r.missing
        curseLifted := lifted || r.curseLifted }
    else
      let r := drain item wanted rest
      { r with slots := s :: r.slots }

/-- Take up to `wanted` copies and drop every empty stack. -/
def take (item : UInt16) (wanted : Nat) (slots : List ItemSlot) : Removal :=
  let r := drain item wanted slots
  { r with slots := r.slots.filter fun s => decide (0 < s.amount.toNat) }

/-! ## §3. Removals from the party. -/

/-- Take up to `wanted` copies from the inventories in party order; also what is missing. -/
def takeCarried (item : UInt16) : Nat → List Member → List Member × Nat
  | wanted, [] => ([], wanted)
  | wanted, m :: rest =>
    let r := take item wanted m.inventory
    let (rest', missing) := takeCarried item r.missing rest
    ({ m with inventory := r.slots } :: rest', missing)

/-- Take up to `wanted` copies from the equipment in party order, the first member standing at
`position`; also what is missing and the positions of those who lost a cursed copy. -/
def takeWorn (item : UInt16) : Nat → Nat → List Member → List Member × Nat × List Nat
  | _, wanted, [] => ([], wanted, [])
  | position, wanted, m :: rest =>
    let r := take item wanted m.equipment
    let (rest', missing, uncursed) := takeWorn item (position + 1) r.missing rest
    ({ m with equipment := r.slots } :: rest', missing,
      if r.curseLifted then position :: uncursed else uncursed)

/-- What a removal did to the party. -/
structure PartyRemoval where
  party : List Member
  removed : Nat
  /-- The positions of the members who lost a cursed copy they wore, ascending. -/
  uncursed : List Nat

/-- **Take up to `wanted` copies of `item` from the party.** -/
def takeFromParty (item : UInt16) (wanted : Nat) (party : List Member) : PartyRemoval :=
  let (afterCarried, stillWanted) := takeCarried item wanted party
  let (afterWorn, missing, uncursed) := takeWorn item 0 stillWanted afterCarried
  { party := afterWorn, removed := wanted - missing, uncursed := uncursed }

end TileEvents.Pack
