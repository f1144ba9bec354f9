/-
  TileEvents.Walk.Award
  ─────────────────────
  **AWARDS AND TRAPS.**

  An award or a trap reaches living members only: the acting member or the
  whole party.  Its targets are settled before anything changes.  A random
  award throws its amount anew for every target, and so does a trap with some
  base damage.  What an award does to one member is `Award.revise`; what the
  log says about it is `Award.remarks`.
-/
import TileEvents.Error
import TileEvents.Node.Basic
import TileEvents.Scene
import TileEvents.Walk.Prompt
import TileEvents.Word

namespace TileEvents

/-! ## §1. Targets. -/

/-- The positions of the living members, the first member standing at `position`. -/
def livingFrom (position : Nat) : List Member → List Nat
  | [] => []
  | m :: rest =>
    if m.isAlive then position :: livingFrom (position + 1) rest else livingFrom (position + 1) rest

/-- The positions an audience reaches, ascending; the dead are passed over. -/
def Audience.members (a : Audience) (party : List Member) (active : Nat) : List Nat :=
  match a with
  | .activePlayer => if party[active]?.any Member.isAlive then [active] else []
  | .everyone => livingFrom 0 party

/-! ## §2. What an award does to one member. -/

namespace Award

/-- A stat after an operation: never above its largest value. -/
def reviseStat (operation : AwardOperation) (amount : UInt32) (s : Stat) : Stat :=
  let wanted :=
    match operation with
    | .increase => Word.add32 s.current amount
    | .decrease => Word.sub32 s.current amount
    | .increasePercentage => Word.add32 s.current (Word.percentOf s.max amount)
    | .decreasePercentage => Word.sub32 s.current (Word.percentOf s.max amount)
    | .fill => s.max
    | .remove | .add => s.current
  { s with current := if wanted ≤ s.max then wanted else s.max }

/-- A counter after an operation. -/
def reviseCounter (operation : AwardOperation) (amount counter : UInt32) : UInt32 :=
  match operation with
  | .increase => Word.add32 counter amount
  | .decrease => Word.sub32 counter amount
  | .increasePercentage => Word.add32 counter (Word.percentOf counter amount)
  | .decreasePercentage => Word.sub32 counter (Word.percentOf counter amount)
  | .fill | .remove | .add => counter

/-- A set of eight bits after an operation on one of them; others than adding and removing do
nothing, and neither does a bit that does not exist. -/
def reviseBits (operation : AwardOperation) (bit : UInt16) (bits : UInt8) : UInt8 :=
  if bit < 8 then
    let mask : UInt8 := 1 <<< bit.toUInt8
    match operation with
    | .add => bits ||| mask
    | .remove => bits &&& ~~~mask
    | _ => bits
  else bits

/-- An ailment after an operation: adding and removing are the only ones. -/
def reviseAilment (operation : AwardOperation) (bit : UInt16) (m : Member) : Member :=
  match Ailment.ofIndex? bit, operation with
  | some ailment, .add => m.setAilment ailment true
  | some ailment, .remove => m.setAilment ailment false
  | _, _ => m

/-- **A member after an award of `amount`.**  Losing hit points is damage and can kill. -/
def revise (a : Award) (amount : UInt32) (m : Member) : Member :=
  match a.kind with
  | .hitPoints =>
    if a.operation = .decrease then m.takeDamage amount
    else { m with hitPoints := reviseStat a.operation amount m.hitPoints }
  | .spellPoints => { m with spellPoints := reviseStat a.operation amount m.spellPoints }
  | .attributeAt index =>
    { m with attributes := m.attributes.modify index.toNat (reviseStat a.operation amount) }
  | .skillAt index =>
    { m with skills := m.skills.modify index.toNat (reviseStat a.operation amount) }
  | .spellLearningPoints =>
    { m with spellLearningPoints := reviseCounter a.operation amount m.spellLearningPoints }
  | .experience => { m with experience := reviseCounter a.operation amount m.experience }
  | .trainingPoints => { m with trainingPoints := reviseCounter a.operation amount m.trainingPoints }
  | .ailmentAt bit => reviseAilment a.operation bit m
  | .spellTypeAt bit => { m with spellSchools := reviseBits a.operation bit m.spellSchools }
  | .languageAt bit => { m with languages := reviseBits a.operation bit m.languages }

/-! ## §3. What the log says. -/

/-- The warning about an operation on a bit, if it was in vain. -/
def bitRemarks (id : NodeId) (operation : AwardOperation) (bit : UInt16) : List Record :=
  if bit < 8 then
    match operation with
    | .add | .remove => []
    | other => [⟨.warn, id.remark s!"bit award with {other.inspect} ignored"⟩]
  else [⟨.warn, id.remark s!"bit {bit} out of range"⟩]

/-- The remark about what an award did to `m`, who had not received it yet. -/
def effectRemarks (a : Award) (id : NodeId) (amount : UInt32) (m : Member) : List Record :=
  match a.kind with
  | .hitPoints =>
    if a.operation = .decrease then
      [⟨.info, id.remark s!"{m.name} loses {m.damageTaken amount} HP"⟩]
    else []
  | .attributeAt index =>
    if index.toNat < m.attributes.length then []
    else [⟨.warn, id.remark s!"{m.name} has no attribute {index}"⟩]
  | .skillAt index =>
    if index.toNat < m.skills.length then []
    else [⟨.warn, id.remark s!"{m.name} has no skill {index}"⟩]
  | .ailmentAt bit =>
    match Ailment.ofIndex? bit, a.operation with
    | some _, .add => []
    | some _, .remove => []
    | _, _ =>
      [⟨.warn, id.remark s!"ailment award {bit} with {a.operation.inspect} ignored"⟩]
  | .spellTypeAt bit | .languageAt bit => bitRemarks id a.operation bit
  | _ => []

/-- All remarks about an award to `m`. -/
def remarks (a : Award) (id : NodeId) (amount : UInt32) (m : Member) : List Record :=
  a.effectRemarks id amount m
    ++ [⟨.info, id.remark s!"award {a.kind.inspect} {a.operation.inspect} {amount} to {m.name}"⟩]

/-! ## §4. Awards. -/

/-- The amount for one target. -/
def amountFor (a : Award) (s : Scene) : UInt32 × Scene :=
  if a.random then s.throwDice 1 a.value.toUInt32 else (a.value.toUInt32, s)

/-- The scene after the award reached the member at one position. -/
def reach (a : Award) (id : NodeId) (s : Scene) (position : Nat) : Scene :=
  let (amount, s) := a.amountFor s
  match s.save.party[position]? with
  | none => s
  | some m =>
    (s.setSave (s.save.reviseMember position (a.revise amount))).notes (a.remarks id amount m)

/-- **The scene after an award.** -/
def apply (a : Award) (id : NodeId) (s : Scene) : Scene :=
  if a.random && a.value == 0 then
    s.remark id s!"random award {a.kind.inspect} rolls nothing (value 0)"
  else
    match a.target.members s.save.party s.save.activeMember.toNat with
    | [] => s.warnOf id s!"award {a.kind.inspect} has no living target"
    | targets => targets.foldl (a.reach id) s

end Award

/-! ## §5. Traps. -/

namespace Trap

/-- The damage thrown for one target. -/
def damageFor (t : Trap) (s : Scene) : UInt32 × Scene :=
  if t.baseDamage = 0 then (0, s) else s.throwDice 1 t.baseDamage.toUInt32

/-- A member after the trap: hurt, and with the trap's ailment. -/
def revise (t : Trap) (damage : UInt32) (m : Member) : Member :=
  match t.ailment with
  | none => m.takeDamage damage
  | some ailment => (m.takeDamage damage).setAilment ailment true

/-- The trap reaches the members at these positions in turn. -/
def reach (t : Trap) (id : NodeId) : List Nat → Scene → List TrapHit × Scene
  | [], s => ([], s)
  | position :: rest, s =>
    let (thrown, s) := t.damageFor s
    match s.save.party[position]? with
    | none => t.reach id rest s
    | some m =>
      let damage := m.damageTaken thrown
      let s := (s.setSave (s.save.reviseMember position (t.revise thrown))).remark id
        s!"trap hits {m.name} for {damage}"
      let (hits, s) := t.reach id rest s
      (⟨position, damage, t.ailment⟩ :: hits, s)

/-- **The hits of a trap and the scene after it.** -/
def spring (t : Trap) (id : NodeId) (s : Scene) : List TrapHit × Scene :=
  t.reach id (t.target.members s.save.party s.save.activeMember.toNat) s

end Trap

end TileEvents
