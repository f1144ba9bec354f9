/-
  TileEvents.Proofs.Party.Weight
  ──────────────────────────────
  **THE WEIGHT OF GOLD AND FOOD IS KEPT ACCOUNT OF.**

  A member's total weight is stored, not computed, and is changed along with
  every balance.  What a member carries besides gold and food,

      totalWeight − (gold · goldWeight + food · foodWeight),

  therefore never changes.  Three operations on words stop at the end of their
  range on the way: a product, a sum and a difference.  The sum is the only one
  that can really stop there, and a run in which it never does is assumed.

    • `Currency.toNat_weightAfter`      — the weight after one balance, exactly;
    • `Payload.Turns.restWeight`        — no turn of a member changes the rest;
    • `restWeight_playAll`              — nor does any run of a game.
-/
import TileEvents.Proofs.Session.Visits

namespace TileEvents

/-! ## §1. The rest. -/

namespace Member

variable (settings : Settings)

/-- The exact weight of a member's gold and food. -/
def purseWeight (m : Member) : Nat :=
  m.gold.toNat * settings.goldWeight.toNat + m.food.toNat * settings.foodWeight.toNat

/-- **What a member carries besides gold and food**; negative if the total weight is too small. -/
def restWeight (m : Member) : Int := m.totalWeight.toNat - m.purseWeight settings

/-- The exact weight of the gold and the food that `m'` has beyond `m`. -/
def gain (m m' : Member) : Nat :=
  (m'.gold.toNat - m.gold.toNat) * settings.goldWeight.toNat
    + (m'.food.toNat - m.food.toNat) * settings.foodWeight.toNat

variable {settings} {m m' : Member}

theorem restWeight_nonneg :
    0 ≤ m.restWeight settings ↔ m.purseWeight settings ≤ m.totalWeight.toNat := by
  unfold restWeight
  omega

/-- What is lost was carried before. -/
theorem gain_le_purseWeight : m'.gain settings m ≤ m.purseWeight settings :=
  Nat.add_le_add (Nat.mul_le_mul_right _ (Nat.sub_le ..)) (Nat.mul_le_mul_right _ (Nat.sub_le ..))

/-- Damage costs no weight. -/
theorem restWeight_takeDamage (m : Member) (damage : UInt32) :
    (m.takeDamage damage).restWeight settings = m.restWeight settings := by
  unfold takeDamage
  dsimp only
  split <;> rfl

end Member

/-! ## §2. One balance. -/

namespace Currency

/-- **The weight after a balance changed, exactly**: if the old balance was accounted for, and what
is added fits in. -/
theorem toNat_weightAfter (unit new : UInt32) {weight old : UInt32}
    (hold : old.toNat * unit.toNat ≤ weight.toNat)
    (hfits : weight.toNat + (new.toNat - old.toNat) * unit.toNat ≤ 4294967295) :
    (weightAfter unit weight old new).toNat + old.toNat * unit.toNat
      = weight.toNat + new.toNat * unit.toNat := by
  have hweight := weight.toNat_lt
  unfold weightAfter
  split
  case isTrue hle =>
    have hle' : old.toNat ≤ new.toNat := UInt32.le_iff_toNat_le.1 hle
    -- the product fits in because the sum does
    rw [Word.toNat_add32, Word.toNat_mul32, UInt32.toNat_sub_of_le _ _ hle]
    have hsplit : new.toNat * unit.toNat
        = old.toNat * unit.toNat + (new.toNat - old.toNat) * unit.toNat := by
      rw [← Nat.add_mul, Nat.add_sub_cancel' hle']
    omega
  case isFalse hlt =>
    have hle : new ≤ old := UInt32.le_of_lt (UInt32.not_le.1 hlt)
    have hle' : new.toNat ≤ old.toNat := UInt32.le_iff_toNat_le.1 hle
    -- the product fits in, and is no larger than the weight, because the old balance was in it
    rw [Word.toNat_sub32, Word.toNat_mul32, UInt32.toNat_sub_of_le _ _ hle]
    have hsplit : old.toNat * unit.toNat
        = new.toNat * unit.toNat + (old.toNat - new.toNat) * unit.toNat := by
      rw [← Nat.add_mul, Nat.add_sub_cancel' hle']
    omega

/-- A settled balance does not change the rest. -/
theorem settle_restWeight {settings : Settings} {m : Member} (c : Currency) (new : UInt32)
    (hrest : 0 ≤ m.restWeight settings)
    (hfits : m.totalWeight.toNat + m.gain settings (c.settle (c.unitWeight settings) m new)
      ≤ 4294967295) :
    (c.settle (c.unitWeight settings) m new).restWeight settings = m.restWeight settings := by
  rw [Member.restWeight_nonneg] at hrest
  unfold Member.restWeight
  unfold Member.purseWeight at hrest ⊢
  unfold Member.gain at hfits
  -- the other balance is not touched
  cases c with
  | gold =>
      simp only [settle, setBalance, balance, unitWeight] at hfits ⊢
      have hafter := toNat_weightAfter settings.goldWeight new
        (Nat.le_trans (Nat.le_add_right ..) hrest) (by omega)
      omega
  | food =>
      simp only [settle, setBalance, balance, unitWeight] at hfits ⊢
      have hafter := toNat_weightAfter settings.foodWeight new
        (Nat.le_trans (Nat.le_add_left ..) hrest) (by omega)
      omega

end Currency

/-! ## §3. One member. -/

/-- An award changes neither the purse nor the weight. -/
theorem Award.restWeight_revise (a : Award) (amount : UInt32) (m : Member) (settings : Settings) :
    (a.revise amount m).restWeight settings = m.restWeight settings := by
  unfold revise
  cases a.kind with
  | hitPoints =>
      dsimp only
      split
      · exact m.restWeight_takeDamage amount
      · rfl
  | ailmentAt bit =>
      show (reviseAilment a.operation bit m).restWeight settings = _
      unfold reviseAilment
      split <;> rfl
  | _ => rfl

/-- Neither does a trap. -/
theorem Trap.restWeight_revise (t : Trap) (damage : UInt32) (m : Member) (settings : Settings) :
    (t.revise damage m).restWeight settings = m.restWeight settings := by
  unfold revise
  cases t.ailment with
  | none => exact m.restWeight_takeDamage damage
  | some ailment => exact m.restWeight_takeDamage damage

/-- **No turn of a member changes the rest**, unless the weight gained does not fit in. -/
theorem Payload.Turns.restWeight {settings : Settings} {p : Payload} {m m' : Member}
    (h : p.Turns settings m m') (hrest : 0 ≤ m.restWeight settings)
    (hfits : m.totalWeight.toNat + m.gain settings m' ≤ 4294967295) :
    m'.restWeight settings = m.restWeight settings := by
  cases h with
  | same => rfl
  | packed hp hkind hm =>
      obtain ⟨inventory, equipment, rfl⟩ := hm
      rfl
  | ailing => rfl
  | settled c new hp hkind => exact c.settle_restWeight new hrest hfits
  | @awarded a amount hp halive => exact a.restWeight_revise amount m settings
  | @trapped t damage hp halive => exact t.restWeight_revise damage m settings

/-! ## §4. The party. -/

/-- The weight of somebody has no room for what somebody was given. -/
def Visit.Overloads (settings : Settings) (v : Visit) : Prop :=
  ∃ turn ∈ v.before.save.party.zip v.after.save.party,
    4294967295 < turn.1.totalWeight.toNat + turn.1.gain settings turn.2

instance (settings : Settings) (v : Visit) : Decidable (v.Overloads settings) :=
  inferInstanceAs (Decidable (∃ turn ∈ _, _))

/-- Turns of all members leave everybody's rest. -/
theorem Payload.TurnsAll.restWeight {settings : Settings} {p : Payload} {party party' : List Member}
    (h : p.TurnsAll settings party party') (hrest : ∀ m ∈ party, 0 ≤ m.restWeight settings)
    (hfits : ∀ turn ∈ party.zip party',
      turn.1.totalWeight.toNat + turn.1.gain settings turn.2 ≤ 4294967295) :
    party'.map (·.restWeight settings) = party.map (·.restWeight settings) := by
  induction h with
  | nil => rfl
  | @cons m m' party party' hturn _ ih =>
      rw [List.zip_cons_cons, List.forall_mem_cons] at hfits
      rw [List.forall_mem_cons] at hrest
      rw [List.map_cons, List.map_cons, hturn.restWeight hrest.1 hfits.1, ih hrest.2 hfits.2]

/-- If no rest has changed and none was negative, none is. -/
theorem restWeight_nonneg_of_map {settings : Settings} {party party' : List Member}
    (h : party'.map (·.restWeight settings) = party.map (·.restWeight settings))
    (hrest : ∀ m ∈ party, 0 ≤ m.restWeight settings) : ∀ m ∈ party', 0 ≤ m.restWeight settings := by
  intro m hm
  have hmem := List.mem_map_of_mem (f := (·.restWeight settings)) hm
  rw [h] at hmem
  obtain ⟨m₀, hm₀, heq⟩ := List.mem_map.1 hmem
  exact heq ▸ hrest m₀ hm₀

/-! ## §5. A run. -/

/-- **Carried weight stays in step with gold and food.**  Suppose that at the start the total weight
of every member covers gold and food, and that in no visit of a run the weight of a member has too
little room for what the member gains.  Then after every visit, and at the end, everybody carries as
much besides gold and food as at the start, so that never less than nothing is left, and no visit
takes more weight from a member than there was. -/
theorem restWeight_playAll (p : Playthrough) (moves : List Move)
    (hstart : ∀ m ∈ p.save.party, 0 ≤ m.restWeight p.context.settings)
    (hroom : ∀ v ∈ p.allVisits moves, ¬ v.Overloads p.context.settings) :
    (∀ v ∈ p.allVisits moves,
      v.after.save.party.map (·.restWeight p.context.settings)
          = p.save.party.map (·.restWeight p.context.settings)
        ∧ (∀ m ∈ v.after.save.party, 0 ≤ m.restWeight p.context.settings)
        ∧ ∀ turn ∈ v.before.save.party.zip v.after.save.party,
            turn.2.gain p.context.settings turn.1 ≤ turn.1.totalWeight.toNat)
      ∧ (p.playAll moves).2.save.party.map (·.restWeight p.context.settings)
          = p.save.party.map (·.restWeight p.context.settings)
      ∧ ∀ m ∈ (p.playAll moves).2.save.party, 0 ≤ m.restWeight p.context.settings := by
  obtain ⟨hvisits, hlast⟩ := Playthrough.playAll_party
    (P := fun party => party.map (·.restWeight p.context.settings)
      = p.save.party.map (·.restWeight p.context.settings)) moves p
    (fun v hv hbefore => by
      have hturns := p.allVisits_turn moves v hv
      have hrest := restWeight_nonneg_of_map hbefore hstart
      have hfits := fun turn hturn => Nat.le_of_not_lt fun hover => hroom v hv ⟨turn, hturn, hover⟩
      exact (hturns.restWeight hrest hfits).trans hbefore) rfl
  refine ⟨?_, hlast, restWeight_nonneg_of_map hlast hstart⟩
  intro v hv
  obtain ⟨hbefore, hafter⟩ := hvisits v hv
  refine ⟨hafter, restWeight_nonneg_of_map hafter hstart, ?_⟩
  intro turn hturn
  have hmember := restWeight_nonneg_of_map hbefore hstart turn.1 (List.of_mem_zip hturn).1
  exact Nat.le_trans Member.gain_le_purseWeight (Member.restWeight_nonneg.1 hmember)

/-- A game of two in which gold and then food is paid in, and more gold is taken than there is. -/
def Playthrough.payday : Playthrough :=
  let gold : Node := ⟨⟨0⟩, .action, some ⟨1⟩, .action ⟨.addGold, 7, 1, 0⟩⟩
  let food : Node := ⟨⟨1⟩, .action, some ⟨2⟩, .action ⟨.addFood, 3, 1, 0⟩⟩
  let toll : Node := ⟨⟨2⟩, .action, none, .action ⟨.addGold, 20, 0, 0⟩⟩
  let party : List Member := [{ Member.blank with gold := 10, totalWeight := 60 }, .blank]
  .start [.ofNodes [gold, food, toll] [⟨0⟩]] { Savegame.blank with party := party } (.ofScript [])
    (.plain [])

/-- The two end with food alone, and with the rest they began with. -/
theorem restWeight_playAll_payday :
    let moves : List Move := [.character 0 1 0 0 .talk]
    let party := (Playthrough.payday.playAll moves).2.save.party
    (Playthrough.payday.allVisits moves).length = 3
      ∧ party.map (fun m => (m.gold, m.food, m.totalWeight)) = [(0, 2, 510), (0, 1, 250)]
      ∧ party.map (·.restWeight .builtin) = [10, 0] := by
  intro moves party
  have hstart : ∀ m ∈ Playthrough.payday.save.party, 0 ≤ m.restWeight .builtin := by decide
  have hroom : ∀ v ∈ Playthrough.payday.allVisits moves, ¬ v.Overloads .builtin := by decide +kernel
  exact ⟨by decide +kernel, by decide +kernel,
    (restWeight_playAll Playthrough.payday moves hstart hroom).2.1⟩

end TileEvents
