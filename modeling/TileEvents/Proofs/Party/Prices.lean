/-
  TileEvents.Proofs.Party.Prices
  ──────────────────────────────
  **A PRICE THAT IS CHECKED IS A PRICE THAT IS PAID.**

  A script asks with a condition whether the party has the price and takes it
  with an action.  The condition adds up at once what all members have; the
  action goes through them in rounds.  Both have the same total before them,
  if it is no more than the condition can add up: an action takes the price or
  all there is, so that it takes just the price where, and only where, the
  condition holds.

    • `Condition.verdict_currency`, `Condition.verdict_itemOwned` — what is asked;
    • `Action.applyCurrency_takes`, `Action.takeItems_takes`      — what is taken;
    • `price_checked_iff_paid`                                    — they agree.
-/
import TileEvents.Proofs.Party.Curses
import TileEvents.Proofs.Party.Sharing
import TileEvents.Proofs.Party.Sums
import TileEvents.Proofs.Sample

namespace TileEvents

/-! ## §1. What the party has. -/

namespace Currency

/-- The kind of condition that asks for this currency. -/
def conditionKind : Currency → ConditionKind
  | gold => .hasGold
  | food => .hasFood

/-- What all members together have of it. -/
def total (c : Currency) (party : List Member) : Nat := Purse.total (party.map c.balance)

/-- After a settlement everyone has the new balance. -/
theorem balances_settleAll (c : Currency) (unit : UInt32) {party : List Member}
    {balances : List UInt32} (h : balances.length = party.length) :
    (c.settleAll unit party balances).map c.balance = balances := by
  have hsettle (m : Member) (new : UInt32) : c.balance (c.settle unit m new) = new := by
    cases c <;> rfl
  induction party generalizing balances with
  | nil =>
      rw [List.length_eq_zero_iff.1 h]
      rfl
  | cons m rest ih =>
      cases balances with
      | nil => cases h
      | cons b bs =>
          show c.balance (c.settle unit m b) :: (c.settleAll unit rest bs).map c.balance = _
          rw [hsettle, ih (Nat.succ.inj h)]

end Currency

/-! ## §2. What is asked. -/

namespace Condition

section

variable (object value count : UInt16) (alternate : Option NodeId)
variable (save : Savegame) (trigger : Trigger) (status : Bool)

theorem verdict_currency (c : Currency) (hfits : c.total save.party < UInt32.size) :
    (Condition.mk c.conditionKind object value count alternate).verdict save trigger status
      = .decided (decide (count.toNat ≤ c.total save.party) == (value != 0)) := by
  have hamount : (Condition.mk c.conditionKind object value count alternate).amount save.party
      = c.total save.party := by
    cases c <;> rfl
  have hholds := holds_of_fits (Condition.overflows_eq_false (hamount ▸ hfits)) trigger status
  rw [hamount] at hholds
  cases c with
  | gold | food => exact congrArg (fun holds => Verdict.decided (holds == (value != 0))) hholds

theorem verdict_itemOwned (hfits : Pack.owned object save.party < UInt32.size) :
    (Condition.mk .itemOwned object value count alternate).verdict save trigger status
      = .decided (decide (max count.toNat 1 ≤ Pack.owned object save.party) == (value != 0)) :=
  congrArg (fun holds => Verdict.decided (holds == (value != 0)))
    (holds_of_fits (c := ⟨.itemOwned, object, value, count, alternate⟩) (overflows_eq_false hfits)
      trigger status)

end

/-- A condition that expects its predicate to hold matches if it does. -/
theorem decided_iff {value : UInt16} (hvalue : value ≠ 0) (p : Prop) [Decidable p] :
    Verdict.decided (decide p == (value != 0)) = .decided true ↔ p := by
  have hexpected : (value != 0) = true := bne_iff_ne.2 hvalue
  simp [hexpected]

end Condition

/-! ## §3. What is taken. -/

namespace Action

/-- An action takes the sum or all there is. -/
theorem applyCurrency_takes {a : Action} (ha : a.value = 0) (settings : Settings) (id : NodeId)
    (c : Currency) (s : Scene) :
    c.total (a.applyCurrency settings id c s).save.party
        + min a.object.toNat (c.total s.save.party)
      = c.total s.save.party := by
  have hparty : (a.applyCurrency settings id c s).save.party
      = c.settleAll (c.unitWeight settings) s.save.party
          (Purse.takeOut (s.save.party.map c.balance) a.object.toUInt32).1 := by
    unfold applyCurrency
    rw [ha]
    rfl
  have hlength : (Purse.takeOut (s.save.party.map c.balance) a.object.toUInt32).1.length
      = s.save.party.length := (Purse.length_takeOut _ _).trans (List.length_map _)
  have htaken := Purse.total_takeOut (s.save.party.map c.balance) a.object.toUInt32
  rw [Purse.due, UInt16.toNat_toUInt32] at htaken
  rw [hparty]
  unfold Currency.total
  rw [c.balances_settleAll _ hlength]
  exact htaken

/-- An action takes the copies or all there are. -/
theorem takeItems_takes (id : NodeId) (item count : UInt16) (s : Scene) :
    Pack.owned item (takeItems id item count s).save.party
        + min count.toNat (Pack.owned item s.save.party)
      = Pack.owned item s.save.party := by
  rw [(takeItems_party id item count s).1]
  exact (Pack.owned_takeFromParty item count.toNat s.save.party).2

/-- At least one copy is meant. -/
theorem toNat_copies (count : UInt16) : (copies count).toNat = max count.toNat 1 := by
  unfold copies
  split
  case isTrue hzero =>
    rw [hzero]
    rfl
  case isFalse hpos =>
    have hpos : count.toNat ≠ 0 := fun hzero => hpos (UInt16.toNat_inj.1 hzero)
    omega

end Action

/-! ## §4. The price. -/

/-- **A price that is checked is a price that is paid.**  Where what the party has is a word, a
condition for gold or food that expects to hold matches if and only if the action with that sum takes
just the sum from the party, and a condition for items if and only if the action with that item and
count takes just so many copies, one for a count of zero. -/
theorem price_checked_iff_paid (settings : Settings) (id : NodeId) (s : Scene) (trigger : Trigger)
    (status : Bool) (alternate : Option NodeId) {value : UInt16} (hvalue : value ≠ 0) :
    (∀ (c : Currency) (price object spare : UInt16), ∃ take,
        (Action.mk c.kind price 0 spare).effect settings id = .ok take
        ∧ (c.total s.save.party < UInt32.size →
            ((Condition.mk c.conditionKind object value price alternate).verdict
                s.save trigger status = .decided true
              ↔ c.total (take s).save.party + price.toNat = c.total s.save.party)))
      ∧ ∀ item count : UInt16, ∃ take,
          (Action.mk .addItem item 0 count).effect settings id = .ok take
          ∧ (Pack.owned item s.save.party < UInt32.size →
              ((Condition.mk .itemOwned item value count alternate).verdict
                  s.save trigger status = .decided true
                ↔ Pack.owned item (take s).save.party + max count.toNat 1
                    = Pack.owned item s.save.party)) := by
  constructor
  · intro c price object spare
    refine ⟨(Action.mk c.kind price 0 spare).applyCurrency settings id c, by cases c <;> rfl,
      fun hfits => ?_⟩
    have htakes := (Action.mk c.kind price 0 spare).applyCurrency_takes rfl settings id c s
    rw [Condition.verdict_currency _ _ _ _ _ _ _ c hfits, Condition.decided_iff hvalue]
    dsimp only at htakes
    omega
  · intro item count
    refine ⟨Action.takeItems id item (Action.copies count), rfl, fun hfits => ?_⟩
    have htakes := Action.takeItems_takes id item (Action.copies count) s
    rw [Action.toNat_copies] at htakes
    rw [Condition.verdict_itemOwned _ _ _ _ _ _ _ hfits, Condition.decided_iff hvalue]
    omega

/-- Two members have fifteen pieces of gold and three copies of an item: a price of fifteen is paid
and one of sixteen is not, and a count of zero asks for one copy and takes one. -/
theorem price_checked_iff_paid_fifteen :
    let s := Scene.blank.setSave { Savegame.blank with
      party := [{ Member.blank with gold := 10, inventory := [⟨7, 1, false⟩] },
        { Member.blank with gold := 5, equipment := [⟨7, 2, true⟩] }] }
    (∃ take, (Action.mk .addGold 15 0 0).effect .builtin ⟨0⟩ = .ok take
        ∧ Currency.gold.total (take s).save.party + 15 = 15)
      ∧ (∃ take, (Action.mk .addGold 16 0 0).effect .builtin ⟨0⟩ = .ok take
        ∧ Currency.gold.total (take s).save.party + 16 ≠ 15)
      ∧ ∃ take, (Action.mk .addItem 7 0 0).effect .builtin ⟨0⟩ = .ok take
        ∧ Pack.owned 7 (take s).save.party + 1 = 3 := by
  intro s
  obtain ⟨hcurrency, hitems⟩ :=
    price_checked_iff_paid .builtin ⟨0⟩ s .hand false none (show (1 : UInt16) ≠ 0 by decide)
  refine ⟨?_, ?_, ?_⟩
  · obtain ⟨take, htake, hpaid⟩ := hcurrency .gold 15 0 0
    exact ⟨take, htake, (hpaid (by decide)).1 (by decide)⟩
  · obtain ⟨take, htake, hpaid⟩ := hcurrency .gold 16 0 0
    exact ⟨take, htake, fun h => absurd ((hpaid (by decide)).2 h) (by decide)⟩
  · obtain ⟨take, htake, hpaid⟩ := hitems 7 0
    exact ⟨take, htake, (hpaid (by decide)).1 (by decide)⟩

end TileEvents
