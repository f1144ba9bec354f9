/-
  TileEvents.Proofs.Party.Sums
  ────────────────────────────
  **WHAT A CONDITION ADDS UP.**

  A condition on means or items adds words up, for items first those of every
  member and then these sums.  Either way it is one sum over one list of
  words, which may be too large for a word:

      sum  =  amount % 2^32,      overflows  ↔  2^32 ≤ amount

  where the amount is what the party really has.

    • `summands`, `amount`        — the words, and what they come to;
    • `sum_eq`, `checkedSum_eq`   — a condition adds up these words;
    • `toNat_sum`, `overflows_iff` — with and without checks;
    • `holds_of_fits`             — where all fits, the predicate is about the amount.
-/
import TileEvents.Proofs.Party.Removal
import TileEvents.Walk.Condition

namespace TileEvents

/-- The stacks of a member are those carried and those worn. -/
theorem Member.total_stackSizes (m : Member) (item : UInt16) :
    Word.total ((m.stackSizes item).map UInt32.toNat)
      = ItemSlot.count item m.inventory + ItemSlot.count item m.equipment := by
  have htoNat (slots : List ItemSlot) :
      (slots.map (·.amount.toUInt32)).map UInt32.toNat = slots.map (·.amount.toNat) := by
    rw [List.map_map]
    exact List.map_congr_left fun s _ => UInt16.toNat_toUInt32 s.amount
  rw [stackSizes, htoNat, List.filter_append, List.map_append, Word.total_append]
  rfl

namespace Condition

/-! ## §1. The words. -/

/-- The words that a condition adds up. -/
def summands (c : Condition) (party : List Member) : List UInt32 :=
  match c.kind with
  | .itemOwned => (party.map (·.stackSizes c.object)).flatten
  | .hasGold => party.map (·.gold)
  | .hasFood => party.map (·.food)
  | _ => []

/-- **What the party really has** of what a condition adds up. -/
def amount (c : Condition) (party : List Member) : Nat :=
  match c.kind with
  | .itemOwned => Pack.owned c.object party
  | .hasGold => Purse.total (party.map (·.gold))
  | .hasFood => Purse.total (party.map (·.food))
  | _ => 0

theorem total_summands (c : Condition) (party : List Member) :
    Word.total ((c.summands party).map UInt32.toNat) = c.amount party := by
  obtain ⟨kind, object, value, count, alternate⟩ := c
  cases kind with
  | itemOwned =>
      show Word.total ((party.map (·.stackSizes object)).flatten.map UInt32.toNat)
        = Pack.owned object party
      induction party with
      | nil => rfl
      | cons m rest ih =>
          rw [List.map_cons, List.flatten_cons, List.map_append, Word.total_append, ih,
            m.total_stackSizes]
          rfl
  | _ => rfl

/-! ## §2. The sum. -/

theorem sum_eq (c : Condition) (save : Savegame) :
    c.sum save = Word.sum32 (c.summands save.party) := by
  obtain ⟨kind, object, value, count, alternate⟩ := c
  cases kind with
  | itemOwned =>
      show Word.sum32 (save.party.map (·.itemCount object)) = _
      rw [summands, ← Word.sum32_flatten, List.map_map]
      rfl
  | _ => rfl

theorem checkedSum_eq (c : Condition) (save : Savegame) :
    c.checkedSum save = Word.checkedSum32 (c.summands save.party) := by
  obtain ⟨kind, object, value, count, alternate⟩ := c
  cases kind with
  | itemOwned =>
      show (save.party.mapM (Member.checkedItemCount · object)).bind Word.checkedSum32 = _
      rw [summands, ← Word.checkedSum32_flatten, List.mapM_map]
      rfl
  | _ => rfl

/-- **The sum is what the party has**, less what went over the end of a word. -/
theorem toNat_sum (c : Condition) (save : Savegame) :
    (c.sum save).toNat = c.amount save.party % UInt32.size := by
  rw [sum_eq, Word.toNat_sum32, total_summands]

/-- **A condition overflows where the party has more than a word can hold.** -/
theorem overflows_iff (c : Condition) (save : Savegame) :
    c.overflows save = true ↔ UInt32.size ≤ c.amount save.party := by
  rw [overflows, checkedSum_eq, Word.checkedSum32_eq, total_summands]
  split
  · next hfits => exact ⟨fun h => absurd h (by simp), fun h => absurd hfits (Nat.not_lt.2 h)⟩
  · next hover => exact ⟨fun _ => Nat.not_lt.1 hover, fun _ => rfl⟩

/-- It does not where the party has less. -/
theorem overflows_eq_false {c : Condition} {save : Savegame}
    (h : c.amount save.party < UInt32.size) : c.overflows save = false := by
  rw [← Bool.not_eq_true, overflows_iff]
  exact Nat.not_le.2 h

/-- **Where the sum is a word, the predicate is about what the party has.** -/
theorem holds_of_fits {c : Condition} {save : Savegame} (h : c.overflows save = false)
    (trigger : Trigger) (status : Bool) :
    c.holds save trigger status = c.holdsOf (c.amount save.party) save trigger status := by
  rw [← Bool.not_eq_true, overflows_iff] at h
  rw [holds, toNat_sum, Nat.mod_eq_of_lt (Nat.not_le.1 h)]

end Condition

end TileEvents
