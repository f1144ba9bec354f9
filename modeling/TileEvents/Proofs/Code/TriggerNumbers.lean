/-
  TileEvents.Proofs.Code.TriggerNumbers
  ─────────────────────────────────────
  **TRIGGERS AND THEIR NUMBERS.**

  The stored form of a trigger is a number of 16 bits: six for the triggers
  that are no item, and from `firstItem` on one for each item.  Every number
  stands for a trigger and is the number of that trigger.  The other way round
  it cannot be so: there are six triggers more than numbers
  (`not_injective_number`), and the items that come last have to share the last
  number.  Each of them is read back as the first that has it, `lastItem`.

    • `toRaw_ofRaw`          — what is read from a number has that number;
    • `ofRaw_toRaw`          — what fits is read back, the rest as `lastItem`;
    • `numbers_round_trip`   — both, and no two that fit have one number;
    • `item_read_as_another` — an item that does not fit.
-/
import Mathlib.Data.FinEnum
import TileEvents.Trigger

namespace TileEvents.Trigger

/-! ## §1. Numbers of items. -/

/-- The last item for which 16 bits have room behind the other six. -/
def lastItem : UInt16 := 65529

/-- **The trigger fits into 16 bits**: it is no item beyond `lastItem`. -/
def Fits : Trigger → Prop
  | item index => index ≤ lastItem
  | _ => True

instance : DecidablePred Fits
  | item index => inferInstanceAs (Decidable (index ≤ lastItem))
  | move | eye | hand | mouth | always | levitating => .isTrue trivial

theorem item_fits_iff {index : UInt16} : (item index).Fits ↔ index.toNat ≤ 65529 :=
  UInt16.le_iff_toNat_le

theorem toRaw_item (index : UInt16) : (item index).toRaw.toNat = min (6 + index.toNat) 65535 := by
  refine UInt16.toNat_ofNat_of_lt' ?_
  show min (6 + index.toNat) 65535 < 65536
  omega

theorem ofRaw_of_le {raw : UInt16} (h : 6 ≤ raw.toNat) :
    ofRaw raw = item (.ofNat (raw.toNat - 6)) := by
  unfold ofRaw
  split
  case h_7 => rfl
  all_goals omega

/-! ## §2. Back and forth. -/

/-- **What is read from a number has that number.** -/
theorem toRaw_ofRaw (raw : UInt16) : (ofRaw raw).toRaw = raw := by
  rcases Nat.lt_or_ge raw.toNat 6 with hsmall | hlarge
  · -- one of the six that are no item
    have hsix : ∀ n < 6, (ofRaw (.ofNat n)).toRaw = .ofNat n := by decide
    have hraw := hsix raw.toNat hsmall
    rwa [UInt16.ofNat_toNat] at hraw
  · have hlt : raw.toNat < 65536 := raw.toNat_lt
    have hindex : (UInt16.ofNat (raw.toNat - 6)).toNat = raw.toNat - 6 :=
      UInt16.toNat_ofNat_of_lt' (Nat.lt_of_le_of_lt (Nat.sub_le _ _) hlt)
    refine UInt16.toNat_inj.1 ?_
    rw [ofRaw_of_le hlarge, toRaw_item, hindex]
    omega

/-- An item is read back as the item itself or as `lastItem`, whichever is less. -/
theorem ofRaw_toRaw_item (index : UInt16) :
    ofRaw (item index).toRaw = item (.ofNat (min index.toNat 65529)) := by
  have hraw := toRaw_item index
  -- no item has the number of one of the six
  have hlarge : 6 ≤ (item index).toRaw.toNat := by omega
  rw [ofRaw_of_le hlarge, hraw]
  congr 2
  omega

/-- **A trigger that fits is read back**, and any other is read back as `lastItem`. -/
theorem ofRaw_toRaw (t : Trigger) : ofRaw t.toRaw = if t.Fits then t else item lastItem := by
  cases t with
  | item index =>
      rw [ofRaw_toRaw_item]
      by_cases hfits : (item index).Fits
      · have hle : index.toNat ≤ 65529 := item_fits_iff.1 hfits
        rw [if_pos hfits, Nat.min_eq_left hle, UInt16.ofNat_toNat]
      · have hgt : 65529 ≤ index.toNat := by
          rw [item_fits_iff] at hfits
          omega
        rw [if_neg hfits, Nat.min_eq_right hgt]
        rfl
  | _ => rfl

/-- **Triggers that fit have numbers of their own.** -/
theorem toRaw_inj {t u : Trigger} (ht : t.Fits) (hu : u.Fits) (h : t.toRaw = u.toRaw) : t = u := by
  have hread : ofRaw t.toRaw = ofRaw u.toRaw := congrArg ofRaw h
  rwa [ofRaw_toRaw, ofRaw_toRaw, if_pos ht, if_pos hu] at hread

/-- **No way to number triggers by 16 bits gives each a number of its own**, for there are as many
items as numbers. -/
theorem not_injective_number (number : Trigger → UInt16) : ¬ Function.Injective number := by
  intro hinj
  have hitems : Function.Injective fun index => number (item index) :=
    fun _ _ h => item.inj (hinj h)
  -- then the items use up all numbers, and none is left for a step
  obtain ⟨index, hindex⟩ := Finite.injective_iff_surjective.1 hitems (number move)
  cases hinj hindex

/-! ## §3. The round trip. -/

/-- **Triggers round-trip through their numbers, as far as they fit.**  A trigger that is no item
beyond `lastItem` is read back from its number, so that no two of them have the same number; an item
beyond is read back as `lastItem`.  And every number is the number of the trigger it is read as. -/
theorem numbers_round_trip :
    (∀ t : Trigger, ofRaw t.toRaw = if t.Fits then t else item lastItem)
      ∧ (∀ t u : Trigger, t.Fits → u.Fits → t.toRaw = u.toRaw → t = u)
      ∧ ∀ raw, (ofRaw raw).toRaw = raw :=
  ⟨ofRaw_toRaw, fun _ _ => toRaw_inj, toRaw_ofRaw⟩

/-- The last item that fits has the last number and is read back from it. -/
theorem numbers_round_trip_last :
    (item lastItem).Fits ∧ (item lastItem).toRaw = 65535 ∧ ofRaw 65535 = item lastItem
      ∧ ∀ t : Trigger, t.Fits → t.toRaw = 65535 → t = item lastItem := by
  obtain ⟨hback, hown, -⟩ := numbers_round_trip
  have hlast : (item lastItem).Fits := by decide
  refine ⟨hlast, by decide, hback (item lastItem), ?_⟩
  exact fun t ht hraw => hown t _ ht hlast hraw

/-- An item that does not fit is read back as another, which has the same number. -/
theorem item_read_as_another :
    ofRaw (item 65530).toRaw ≠ item 65530 ∧ (item 65530).toRaw = (item 65529).toRaw := by
  decide

end TileEvents.Trigger
