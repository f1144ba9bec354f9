/-
  TileEvents.Proofs.Savegame.BitLayout
  ────────────────────────────────────
  **SCRIPTS AND TILES MEAN THE SAME BITS.**

  A script names a bit by one flat object index, a tile event by its map and
  its number there.  Both kinds of bits are laid out alike, 64 or 32 to a map:
  the quotient of the index tells the map, counted from 1, and the rest tells
  the bit.  So an index and an address determine each other, and what is left
  to ask is which addresses an index of 16 bits can tell at all: of the event
  bits those of the first 1024 maps.

    • `Spreads`            — so many bits a map, by quotient and rest;
    • `Spreads.injective`  — no bit has two object indices;
    • `Spreads.eq_iff`     — the index of a bit;
    • `Spreads.exists_iff` — the bits that have an index;
    • `layouts_meet`       — the tile events that scripts can name.
-/
import Mathlib.Algebra.Group.Nat.Defs
import TileEvents.Savegame.BitAddress

namespace TileEvents

namespace BitAddress

/-! ## §1. Flat object indices. -/

/-- **The indices are spread over the maps**, `width` bits to each of them. -/
def Spreads (width : Nat) (address : UInt16 → BitAddress) : Prop :=
  ∀ o, (address o).map.toNat = o.toNat / width + 1 ∧ (address o).bit.toNat = o.toNat % width

/-- A shift tells the map and a mask the bit: 2 ^ `shift` bits a map. -/
theorem spreads_shift (shift : UInt16) (hpos : 1 ≤ shift.toNat) (hlt : shift.toNat < 16) :
    Spreads (2 ^ shift.toNat)
      fun o => ⟨(o >>> shift) + 1, o &&& UInt16.ofNat (2 ^ shift.toNat - 1)⟩ := by
  intro o
  have ho : o.toNat < 65536 := o.toNat_lt
  have hwidth : 2 ^ shift.toNat < 2 ^ 16 := Nat.pow_lt_pow_right (by decide) hlt
  constructor
  · show ((o >>> shift) + 1).toNat = _
    have hshift : (o >>> shift).toNat = o.toNat / 2 ^ shift.toNat := by
      rw [UInt16.toNat_shiftRight, Nat.mod_eq_of_lt hlt, Nat.shiftRight_eq_div_pow]
    -- there is room for the map that counts from 1
    have htwo : 2 ^ 1 ≤ 2 ^ shift.toNat := Nat.pow_le_pow_right (by decide) hpos
    have hhalf : o.toNat / 2 ^ shift.toNat ≤ o.toNat / 2 := Nat.div_le_div_left htwo (by decide)
    rw [UInt16.toNat_add, hshift]
    show (_ + 1) % 65536 = _
    omega
  · show (o &&& UInt16.ofNat (2 ^ shift.toNat - 1)).toNat = _
    have hmask : (UInt16.ofNat (2 ^ shift.toNat - 1)).toNat = 2 ^ shift.toNat - 1 :=
      UInt16.toNat_ofNat_of_lt' (Nat.lt_of_le_of_lt (Nat.sub_le _ _) hwidth)
    rw [UInt16.toNat_and, hmask, Nat.and_two_pow_sub_one_eq_mod]

/-- Event bits: 64 a map. -/
theorem event_spreads : Spreads 64 event := spreads_shift 6 (by decide) (by decide)

/-- Character bits: 32 a map. -/
theorem character_spreads : Spreads 32 character := spreads_shift 5 (by decide) (by decide)

namespace Spreads

variable {width : Nat} {address : UInt16 → BitAddress} {o : UInt16} {a : BitAddress}

/-- **No bit has two object indices.** -/
theorem injective (h : Spreads width address) : Function.Injective address := by
  intro o o' heq
  obtain ⟨hmap, hbit⟩ := h o
  obtain ⟨hmap', hbit'⟩ := h o'
  rw [heq] at hmap hbit
  -- what is counted from 1 on both sides has the same quotient
  have hquotient : o.toNat / width = o'.toNat / width := by omega
  have hrest : o.toNat % width = o'.toNat % width := by omega
  refine UInt16.toNat_inj.1 ?_
  rw [← Nat.div_add_mod o.toNat width, hquotient, hrest, Nat.div_add_mod]

/-- **The object index of a bit.** -/
theorem eq_iff (h : Spreads width address) (hwidth : 0 < width) :
    address o = a
      ↔ 1 ≤ a.map.toNat ∧ a.bit.toNat < width
        ∧ o.toNat = width * (a.map.toNat - 1) + a.bit.toNat := by
  obtain ⟨hmap, hbit⟩ := h o
  constructor
  · rintro rfl
    refine ⟨?_, ?_, ?_⟩
    · rw [hmap]
      exact Nat.le_add_left 1 _
    · rw [hbit]
      exact Nat.mod_lt _ hwidth
    · rw [hmap, hbit, Nat.add_sub_cancel, Nat.div_add_mod]
  · rintro ⟨hpos, hlt, ho⟩
    -- a bit below the width leaves the quotient to the map
    have hquotient : o.toNat / width = a.map.toNat - 1 := by
      rw [ho, Nat.mul_add_div hwidth, Nat.div_eq_of_lt hlt, Nat.add_zero]
    have hrest : o.toNat % width = a.bit.toNat := by
      rw [ho, Nat.mul_add_mod, Nat.mod_eq_of_lt hlt]
    have hsame : (address o).map = a.map ∧ (address o).bit = a.bit :=
      ⟨UInt16.toNat_inj.1 (by omega), UInt16.toNat_inj.1 (by omega)⟩
    cases a
    exact (mk.injEq ..).mpr hsame

/-- **The bits that have an object index.** -/
theorem exists_iff (h : Spreads width address) (hwidth : 0 < width) :
    (∃ o, address o = a)
      ↔ 1 ≤ a.map.toNat ∧ a.bit.toNat < width
        ∧ width * (a.map.toNat - 1) + a.bit.toNat < 65536 := by
  constructor
  · rintro ⟨o, ho⟩
    obtain ⟨hpos, hlt, hindex⟩ := (h.eq_iff hwidth).1 ho
    exact ⟨hpos, hlt, hindex ▸ o.toNat_lt⟩
  · rintro ⟨hpos, hlt, hfits⟩
    refine ⟨.ofNat (width * (a.map.toNat - 1) + a.bit.toNat), ?_⟩
    exact (h.eq_iff hwidth).2 ⟨hpos, hlt, UInt16.toNat_ofNat_of_lt' hfits⟩

end Spreads

/-! ## §2. Tile events. -/

/-- Tile events count from 1 and their bits from 0. -/
theorem tileEvent_bit_toNat (map event : UInt16) :
    (tileEvent map event).bit.toNat = event.toNat - 1 := by
  have hlt : event.toNat - 1 < 65536 := Nat.lt_of_le_of_lt (Nat.sub_le _ _) event.toNat_lt
  exact UInt16.toNat_ofNat_of_lt' hlt

/-- The bit of a tile event, as an address. -/
theorem tileEvent_of_pos (map : UInt16) {event : UInt16} (h : 1 ≤ event) :
    tileEvent map event = ⟨map, event - 1⟩ := by
  refine (mk.injEq ..).mpr ⟨rfl, UInt16.toNat_inj.1 ?_⟩
  rw [UInt16.toNat_sub_of_le _ _ h]
  exact tileEvent_bit_toNat map event

/-- **No two tile events share a bit.** -/
theorem tileEvent_inj {m n m' n' : UInt16} (hn : 1 ≤ n) (hn' : 1 ≤ n')
    (h : tileEvent m n = tileEvent m' n') : m = m' ∧ n = n' := by
  have hbits : n.toNat - 1 = n'.toNat - 1 := by
    rw [← tileEvent_bit_toNat m n, ← tileEvent_bit_toNat m' n', h]
  have hpos : 1 ≤ n.toNat := UInt16.le_iff_toNat_le.1 hn
  have hpos' : 1 ≤ n'.toNat := UInt16.le_iff_toNat_le.1 hn'
  exact ⟨congrArg BitAddress.map h, UInt16.toNat_inj.1 (by omega)⟩

/-- **The tile events that a script can name**: those of the first 1024 maps. -/
theorem exists_event_eq_tileEvent {m n : UInt16} (hm : 1 ≤ m) (hn : n ≤ 64) :
    (∃ o, event o = tileEvent m n) ↔ m ≤ 1024 := by
  have hm : 1 ≤ m.toNat := UInt16.le_iff_toNat_le.1 hm
  have hn : n.toNat ≤ 64 := UInt16.le_iff_toNat_le.1 hn
  have hlimit : m ≤ 1024 ↔ m.toNat ≤ 1024 := UInt16.le_iff_toNat_le
  -- 64 bits for each of 1024 maps are as many as there are indices
  rw [event_spreads.exists_iff (by decide), tileEvent_bit_toNat, hlimit]
  show 1 ≤ m.toNat ∧ n.toNat - 1 < 64 ∧ 64 * (m.toNat - 1) + (n.toNat - 1) < 65536 ↔ _
  omega

/-- The object index by which a script names a tile event. -/
theorem event_eq_tileEvent {o m n : UInt16} (hm : 1 ≤ m) (hpos : 1 ≤ n) (hn : n ≤ 64) :
    event o = tileEvent m n ↔ o.toNat = 64 * (m.toNat - 1) + n.toNat - 1 := by
  have hm : 1 ≤ m.toNat := UInt16.le_iff_toNat_le.1 hm
  have hpos : 1 ≤ n.toNat := UInt16.le_iff_toNat_le.1 hpos
  have hn : n.toNat ≤ 64 := UInt16.le_iff_toNat_le.1 hn
  rw [event_spreads.eq_iff (by decide), tileEvent_bit_toNat]
  show 1 ≤ m.toNat ∧ n.toNat - 1 < 64 ∧ o.toNat = 64 * (m.toNat - 1) + (n.toNat - 1) ↔ _
  omega

/-! ## §3. Both together. -/

/-- **The layouts of bits meet where they should.**  No two object indices name the same event bit
or the same character bit.  A tile event with a number from 1 to 64 has an object index if and only
if its map is one of the first 1024, and then it has only the one that counts 64 bits for every map
before.  And different tile events have different bits. -/
theorem layouts_meet :
    Function.Injective event ∧ Function.Injective character
      ∧ (∀ m n : UInt16, 1 ≤ m → 1 ≤ n → n ≤ 64 →
          ((∃ o, event o = tileEvent m n) ↔ m ≤ 1024)
            ∧ ∀ o, event o = tileEvent m n ↔ o.toNat = 64 * (m.toNat - 1) + n.toNat - 1)
      ∧ ∀ m n m' n' : UInt16, 1 ≤ n → 1 ≤ n' → (m, n) ≠ (m', n') →
          tileEvent m n ≠ tileEvent m' n' := by
  refine ⟨event_spreads.injective, character_spreads.injective, ?_, ?_⟩
  · intro m n hm hpos hn
    exact ⟨exists_event_eq_tileEvent hm hn, fun o => event_eq_tileEvent hm hpos hn⟩
  · intro m n m' n' hn hn' hne hsame
    obtain ⟨rfl, rfl⟩ := tileEvent_inj hn hn' hsame
    exact hne rfl

/-- The last event of map 1024 has the last index, the first of map 1025 has none, and the bits of
the two are not the same. -/
theorem layouts_meet_at_last :
    event 65535 = tileEvent 1024 64 ∧ (¬ ∃ o, event o = tileEvent 1025 1)
      ∧ tileEvent 1024 64 ≠ tileEvent 1025 1 := by
  obtain ⟨-, -, hnamed, hdistinct⟩ := layouts_meet
  have hlast := (hnamed 1024 64 (by decide) (by decide) (by decide)).2 65535
  have hbeyond := (hnamed 1025 1 (by decide) (by decide) (by decide)).1
  refine ⟨hlast.2 (by decide), ?_, hdistinct _ _ _ _ (by decide) (by decide) (by decide)⟩
  rw [hbeyond]
  decide

end BitAddress

end TileEvents
