/-
  TileEvents.Savegame.BitAddress
  ──────────────────────────────
  **WHERE A MAP KEEPS ITS BITS.**

  Event bits and character bits belong to a map.  Scripts name them by one flat
  object index: an event bit by 64 per map and a character bit by 32 per map,
  counting maps from 1.  A tile event n of a map is switched off through its
  bit n - 1.
-/
import TileEvents.Savegame.KeySet

namespace TileEvents

/-- A bit of a map. -/
structure BitAddress where
  map : UInt16
  bit : UInt16
  deriving DecidableEq

namespace BitAddress

instance : Ranked BitAddress where
  rank a := a.map.toNat * 65536 + a.bit.toNat
  rank_inj a b h := by
    obtain ⟨m, x⟩ := a
    obtain ⟨n, y⟩ := b
    have hx := x.toNat_lt
    have hy := y.toNat_lt
    simp only at h
    have hm : m.toNat = n.toNat := by omega
    have hb : x.toNat = y.toNat := by omega
    rw [UInt16.toNat_inj.1 hm, UInt16.toNat_inj.1 hb]

/-- The event bit with this object index: 64 bits a map. -/
def event (object : UInt16) : BitAddress := ⟨(object >>> 6) + 1, object &&& 0x3f⟩

/-- The character bit with this object index: 32 bits a map. -/
def character (object : UInt16) : BitAddress := ⟨(object >>> 5) + 1, object &&& 0x1f⟩

/-- The bit that switches tile event `event` of `map` off. -/
def tileEvent (map event : UInt16) : BitAddress := ⟨map, UInt16.ofNat (event.toNat - 1)⟩

end BitAddress

end TileEvents
