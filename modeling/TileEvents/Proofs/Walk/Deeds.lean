/-
  TileEvents.Proofs.Walk.Deeds
  ────────────────────────────
  **WHAT BECOMES OF A PART OF THE SAVEGAME.**

  What a game does to its savegame is a list of deeds: the nodes that ran, each
  with the origin of its walk, and what the host writes itself.  A part of the
  savegame that every deed changes in a way of its own, whatever else there is,
  is then a fold over these deeds, and the deeds of a walk are its visits.

    • `Deed`, `Visit.deed` — what is done to the savegame;
    • `Follows`            — a part that deeds decide;
    • `Follows.leads`      — the part after the visits of a walk.
-/
import TileEvents.Proofs.Walk.Visits

namespace TileEvents

/-! ## §1. Deeds. -/

/-- Something that is done to the savegame of a game. -/
inductive Deed where
  /-- A node has run in a walk with this origin. -/
  | ran (origin : Origin) (n : Node)
  /-- The host has set the hour. -/
  | hour (hour : UInt8)
  /-- The host has chosen the member who acts. -/
  | active (member : UInt64)
  /-- The host has set an event bit. -/
  | eventBit (address : BitAddress) (on : Bool)

/-- The deed that a visit is: its node has run. -/
def Visit.deed (v : Visit) : Deed := .ran v.origin v.node

/-- **`part` of a savegame changes with each deed as `change` says**, whatever the rest of it is, and
the locks are no part of it. -/
structure Follows {β : Type} (part : Savegame → β) (change : Deed → β → β) : Prop where
  ran : ∀ {ctx : Context} {m : GameMap} {origin : Origin} {n : Node} {c : Cursor} {s s' : Scene}
    {r : Directive × Cursor}, n.step ctx m origin c s = (.ok r, s') →
    part s'.save = change (.ran origin n) (part s.save)
  locks : ∀ (save : Savegame) (doors chests : KeySet UInt16),
    part { save with unlockedDoors := doors, unlockedChests := chests } = part save
  hour : ∀ (save : Savegame) (hour : UInt8),
    part { save with hour := hour } = change (.hour hour) (part save)
  active : ∀ (save : Savegame) (member : UInt64),
    part { save with activeMember := member } = change (.active member) (part save)
  eventBit : ∀ (save : Savegame) (address : BitAddress) (on : Bool),
    part (save.setEventBit address on) = change (.eventBit address on) (part save)

/-! ## §2. Visits. -/

namespace Follows

variable {β : Type} {part : Savegame → β} {change : Deed → β → β}

theorem steady (h : Follows part change) {s s' : Scene} (hs : s.Steady s') :
    part s'.save = part s.save := by
  obtain ⟨doors, chests, hsave⟩ := hs.save
  rw [hsave]
  exact h.locks s.save doors chests

/-- **The part that visits lead to is the fold over them.** -/
theorem leads (h : Follows part change) {ctx : Context} {m : GameMap} {s s' : Scene}
    {visits : List Visit} (hleads : Leads ctx m s visits s') :
    part s'.save = (visits.map Visit.deed).foldl (fun b d => change d b) (part s.save) := by
  induction hleads with
  | rest hs => exact h.steady hs
  | visit hs hv _ ih =>
      obtain ⟨_, _, _, _, hstep⟩ := hv
      rw [ih, h.ran hstep, h.steady hs]
      rfl

end Follows

end TileEvents
