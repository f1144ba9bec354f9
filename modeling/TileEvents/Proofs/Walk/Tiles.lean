/-
  TileEvents.Proofs.Walk.Tiles
  ────────────────────────────
  **ONLY TILE REPLACEMENTS TOUCH TILES.**

  A tile replacement settles on its target, records the tile in the savegame
  and tells the host, all three at once.  No other node settles on anything,
  records a tile or tells the host of one.

    • `HostCall.change?`, `updates` — the tiles a host is told of;
    • `Scene.SameTiles`             — nothing recorded, told or settled;
    • `Node.Affects.tiles`          — a node replaces a tile or leaves the tiles alone;
    • `Node.Affects.recordAll`      — what a node records is what it tells the host.
-/
import TileEvents.Proofs.Party.Handouts
import TileEvents.Proofs.Savegame.TileRecord
import TileEvents.Proofs.Walk.Effects
import TileEvents.Proofs.Walk.EventBits

namespace TileEvents

/-! ## §1. What the host is told. -/

/-- The change of a tile that a request is about. -/
def HostCall.change? : HostCall → Option TileChange
  | .updateTile target tile => some ⟨target, tile⟩
  | _ => none

/-- The changes of tiles among requests, in order. -/
def updates (calls : Array HostCall) : List TileChange := calls.toList.filterMap HostCall.change?

theorem updates_push (calls : Array HostCall) (c : HostCall) :
    updates (calls.push c) = updates calls ++ c.change?.toList := by
  unfold updates
  rw [Array.toList_push, List.filterMap_append]
  cases hc : c.change? <;> simp [hc]

theorem mem_updates {calls : Array HostCall} {c : TileChange} (h : c ∈ updates calls) :
    .updateTile c.target c.tile ∈ calls.toList := by
  obtain ⟨call, hcall, hchange⟩ := List.mem_filterMap.1 h
  cases call with
  | updateTile target tile =>
      injection hchange with hchange
      rw [← hchange]
      exact hcall
  | _ => cases hchange

/-- No request of `Node.Requests` is about a tile. -/
theorem Node.Requests.change?_eq_none {origin : Origin} {n : Node} {c : HostCall}
    (h : n.Requests origin c) : c.change? = none := by
  cases h <;> rfl

/-! ## §2. Leaving the tiles alone. -/

/-- **No tile is recorded, told or settled on.** -/
structure Scene.SameTiles (s s' : Scene) : Prop where
  recorded : s'.save.tileChanges = s.save.tileChanges
  told : updates s'.calls = updates s.calls
  settled : s'.settled = s.settled

namespace Scene.SameTiles

variable {s s' s'' : Scene}

theorem trans (h : s.SameTiles s') (h' : s'.SameTiles s'') : s.SameTiles s'' where
  recorded := h'.recorded.trans h.recorded
  told := h'.told.trans h.told
  settled := h'.settled.trans h.settled

/-- Other dice and another party leave the tiles alone. -/
theorem of_changes {dice : Dice} {party : List Member}
    (h : s'.unlogged = ((s.setDice dice).setSave (s.save.setParty party)).unlogged) :
    s.SameTiles s' := by
  obtain ⟨hsave, hsettled, hcalls⟩ := Scene.eq_but_log h
  exact ⟨congrArg (·.tileChanges) hsave, congrArg updates hcalls, hsettled⟩

/-- A fold leaves the tiles alone if each of its steps does. -/
theorem foldl {α : Type} {f : Scene → α → Scene} (h : ∀ s a, SameTiles s (f s a)) (l : List α)
    (s : Scene) : s.SameTiles (l.foldl f s) := by
  induction l generalizing s with
  | nil => exact ⟨rfl, rfl, rfl⟩
  | cons a l ih => exact (h s a).trans (ih (f s a))

end Scene.SameTiles

open Scene (SameTiles)

/-- An award leaves the tiles alone. -/
theorem Award.apply_sameTiles (a : Award) (id : NodeId) (s : Scene) : s.SameTiles (a.apply id s) := by
  obtain ⟨dice, party, hchanges⟩ := a.apply_changes id s
  exact .of_changes hchanges

/-- So does a trap. -/
theorem Trap.spring_sameTiles (t : Trap) (id : NodeId) (s : Scene) :
    s.SameTiles (t.spring id s).2 := by
  obtain ⟨dice, party, hchanges⟩ := t.spring_changes id s
  exact .of_changes hchanges

/-- So does an action on items; the host is told of curses only. -/
theorem Action.applyItem_sameTiles (a : Action) (id : NodeId) (s : Scene) :
    s.SameTiles (a.applyItem id s) := by
  unfold applyItem
  dsimp only
  split
  · unfold giveItems
    dsimp only
    split <;> exact ⟨rfl, rfl, rfl⟩
  · have htold (s : Scene) (member : Nat) : s.SameTiles (s.call (.itemUncursed member a.object)) :=
      ⟨rfl, by unfold Scene.call; rw [updates_push]; exact List.append_nil _, rfl⟩
    have htaken (party : List Member) : s.SameTiles (s.setSave (s.save.setParty party)) :=
      ⟨rfl, rfl, rfl⟩
    exact ((htaken _).trans (.foldl htold _ _)).trans ⟨rfl, rfl, rfl⟩
  · exact ⟨rfl, rfl, rfl⟩

/-- So does one on gold or food. -/
theorem Action.applyCurrency_sameTiles (a : Action) (settings : Settings) (id : NodeId)
    (c : Currency) (s : Scene) : s.SameTiles (a.applyCurrency settings id c s) := by
  unfold applyCurrency
  dsimp only
  split
  · exact ⟨rfl, rfl, rfl⟩
  · split <;> exact ⟨rfl, rfl, rfl⟩
  · exact ⟨rfl, rfl, rfl⟩

/-- **So does every action.** -/
theorem Action.effect_sameTiles {a : Action} {settings : Settings} {id : NodeId} {f : Scene → Scene}
    (h : a.effect settings id = .ok f) (s : Scene) : s.SameTiles (f s) := by
  cases effect_amounts h with
  | elsewhere change text hparty htiles => exact ⟨htiles s.save, rfl, rfl⟩
  | items hkind => exact a.applyItem_sameTiles id s
  | currency c hkind => exact a.applyCurrency_sameTiles settings id c s
  | ailment ailment hkind hailment =>
      unfold applyAilment
      split <;> exact ⟨rfl, rfl, rfl⟩

/-! ## §3. Nodes. -/

/-- **A node replaces a tile or leaves the tiles alone.** -/
theorem Node.Affects.tiles {settings : Settings} {origin : Origin} {n : Node} {s s' : Scene}
    (h : n.Affects settings origin s s') :
    (∃ r, n.payload = .changeTile r ∧ s' = s.replaceTile n.id origin r) ∨ s.SameTiles s' := by
  cases h with
  | replaces hn => exact .inl ⟨_, hn, rfl⟩
  | asks calls hsave hsettled hcalls hrequests =>
      refine .inr ⟨congrArg (·.tileChanges) hsave, ?_, hsettled⟩
      have hnone : calls.filterMap HostCall.change? = [] :=
        List.filterMap_eq_nil_iff.2 fun c hc => (hrequests c hc).change?_eq_none
      rw [hcalls]
      unfold updates
      rw [Array.toList_append, List.filterMap_append, hnone, List.append_nil]
  | turns facing hn hsave hsettled hcalls =>
      refine .inr ⟨by rw [hsave], ?_, hsettled⟩
      rw [hcalls, updates_push]
      exact List.append_nil _
  | @endsBuffs _ buff hn hsave hsettled hcalls =>
      refine .inr ⟨?_, by rw [hcalls], hsettled⟩
      rw [hsave]
      cases buff <;> rfl
  | acts hn hf => exact .inr (Action.effect_sameTiles hf s)
  | @awards a hn => exact .inr (a.apply_sameTiles n.id s)
  | @springs t hn => exact .inr (t.spring_sameTiles n.id s)

/-- What a replacement records it tells the host, and nothing else. -/
theorem Scene.replaceTile_recordAll (s : Scene) (id : NodeId) (origin : Origin)
    (r : TileReplacement) :
    (s.replaceTile id origin r).save.tileChanges
        = TileChange.recordAll s.save.tileChanges [⟨(s.settle id origin r.target).1, r.tile⟩]
      ∧ updates (s.replaceTile id origin r).calls
        = updates s.calls ++ [⟨(s.settle id origin r.target).1, r.tile⟩] := by
  have hsettle : (s.settle id origin r.target).2.save = s.save
      ∧ (s.settle id origin r.target).2.calls = s.calls := by
    unfold settle
    split <;> exact ⟨rfl, rfl⟩
  have hrecorded : ((s.settle id origin r.target).2.save.recordTileChange
      (s.settle id origin r.target).1 r.tile).tileChanges
        = TileChange.recordAll s.save.tileChanges [⟨(s.settle id origin r.target).1, r.tile⟩] := by
    rw [hsettle.1]
    rfl
  have htold : updates ((s.settle id origin r.target).2.calls.push
      (.updateTile (s.settle id origin r.target).1 r.tile))
        = updates s.calls ++ [⟨(s.settle id origin r.target).1, r.tile⟩] := by
    rw [updates_push, hsettle.2]
    rfl
  -- the bit of the tile event is not part of the record
  unfold replaceTile
  cases origin.event with
  | none => exact ⟨hrecorded, htold⟩
  | some event => exact ⟨hrecorded, htold⟩

/-- **What a node records is what it tells the host.** -/
theorem Node.Affects.recordAll {settings : Settings} {origin : Origin} {n : Node} {s s' : Scene}
    (h : n.Affects settings origin s s') :
    ∃ changes, s'.save.tileChanges = TileChange.recordAll s.save.tileChanges changes
      ∧ updates s'.calls = updates s.calls ++ changes := by
  obtain ⟨r, hn, rfl⟩ | hsame := h.tiles
  · exact ⟨_, s.replaceTile_recordAll n.id origin r⟩
  · exact ⟨[], hsame.recorded, by rw [hsame.told, List.append_nil]⟩

end TileEvents
