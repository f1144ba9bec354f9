/-
  TileEvents.Proofs.Session.OneShot
  ─────────────────────────────────
  **EVENTS THAT FIRE ONCE.**

  A tile replacement switches off the tile event its walk came from.  The
  event then stays off however the game goes on, until something clears its
  bit: an action on that very bit with the value 0 or 2, or the host.

    • `Playthrough.deeds`         — the deeds of a move;
    • `Follows.playAll`           — a run changes the savegame by its deeds;
    • `Suspension.StemsFrom`      — what a walk leaves behind, over any answers;
    • `one_shot_event_stays_off`  — the event of a replaced tile stays off.
-/
import TileEvents.Proofs.Sample
import TileEvents.Proofs.Savegame.BitLayout
import TileEvents.Proofs.Session.Ending
import TileEvents.Proofs.Session.Visits
import TileEvents.Proofs.Walk.Answers
import TileEvents.Proofs.Walk.EventBits

namespace TileEvents

/-! ## §1. The deeds of a game in play. -/

/-- What the host does to the savegame in a move. -/
def Move.deeds : Move → List Deed
  | .setHour hour => [.hour hour]
  | .setActive member => [.active member]
  | .setEventBit address on => [.eventBit address on]
  | _ => []

namespace Playthrough

/-- **The deeds of a move.** -/
def deeds (p : Playthrough) (move : Move) : List Deed :=
  (p.visits move).map Visit.deed ++ move.deeds

/-- The deeds of several moves, each made on the game that the ones before it left. -/
def allDeeds (p : Playthrough) : List Move → List Deed
  | [] => []
  | move :: rest => p.deeds move ++ (p.play move).2.allDeeds rest

end Playthrough

/-! ## §2. A run and its deeds. -/

namespace Follows

variable {β : Type} {part : Savegame → β} {change : Deed → β → β}

theorem write (h : Follows part change) (move : Move) (save : Savegame) :
    part (move.write save) = move.deeds.foldl (fun b d => change d b) (part save) := by
  cases move with
  | setHour hour => exact h.hour save hour
  | setActive member => exact h.active save member
  | setEventBit address on => exact h.eventBit save address on
  | _ => rfl

/-- A move changes the savegame by its deeds. -/
theorem play (h : Follows part change) (p : Playthrough) (move : Move) :
    part (p.play move).2.save
      = (p.deeds move).foldl (fun b d => change d b) (part p.save) := by
  obtain ⟨m, s, s', hmoved⟩ := p.play_moved move
  rw [hmoved.save, h.write, h.leads hmoved.leads, hmoved.begins, Playthrough.deeds,
    List.foldl_append]

/-- **A run changes the savegame by its deeds.** -/
theorem playAll (h : Follows part change) (moves : List Move) : ∀ p : Playthrough,
    part (p.playAll moves).2.save
      = (p.allDeeds moves).foldl (fun b d => change d b) (part p.save) := by
  -- on the moves; each leaves the savegame the next begins with
  induction moves with
  | nil => exact fun _ => rfl
  | cons move moves ih =>
      intro p
      show part ((p.play move).2.playAll moves).2.save = _
      rw [ih, h.play]
      exact (List.foldl_append ..).symm

end Follows

/-! ## §3. Origins. -/

/-- **A suspension of a walk from this origin**: of the walk itself or of what came of it after
answers, on whatever maps these were given. -/
inductive Suspension.StemsFrom (origin : Origin) : Suspension → Prop where
  | begun {ctx : Context} {m : GameMap} {start : NodeId} {trigger : Trigger} {status : Bool}
      {s : Scene} {w : Suspension}
      (h : (walk ctx m origin start trigger status s).1 = .ok (.suspended w)) :
      StemsFrom origin w
  | resumed {ctx : Context} {m : GameMap} {a : Answer} {s : Scene} {w w' : Suspension}
      (hw : w.StemsFrom origin) (h : (resume ctx m w a s).1 = .ok (.suspended w')) :
      StemsFrom origin w'

theorem walk_suspended_origin {ctx : Context} {m : GameMap} {origin : Origin} {start : NodeId}
    {trigger : Trigger} {status : Bool} {s : Scene} {w : Suspension}
    (h : (walk ctx m origin start trigger status s).1 = .ok (.suspended w)) : w.origin = origin := by
  have hend := walk_ends ctx m origin start trigger status s
  rw [h] at hend
  cases hend with
  | suspended _ _ _ horigin => exact horigin

theorem resume_suspended_origin {ctx : Context} {m : GameMap} {w w' : Suspension} {a : Answer}
    {s : Scene} (h : (resume ctx m w a s).1 = .ok (.suspended w')) : w'.origin = w.origin := by
  have hend := resume_ends ctx m w a s
  generalize resume ctx m w a s = result at h hend
  cases hend with
  | again n s' hn hb hs =>
      injection h with h
      injection h with h
      rw [h]
  | walked n next status s' hn hb => exact walk_suspended_origin h
  | _ => cases h

/-- **The origin goes with a walk through all its suspensions.** -/
theorem Suspension.StemsFrom.origin_eq {origin : Origin} {w : Suspension}
    (h : w.StemsFrom origin) : w.origin = origin := by
  induction h with
  | begun h => exact walk_suspended_origin h
  | resumed _ h ih => rw [resume_suspended_origin h, ih]

/-! ## §4. Events that are off. -/

/-- An interaction with a tile whose event is off does nothing. -/
theorem Session.onTile_of_off {m : GameMap} {x y : UInt8} {event : UInt16} {s : Scene}
    (hevent : m.tileEvent? x y = some event)
    (hoff : s.save.eventBit (.tileEvent m.index event) = true) (session : Session) (ctx : Context)
    (trigger : Trigger) :
    (session.onTile ctx m x y trigger s).1 = .ok .noEvent
      ∧ (session.onTile ctx m x y trigger s).2.1 = session.afterQuietTile m trigger
      ∧ (session.onTile ctx m x y trigger s).2.2.unlogged = s.unlogged := by
  have hnone : m.activeEvent? s.save x y = none := by
    unfold GameMap.activeEvent?
    rw [hevent, Option.filter_some, hoff]
    rfl
  unfold onTile
  rw [hnone]
  exact ⟨rfl, rfl, rfl⟩

/-- A run in which a tile was replaced leaves the bit of that walk's event on, unless something
cleared it afterwards. -/
theorem Playthrough.eventBit_of_replaced {p : Playthrough} {moves : List Move}
    {before after : List Deed} {origin : Origin} {n : Node} {r : TileReplacement} {event : UInt16}
    (hran : p.allDeeds moves = before ++ .ran origin n :: after) (hn : n.payload = .changeTile r)
    (hevent : origin.event = some event)
    (hkept : ∀ d ∈ after, ¬ d.Clears (.tileEvent origin.map event)) :
    (p.playAll moves).2.save.eventBit (.tileEvent origin.map event) = true := by
  have hset (old : Bool) :
      (Deed.ran origin n).eventBitAfter (.tileEvent origin.map event) old = true := by
    unfold Deed.eventBitAfter
    simp [hn, Origin.owns, hevent]
  have hrun := (follows_eventBit (.tileEvent origin.map event)).playAll moves p
  rw [hran, List.foldl_append, List.foldl_cons, hset, foldl_eventBit_of_kept hkept] at hrun
  exact hrun

/-- **A one-shot event stays off.**  Suppose that in some run a walk with this origin replaced a
tile, in the walk itself or after answers to its suspensions, which all carry the origin.  Then an
interaction with a tile on which the event of the origin lies, on any map with the index of the
origin, does nothing but clear the guard of a quiet tile and write a line of the log: as long as
nothing that was done since the replacement has cleared bit `event - 1` of that map. -/
theorem one_shot_event_stays_off (p : Playthrough) (moves : List Move) (before after : List Deed)
    (origin : Origin) (n : Node) (r : TileReplacement) (event : UInt16)
    (hran : p.allDeeds moves = before ++ .ran origin n :: after) (hn : n.payload = .changeTile r)
    (hevent : origin.event = some event) (hpos : 1 ≤ event)
    (hkept : ∀ d ∈ after, ¬ d.Clears ⟨origin.map, event - 1⟩) :
    (∀ w : Suspension, w.StemsFrom origin → w.origin = origin)
      ∧ ∀ (session : Session) (ctx : Context) (m : GameMap) (x y : UInt8) (trigger : Trigger)
          (s : Scene), m.index = origin.map → m.tileEvent? x y = some event →
          s.save = (p.playAll moves).2.save →
          (session.onTile ctx m x y trigger s).1 = .ok .noEvent
            ∧ (session.onTile ctx m x y trigger s).2.1 = session.afterQuietTile m trigger
            ∧ (session.onTile ctx m x y trigger s).2.2.unlogged = s.unlogged := by
  rw [← BitAddress.tileEvent_of_pos origin.map hpos] at hkept
  refine ⟨fun w hw => hw.origin_eq, ?_⟩
  intro session ctx m x y trigger s hindex htile hsave
  refine Session.onTile_of_off htile ?_ session ctx trigger
  rw [hindex, hsave]
  exact Playthrough.eventBit_of_replaced hran hn hevent hkept

/-- A game on a map where stepping onto a tile shows a text and then replaces that tile. -/
def Playthrough.oneShot : Playthrough :=
  let popup : Node := ⟨⟨0⟩, .popupText, some ⟨1⟩, .popupText 0 none true false⟩
  let change : Node := ⟨⟨1⟩, .changeTile, none, .changeTile ⟨⟨0, 0, 0⟩, 7⟩⟩
  .start [(GameMap.ofNodes [popup, change] [⟨0⟩]).placeEvent 0 0 1] .blank (.ofScript []) (.plain [])

/-- The tile is replaced once the text is dismissed, and the next step onto it does nothing. -/
theorem one_shot_event_stays_off_popup :
    let moves : List Move := [.tile 0 0 0 .step, .resume 0 none .closed]
    let p := (Playthrough.oneShot.playAll moves).2
    let m := (GameMap.ofNodes [] []).placeEvent 0 0 1
    let s : Scene := { Scene.blank with save := p.save }
    Playthrough.oneShot.allDeeds moves
        = [.ran ⟨1, 0, 0, some 1⟩ ⟨⟨0⟩, .popupText, some ⟨1⟩, .popupText 0 none true false⟩,
          .ran ⟨1, 0, 0, some 1⟩ ⟨⟨1⟩, .changeTile, none, .changeTile ⟨⟨0, 0, 0⟩, 7⟩⟩]
      ∧ (p.session.onTile (.plain []) m 0 0 .move s).1 = .ok .noEvent := by
  intro moves p m s
  have hran : Playthrough.oneShot.allDeeds moves
      = [.ran ⟨1, 0, 0, some 1⟩ ⟨⟨0⟩, .popupText, some ⟨1⟩, .popupText 0 none true false⟩,
        .ran ⟨1, 0, 0, some 1⟩ ⟨⟨1⟩, .changeTile, none, .changeTile ⟨⟨0, 0, 0⟩, 7⟩⟩] := by
    rfl
  have hoff := one_shot_event_stays_off Playthrough.oneShot moves [_] [] ⟨1, 0, 0, some 1⟩ _ _ 1
    hran rfl rfl (by decide) (List.forall_mem_nil _)
  exact ⟨hran, (hoff.2 p.session (.plain []) m 0 0 .move s rfl rfl rfl).1⟩

end TileEvents
