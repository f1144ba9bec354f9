/-
  TileEvents.Proofs.Session.TileReplay
  ────────────────────────────────────
  **THE RECORDED TILES REPLAY THE GAME.**

  A game has two accounts of replaced tiles: the list in the savegame, with one
  entry for a tile, and the requests to the host, one for every replacement.
  They never disagree, whichever nodes fail and whichever hit the same tile.

    • `reportedUpdates`        — the tiles that the reports of a run tell of;
    • `Leads.records`          — within a walk the two accounts agree;
    • `recorded_tiles_replay`  — and over a run of a game, after every visit.
-/
import TileEvents.Proofs.Sample
import TileEvents.Proofs.Session.Visits
import TileEvents.Proofs.Walk.Tiles

namespace TileEvents

open TileChange (recordAll recordAll_append)

/-! ## §1. A walk. -/

/-- What is recorded came of `initial` by the changes `earlier` and those that the host was told of
since. -/
def Scene.Records (initial earlier : List TileChange) (s : Scene) : Prop :=
  s.save.tileChanges = recordAll initial (earlier ++ updates s.calls)

/-- A visit keeps the two accounts together. -/
theorem Visit.Happens.records {ctx : Context} {m : GameMap} {v : Visit} (h : v.Happens ctx m)
    {initial earlier : List TileChange} (hbefore : v.before.Records initial earlier) :
    v.after.Records initial earlier := by
  obtain ⟨id, c, r, hn, hstep⟩ := h
  obtain ⟨t, t', ht, ht', haffects⟩ := Node.step_affects hstep
  obtain ⟨changes, hrecorded, htold⟩ := haffects.recordAll
  -- what came with the step besides the effect is log
  obtain ⟨hsave, -, hcalls⟩ := Scene.eq_but_log ht
  obtain ⟨hsave', -, hcalls'⟩ := Scene.eq_but_log ht'
  rw [hsave, hsave'] at hrecorded
  rw [hcalls, hcalls'] at htold
  unfold Scene.Records
  rw [hrecorded, hbefore, htold, ← recordAll_append, List.append_assoc]

/-- **Within a walk the two accounts agree.** -/
theorem Leads.records {ctx : Context} {m : GameMap} {s s' : Scene} {visits : List Visit}
    (h : Leads ctx m s visits s') {initial earlier : List TileChange}
    (hs : s.Records initial earlier) :
    (∀ v ∈ visits, v.before.Records initial earlier ∧ v.after.Records initial earlier)
      ∧ s'.Records initial earlier := by
  refine h.invariant (I := Scene.Records initial earlier) ?_ ?_ hs
  · intro s s' hsteady hs
    unfold Scene.Records at hs ⊢
    rw [hsteady.tileChanges, hsteady.calls, hs]
  · exact fun v hv => (h.happens v hv).records

/-! ## §2. A run. -/

/-- **The changes of tiles that reports tell of**, in order. -/
def reportedUpdates (reports : List Report) : List TileChange :=
  reports.flatMap fun r => updates r.calls

namespace Playthrough

/-- A move records what it reports. -/
theorem play_records (p : Playthrough) (move : Move) {initial earlier : List TileChange}
    (hp : p.save.tileChanges = recordAll initial earlier) :
    (∀ v ∈ p.visits move, v.after.Records initial earlier)
      ∧ (p.play move).2.save.tileChanges
        = recordAll initial (earlier ++ updates (p.play move).1.calls) := by
  obtain ⟨m, s, s', hmoved⟩ := p.play_moved move
  have hs : s.Records initial earlier := by
    unfold Scene.Records
    rw [hmoved.begins, hmoved.silent, hp]
    exact congrArg _ (List.append_nil _).symm
  obtain ⟨hvisits, hlast⟩ := hmoved.leads.records hs
  rw [hmoved.tileChanges, hmoved.calls]
  exact ⟨fun v hv => (hvisits v hv).2, hlast⟩

/-- A run records what it reports. -/
theorem playAll_records (moves : List Move) : ∀ p : Playthrough,
    (p.playAll moves).2.save.tileChanges
      = recordAll p.save.tileChanges (reportedUpdates (p.playAll moves).1) := by
  -- on the moves; each leaves the record the next begins with
  induction moves with
  | nil => exact fun _ => rfl
  | cons move moves ih =>
      intro p
      have hbegins : p.save.tileChanges = recordAll p.save.tileChanges [] := rfl
      have hplayed := (p.play_records move hbegins).2
      show ((p.play move).2.playAll moves).2.save.tileChanges = _
      rw [ih, hplayed, List.nil_append, ← recordAll_append]
      rfl

end Playthrough

/-- **The recorded tiles replay the game.**  Suppose that a game begins with at most one entry for
every target.  Then after every run the record has at most one entry for every target: the tile of
the last update the host was told of for that target, or the initial entry if it was told of none.
To replay the record on a map gives the same tiles as the initial entries and then all updates, and
the entries stand in the order in which their targets came first.  All of this also holds after every
visit of a further move, with the updates of that move up to then. -/
theorem recorded_tiles_replay (p : Playthrough) (moves : List Move)
    (hstart : (p.save.tileChanges.map (·.target)).Nodup) :
    TileChange.Replays p.save.tileChanges (reportedUpdates (p.playAll moves).1)
        (p.playAll moves).2.save.tileChanges
      ∧ ∀ move, ∀ v ∈ (p.playAll moves).2.visits move,
          TileChange.Replays p.save.tileChanges
            (reportedUpdates (p.playAll moves).1 ++ updates v.after.calls)
            v.after.save.tileChanges := by
  have hrun := p.playAll_records moves
  constructor
  · rw [hrun]
    exact TileChange.recordAll_replays hstart _
  · intro move v hv
    have hvisit := ((p.playAll moves).2.play_records move hrun).1 v hv
    rw [show v.after.save.tileChanges = _ from hvisit]
    exact TileChange.recordAll_replays hstart _

/-- A game that begins with a replaced tile, on a map where one walk replaces that tile, the tile
it came from and the first again, and then goes astray. -/
def Playthrough.repaved : Playthrough :=
  let first : Node := ⟨⟨0⟩, .changeTile, some ⟨1⟩, .changeTile ⟨⟨1, 5, 5⟩, 9⟩⟩
  let here : Node := ⟨⟨1⟩, .changeTile, some ⟨2⟩, .changeTile ⟨⟨0, 0, 0⟩, 7⟩⟩
  let again : Node := ⟨⟨2⟩, .changeTile, some ⟨3⟩, .changeTile ⟨⟨1, 5, 5⟩, 4⟩⟩
  .start [.ofNodes [first, here, again] [⟨0⟩]]
    { Savegame.blank with tileChanges := [⟨⟨1, 5, 5⟩, 3⟩] } (.ofScript []) (.plain [])

/-- The host is told three times, and two entries are left that replay. -/
theorem recorded_tiles_replay_repaved :
    let moves : List Move := [.character 0 1 0 0 .talk]
    let p := Playthrough.repaved
    reportedUpdates (p.playAll moves).1 = [⟨⟨1, 5, 5⟩, 9⟩, ⟨⟨1, 1, 1⟩, 7⟩, ⟨⟨1, 5, 5⟩, 4⟩]
      ∧ (p.playAll moves).2.save.tileChanges = [⟨⟨1, 5, 5⟩, 4⟩, ⟨⟨1, 1, 1⟩, 7⟩]
      ∧ TileChange.Replays [⟨⟨1, 5, 5⟩, 3⟩] [⟨⟨1, 5, 5⟩, 9⟩, ⟨⟨1, 1, 1⟩, 7⟩, ⟨⟨1, 5, 5⟩, 4⟩]
          [⟨⟨1, 5, 5⟩, 4⟩, ⟨⟨1, 1, 1⟩, 7⟩] := by
  intro moves p
  have hstart : (p.save.tileChanges.map (·.target)).Nodup := by decide
  have htold : reportedUpdates (p.playAll moves).1
      = [⟨⟨1, 5, 5⟩, 9⟩, ⟨⟨1, 1, 1⟩, 7⟩, ⟨⟨1, 5, 5⟩, 4⟩] := by decide +kernel
  have hrecorded : (p.playAll moves).2.save.tileChanges = [⟨⟨1, 5, 5⟩, 4⟩, ⟨⟨1, 1, 1⟩, 7⟩] := by
    decide +kernel
  have hreplays := (recorded_tiles_replay p moves hstart).1
  rw [htold, hrecorded] at hreplays
  exact ⟨htold, hrecorded, hreplays⟩

end TileEvents
