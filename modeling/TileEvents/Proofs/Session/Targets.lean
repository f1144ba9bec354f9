/-
  TileEvents.Proofs.Session.Targets
  ─────────────────────────────────
  **A TILE REPLACEMENT HAS ONE TARGET FOR LIFE.**

  A map in play keeps its settled targets from move to move, so what holds of
  the visits of one walk holds of all the visits that a run makes on the map:
  a replacement keeps to the target that its first visit decided.

    • `Playthrough.playedOn`    — the moves of a run that are made on one map;
    • `Playthrough.play_here`   — such a move is a walk from the settled targets
                                  before it to those after it;
    • `playedOn_recall`         — over a run, every visit recalls those before it;
    • `Origin.Begins`           — walks from the tiles of a definition;
    • `replacement_aims_once`   — one target for life.
-/
import TileEvents.Proofs.Session.Prompts
import TileEvents.Proofs.Session.TileReplay
import TileEvents.Proofs.Session.Validated
import TileEvents.Proofs.Walk.Targets

namespace TileEvents

open TileChange (recordAll)

/-! ## §1. The moves on one map. -/

/-- A move that was made: its report and its visits. -/
structure Played where
  report : Report
  visits : List Visit

namespace Playthrough

/-- **The moves of a run that are made on the map at a position**, in order. -/
def playedOn (p : Playthrough) (stage : Nat) : List Move → List Played
  | [] => []
  | move :: rest =>
    let later := (p.play move).2.playedOn stage rest
    if move.stage? = some stage then ⟨(p.play move).1, p.visits move⟩ :: later else later

/-- A move leaves the other maps as they are. -/
theorem play_elsewhere (p : Playthrough) {move : Move} {stage : Nat}
    (h : move.stage? ≠ some stage) : (p.play move).2.stages[stage]? = p.stages[stage]? := by
  have hne {stage' : Nat} (h : some stage' ≠ some stage) : stage' ≠ stage :=
    fun heq => h (congrArg some heq)
  have interacted {stage' : Nat} (f : Interplay) (h : stage' ≠ stage) :
      (p.interact stage' f).2.stages[stage]? = p.stages[stage]? := by
    unfold interact
    cases p.stages[stage']? with
    | none => rfl
    | some st => exact Array.getElem?_setIfInBounds_ne h
  have hend := p.play_ends move
  generalize p.play move = played at hend
  cases hend with
  | tile | character | walk | resume | forge => exact interacted _ (hne h)
  | quiet result q hresult hstages hsuspensions => exact congrArg (·[stage]?) hstages
  | placed stage' x y event st hst => exact Array.getElem?_setIfInBounds_ne (hne h)

/-- **What a move does to the map it is made on**: its visits lead from the targets that were
settled to those that are settled afterwards. -/
structure MovedOn (p : Playthrough) (visits : List Visit) (r : Report × Playthrough) (stage : Nat)
    (st st' : Stage) (s s' : Scene) : Prop where
  stays : r.2.stages[stage]? = some st'
  nodes : st'.map.nodes = st.map.nodes
  silent : s.calls = #[]
  begins : s.settled = st.settled
  leads : Leads p.context st.map s visits s'
  calls : r.1.calls = s'.calls
  ends : st'.settled = s'.settled

/-- **Every move that is made on a map is its visits there.** -/
theorem play_here {p : Playthrough} {stage : Nat} {st : Stage} (hst : p.stages[stage]? = some st)
    {move : Move} (h : move.stage? = some stage) :
    ∃ st' s s', p.MovedOn (p.visits move) (p.play move) stage st st' s s' := by
  rcases p.plays_or_idles move with ⟨stage', f, visits, hplays⟩ | ⟨hnone, q, result, hplay, hidles⟩
  · obtain rfl : stage' = stage := Option.some.inj (hplays.isOn.symm.trans h)
    rw [hplays.played, hplays.visited]
    unfold interact visitsOn
    rw [hst]
    exact ⟨{ st with settled := (f p.context st.map p.session _).2.2.settled }, _, _,
      setStage_self hst _, rfl, rfl, rfl, hplays.leads st.map _, rfl, rfl⟩
  -- a move that goes nowhere settles nothing
  · obtain ⟨st', hst', hnodes, hsettled⟩ := hidles.stages hst
    rw [hplay, hnone]
    exact ⟨st', ⟨p.save, p.dice, st.settled, #[], #[]⟩, ⟨p.save, p.dice, st.settled, #[], #[]⟩, hst',
      hnodes, rfl, rfl, .rest (.of_save rfl rfl rfl), rfl, hsettled⟩

/-! ## §2. A run recalls its visits. -/

/-- **Over a run the settled targets of a map recall all visits there.**  A visit finds the first
aims of those before it, and is what a step of a node of the map does. -/
theorem playedOn_recall {stage : Nat} {nodes : Array Node} (moves : List Move) :
    ∀ {p : Playthrough} {st : Stage} {earlier : List Visit}, p.stages[stage]? = some st →
      st.map.nodes = nodes → st.settled.Recall earlier →
      ∀ x ∈ p.playedOn stage moves,
        updates x.report.calls = x.visits.flatMap Visit.changes
          ∧ ∀ v ∈ x.visits,
              (∃ ctx m, m.nodes = nodes ∧ v.Happens ctx m)
                ∧ ∃ before, v.before.settled.Recall before
                    ∧ before ++ [v] <+: earlier ++ (p.playedOn stage moves).flatMap Played.visits := by
  -- on the moves; those on other maps leave this one as it is
  induction moves with
  | nil => exact fun _ _ _ => List.forall_mem_nil _
  | cons move moves ih =>
      intro p st earlier hst hnodes hsettled
      unfold playedOn
      dsimp only
      by_cases hmove : move.stage? = some stage
      · rw [if_pos hmove, List.forall_mem_cons, List.flatMap_cons, ← List.append_assoc]
        obtain ⟨st', s, s', hmoved⟩ := play_here hst hmove
        have hs : s.settled.Recall earlier := hmoved.begins ▸ hsettled
        obtain ⟨hvisits, hlast⟩ := hmoved.leads.recall hs
        refine ⟨⟨?_, ?_⟩, ?_⟩
        · rw [hmoved.calls, hmoved.leads.told, hmoved.silent]
          rfl
        · intro v hv
          obtain ⟨before, hbefore, hrecall⟩ := hvisits v hv
          refine ⟨⟨_, st.map, hnodes, hmoved.leads.happens v hv⟩, before, hrecall, ?_⟩
          exact hbefore.trans (List.prefix_append _ _)
        · exact ih hmoved.stays (hmoved.nodes.trans hnodes) (hmoved.ends ▸ hlast)
      · rw [if_neg hmove]
        exact ih ((p.play_elsewhere hmove).trans hst) hnodes hsettled

end Playthrough

/-! ## §3. Walks from the tiles of a definition. -/

/-- **A walk with this origin began on a tile of the definition**, unless it began at a character. -/
def Origin.Begins (d : MapDefinition) (origin : Origin) : Prop :=
  ∀ event, origin.event = some event → ∃ t ∈ d.tiles, origin = ⟨d.index, t.x, t.y, some t.event⟩

namespace Playthrough

/-- A game on the map of a definition whose suspended walks began there. -/
structure BeginsOn (d : MapDefinition) (m : GameMap) (p : Playthrough) : Prop where
  isOn : p.IsOn m
  begins : ∀ w ∈ p.suspensions, w.origin.Begins d

section Beginnings

variable {d : MapDefinition} {m : GameMap} {p : Playthrough}

/-- A move that keeps to the map makes nothing up. -/
theorem makesNothingUp_of_keepsTo {move : Move} (h : move.KeepsTo m) : move.MakesNothingUp := by
  cases move with
  | walk | forge => exact absurd h id
  | _ => trivial

/-- **Walks of such a game begin on its tiles**, unless they are made up. -/
theorem BeginsOn.comesFrom (hm : d.build = .ok m) (hp : p.BeginsOn d m) {origin : Origin}
    (h : p.ComesFrom origin) : origin.Begins d := by
  have hmap {st : Stage} (hst : st ∈ p.stages) : st.map = m := by
    obtain ⟨settled, hstages⟩ := hp.isOn.stage
    rw [hstages, Array.mem_singleton] at hst
    rw [hst]
  cases h with
  | tile hst hevent =>
      rw [hmap hst] at hevent ⊢
      obtain ⟨t, ht, rfl, rfl, rfl⟩ := MapDefinition.tileEvent?_of_build hm hevent
      obtain ⟨-, -, -, -, hindex, -⟩ := MapDefinition.build_eq_ok hm
      intro event _
      exact ⟨t, ht, by rw [hindex]⟩
  | character hst x y =>
      intro event hevent
      cases hevent
  | answered hw => exact hp.begins _ hw

/-- **Moves that keep to the map visit it in walks that began on its tiles.** -/
theorem visits_begin (hm : d.build = .ok m) (hp : p.BeginsOn d m) {move : Move}
    (h : move.KeepsTo m) : ∀ v ∈ p.visits move, v.origin.Begins d :=
  fun v hv => hp.comesFrom hm (visits_comeFrom (makesNothingUp_of_keepsTo h) v hv)

/-- And the walks they leave behind began there too. -/
theorem play_begins (hd : d.problems = []) (hm : d.build = .ok m) (hp : p.BeginsOn d m)
    {move : Move} (h : move.KeepsTo m) : (p.play move).2.BeginsOn d m where
  isOn := (play_sound (MapDefinition.build_isClosed hd hm) hp.isOn h).2
  begins w hw := hp.comesFrom hm (suspensions_comeFrom (makesNothingUp_of_keepsTo h) w hw)

/-- **Over a run that keeps to the map all walks began on its tiles.** -/
theorem playedOn_begins (hd : d.problems = []) (hm : d.build = .ok m) (stage : Nat)
    (moves : List Move) : ∀ {p : Playthrough}, p.BeginsOn d m → (∀ move ∈ moves, move.KeepsTo m) →
      ∀ x ∈ p.playedOn stage moves, ∀ v ∈ x.visits, v.origin.Begins d := by
  induction moves with
  | nil => exact fun _ _ => List.forall_mem_nil _
  | cons move moves ih =>
      intro p hp hmoves
      obtain ⟨hmove, hmoves⟩ := List.forall_mem_cons.1 hmoves
      have hlater := ih (play_begins hd hm hp hmove) hmoves
      unfold playedOn
      dsimp only
      split
      · exact List.forall_mem_cons.2 ⟨visits_begin hm hp hmove, hlater⟩
      · exact hlater

end Beginnings

end Playthrough

/-! ## §4. One target for life. -/

/-- **`target` is `raw` with its open fields filled in**: from the map of the origin, and with its
column and row counted from 1. -/
structure Origin.FillsIn (origin : Origin) (raw target : TileTarget) : Prop where
  map : target.map = if raw.map = 0 then origin.map else raw.map
  x : target.x.toNat = if raw.x = 0 then min (origin.x.toNat + 1) 255 else raw.x.toNat
  y : target.y.toNat = if raw.y = 0 then min (origin.y.toNat + 1) 255 else raw.y.toNat

/-- That is how a replacement takes aim. -/
theorem Origin.aim_fillsIn (origin : Origin) (raw : TileTarget) :
    origin.FillsIn raw (origin.aim raw) where
  map := rfl
  x := by
    unfold aim
    rw [apply_ite UInt8.toNat, Word.toNat_clamp8]
  y := by
    unfold aim
    rw [apply_ite UInt8.toNat, Word.toNat_clamp8]

/-- **A target filled in from a tile of a definition without problems lies on its map**: nothing is
cut off. -/
theorem Origin.FillsIn.inside {d : MapDefinition} (hd : d.problems = []) {t : TileDefinition}
    (ht : t ∈ d.tiles) {origin : Origin} (hx : origin.x = t.x) (hy : origin.y = t.y)
    {raw target : TileTarget} (h : origin.FillsIn raw target) :
    (raw.x = 0 → target.x.toNat = t.x.toNat + 1 ∧ t.x.toNat + 1 ≤ d.width.toNat)
      ∧ (raw.y = 0 → target.y.toNat = t.y.toNat + 1 ∧ t.y.toNat + 1 ≤ d.height.toNat) := by
  obtain ⟨hwidth, hheight, -, -⟩ := (MapDefinition.problems_eq_nil hd).2.2 t ht
  rw [UInt8.lt_iff_toNat_lt] at hwidth hheight
  have hwidth' := d.width.toNat_lt
  have hheight' := d.height.toNat_lt
  refine ⟨?_, ?_⟩
  · intro hraw
    rw [h.x, if_pos hraw, hx]
    omega
  · intro hraw
    rw [h.y, if_pos hraw, hy]
    omega

/-- **A tile replacement has one target for life.**  Take a definition without problems, a game that
has its map among others, and any moves.  The host is told of tiles in visits only, and what is
recorded is what it was told.  Every replacement of the map has a target that it keeps to in all of
its visits: whatever tile, character or suspended walk these come from, the host is told of this
target and of no other, and no other is recorded.  It is the target of the node with its open fields
filled in from the walk of the first visit.  If that walk began on a tile of the definition, what is
filled in is its column and row counted from 1, which lie on the map.  In a game on this map alone,
with moves that keep to it, all walks that did not begin at a character began on such a tile. -/
theorem replacement_aims_once {d : MapDefinition} {m : GameMap} (hd : d.problems = [])
    (hm : d.build = .ok m) (maps : List GameMap) (stage : Nat) (hstage : maps[stage]? = some m)
    (save : Savegame) (dice : Dice) (ctx : Context) (moves : List Move) :
    let game := Playthrough.start maps save dice ctx
    let played := game.playedOn stage moves
    let visits := played.flatMap Played.visits
    (∀ x ∈ played, updates x.report.calls = x.visits.flatMap Visit.changes)
      ∧ (game.playAll moves).2.save.tileChanges
          = recordAll save.tileChanges (reportedUpdates (game.playAll moves).1)
      ∧ (∃ target : NodeId → TileTarget,
          (∀ v ∈ visits, m.node v.node.id = .ok v.node ∧ v.AimsAt (target v.node.id))
            ∧ ∀ before v after r, visits = before ++ v :: after →
                v.node.payload = .changeTile r → (∀ u ∈ before, u.node.id ≠ v.node.id) →
                v.origin.FillsIn r.target (target v.node.id)
                  ∧ ∀ t ∈ d.tiles, v.origin.x = t.x → v.origin.y = t.y →
                    (r.target.x = 0 → (target v.node.id).x.toNat = t.x.toNat + 1
                        ∧ t.x.toNat + 1 ≤ d.width.toNat)
                      ∧ (r.target.y = 0 → (target v.node.id).y.toNat = t.y.toNat + 1
                        ∧ t.y.toNat + 1 ≤ d.height.toNat))
      ∧ (maps = [m] → (∀ move ∈ moves, move.KeepsTo m) →
          ∀ v ∈ visits, v.origin.Begins d) := by
  intro game played visits
  have hst : game.stages[stage]? = some ⟨m, []⟩ := by
    simp [game, Playthrough.start, hstage]
  have hunsettled : SettledTargets.Recall [] [] := fun id => rfl
  have hrun := Playthrough.playedOn_recall moves hst rfl hunsettled
  have hclosed : m.IsClosed := MapDefinition.build_isClosed hd hm
  -- a node that no visit ran may have any target
  refine ⟨fun x hx => (hrun x hx).1, game.playAll_records moves,
    ⟨fun id => (firstAim visits id).getD ⟨0, 0, 0⟩, ?_, ?_⟩, ?_⟩
  · intro v hv
    obtain ⟨x, hx, hv⟩ := List.mem_flatMap.1 hv
    obtain ⟨⟨ctx, m', hnodes, hhappens⟩, before, hrecall, hprefix⟩ := (hrun x hx).2 v hv
    refine ⟨?_, hhappens.keeps hrecall hprefix⟩
    obtain ⟨id, c, r, hn, -⟩ := hhappens
    have hn' : m.node id = .ok v.node := by
      rw [GameMap.node_eq_ok] at hn ⊢
      rw [← hn, hnodes]
    rw [hclosed.named hn']
    exact hn'
  · intro before v after r hvisits hr hfirst
    have hfills : v.origin.FillsIn r.target ((firstAim visits v.node.id).getD ⟨0, 0, 0⟩) := by
      rw [hvisits, firstAim_of_first hr hfirst]
      exact v.origin.aim_fillsIn r.target
    exact ⟨hfills, fun t ht hx hy => hfills.inside hd ht hx hy⟩
  · intro hmaps hmoves v hv
    obtain ⟨x, hx, hv⟩ := List.mem_flatMap.1 hv
    have hstart : game.BeginsOn d m := by
      subst hmaps
      exact ⟨⟨⟨[], rfl⟩, fun w hw => absurd hw (Array.not_mem_empty w)⟩,
        fun w hw => absurd hw (Array.not_mem_empty w)⟩
    exact Playthrough.playedOn_begins hd hm stage moves hstart hmoves x hx v hv

/-- Two tiles with events of their own lead to one replacement, whose map and column are open.  The
tile that is stepped on first, in column 2, decides both; the other tile and a character come after
it. -/
theorem replacement_aims_once_shared :
    let d : MapDefinition := ⟨1, "", false, 3, 2, 0, [⟨10, 0xffff, .changeTile 0 0 2 7⟩], [0, 0],
      [⟨2, 0, 1⟩, ⟨0, 1, 2⟩], []⟩
    d.problems = [] ∧ ∃ m, d.build = .ok m
      ∧ let visits := ((Playthrough.start [m] .blank (.ofScript []) (.plain [])).playedOn 0
          [.tile 0 2 0 .step, .tile 0 0 1 .step, .character 0 1 1 1 .talk]).flatMap Played.visits
        visits.map Visit.changes = [[⟨⟨1, 3, 2⟩, 7⟩], [⟨⟨1, 3, 2⟩, 7⟩], [⟨⟨1, 3, 2⟩, 7⟩]]
          ∧ ∃ target : NodeId → TileTarget, (target ⟨0⟩).x.toNat = 2 + 1
              ∧ ∀ v ∈ visits, v.AimsAt (target v.node.id) := by
  intro d
  have hd : d.problems = [] := by decide
  have hm : d.build = .ok ⟨1, "", false, 3, 2, 0,
      #[⟨⟨0⟩, .changeTile, none, .changeTile ⟨⟨0, 0, 2⟩, 7⟩⟩], #[⟨0⟩, ⟨0⟩],
      [⟨0, 1, 2⟩, ⟨2, 0, 1⟩], #[]⟩ := rfl
  refine ⟨hd, _, hm, by decide +kernel, ?_⟩
  obtain ⟨-, -, ⟨target, hkeeps, hfirst⟩, -⟩ := replacement_aims_once hd hm [_] 0 rfl .blank
    (.ofScript []) (.plain []) [.tile 0 2 0 .step, .tile 0 0 1 .step, .character 0 1 1 1 .talk]
  obtain ⟨-, hinside⟩ := hfirst [] _ _ _ rfl rfl (List.forall_mem_nil _)
  have hcolumn := (hinside ⟨2, 0, 1⟩ (by decide) rfl rfl).1 rfl
  exact ⟨target, hcolumn.1, fun v hv => (hkeeps v hv).2⟩

end TileEvents
