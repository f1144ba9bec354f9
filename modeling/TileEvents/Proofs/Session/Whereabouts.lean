/-
  TileEvents.Proofs.Session.Whereabouts
  ─────────────────────────────────────
  **THE HOST IS ALWAYS TOLD WHERE.**

  Nodes may leave the map they are about open, and replacements the column and
  the row as well: a zero stands for where the walk came from.  What is open is
  filled in before the host hears of it.  The map of a definition without
  problems is never map zero, every walk on it comes from there, and so does
  every walk that waits, however often it has been answered.

    • `TileTarget.Filled`                  — a target with nothing left open;
    • `Leads.filled`                       — replacements settle on such targets only;
    • `Playthrough.playAll_requests`       — the requests of a run are those of its
                                             visits;
    • `Playthrough.play_rooted`            — all walks come from the map of the game;
    • `host_always_told_where`             — no request and no record leaves a map
                                             open.
-/
import TileEvents.Proofs.Definition.Closed
import TileEvents.Proofs.Session.Prompts
import TileEvents.Proofs.Session.TileReplay
import TileEvents.Proofs.Walk.Requests
import TileEvents.Proofs.Walk.Targets

namespace TileEvents

/-! ## §1. Filled targets. -/

/-- **A target with nothing left open.** -/
structure TileTarget.Filled (t : TileTarget) : Prop where
  map : t.map ≠ 0
  x : 1 ≤ t.x
  y : 1 ≤ t.y

/-- Every replacement that settled has such a target. -/
def SettledTargets.Filled (settled : SettledTargets) : Prop :=
  ∀ id target, (settled.find? fun entry => entry.1 == id).map Prod.snd = some target →
    target.Filled

theorem Origin.mapOr_ne_zero {origin : Origin} (h : origin.map ≠ 0) (map : UInt16) :
    origin.mapOr map ≠ 0 := by
  unfold mapOr
  split
  · exact h
  · assumption

/-- A walk that comes from somewhere leaves nothing open. -/
theorem Origin.aim_filled {origin : Origin} (h : origin.map ≠ 0) (raw : TileTarget) :
    (origin.aim raw).Filled := by
  have filled (given from0 : UInt8) :
      1 ≤ if given = 0 then Word.clamp8 (from0.toNat + 1) else given := by
    rw [UInt8.le_iff_toNat_le]
    split
    · rw [Word.toNat_clamp8]
      exact Nat.le_min.2 ⟨Nat.le_add_left _ _, by decide⟩
    case isFalse hgiven =>
      have hne : given.toNat ≠ 0 := fun h0 => hgiven (UInt8.toNat_inj.1 h0)
      exact Nat.one_le_iff_ne_zero.2 hne
  exact ⟨origin.mapOr_ne_zero h raw.map, filled raw.x origin.x, filled raw.y origin.y⟩

theorem Scene.aimOf_filled {s : Scene} (hs : s.settled.Filled) {origin : Origin}
    (h : origin.map ≠ 0) (id : NodeId) (raw : TileTarget) : (s.aimOf id origin raw).Filled := by
  unfold aimOf
  cases hid : s.settledTarget? id with
  | none => exact Origin.aim_filled h raw
  | some target => exact hs id target hid

/-- A visit fills in what its replacement settles on. -/
theorem Visit.Happens.filled {ctx : Context} {m : GameMap} {v : Visit} (h : v.Happens ctx m)
    (horigin : v.origin.map ≠ 0) (hbefore : v.before.settled.Filled) : v.after.settled.Filled := by
  intro id target htarget
  have hafter : v.after.settledTarget? id = some target := htarget
  rw [h.settledTarget? id, Option.or_eq_some_iff] at hafter
  rcases hafter with hsettled | ⟨-, haim⟩
  · exact hbefore id target hsettled
  -- it settles now, on what it aims at by itself
  · unfold Visit.aim? at haim
    split at haim
    · split at haim
      · injection haim with haim
        rw [← haim]
        exact Origin.aim_filled horigin _
      · cases haim
    · cases haim

/-- **Walks that come from somewhere settle on filled targets only.** -/
theorem Leads.filled {ctx : Context} {m : GameMap} {s s' : Scene} {visits : List Visit}
    (h : Leads ctx m s visits s') (horigin : ∀ v ∈ visits, v.origin.map ≠ 0)
    (hs : s.settled.Filled) :
    (∀ v ∈ visits, v.before.settled.Filled) ∧ s'.settled.Filled := by
  have hwalk := h.invariant (I := fun s => s.settled.Filled) ?_ ?_ hs
  · exact ⟨fun v hv => (hwalk.1 v hv).1, hwalk.2⟩
  · intro s s' hsteady hs
    rw [hsteady.settled]
    exact hs
  · exact fun v hv => (h.happens v hv).filled (horigin v hv)

/-! ## §2. The requests of a run. -/

namespace Playthrough

theorem play_requests (p : Playthrough) (move : Move) :
    (p.play move).1.calls.toList = (p.visits move).flatMap Visit.requests := by
  obtain ⟨m, s, s', hmoved⟩ := p.play_moved move
  rw [hmoved.calls, hmoved.leads.calls, hmoved.silent]
  rfl

/-- **The requests of a run are those of its visits**, in order. -/
theorem playAll_requests (moves : List Move) : ∀ p : Playthrough,
    (p.playAll moves).1.flatMap (·.calls.toList) = (p.allVisits moves).flatMap Visit.requests := by
  induction moves with
  | nil => exact fun _ => rfl
  | cons move moves ih =>
      intro p
      show (p.play move).1.calls.toList ++ ((p.play move).2.playAll moves).1.flatMap _ = _
      rw [ih, play_requests, allVisits, List.flatMap_append]

end Playthrough

/-! ## §3. Walks that come from a map. -/

/-- **A visit in a walk that comes from this map**, with filled targets up to then. -/
structure Visit.ComesFrom (m : GameMap) (v : Visit) : Prop where
  happens : ∃ ctx m', m'.nodes = m.nodes ∧ v.Happens ctx m'
  origin : v.origin.map = m.index
  filled : v.before.settled.Filled

/-- A map with the index and the nodes of another, on which all settled targets are filled. -/
structure Stage.IsOf (m : GameMap) (st : Stage) : Prop where
  index : st.map.index = m.index
  nodes : st.map.nodes = m.nodes
  filled : st.settled.Filled

namespace Playthrough

/-- **A game whose walks all come from one map**, also those that wait. -/
structure Rooted (m : GameMap) (p : Playthrough) : Prop where
  stages : ∀ st ∈ p.stages, st.IsOf m
  suspensions : ∀ w ∈ p.suspensions, w.origin.map = m.index

section Rooted

variable {m : GameMap} {p : Playthrough}

/-- **A walk comes from the map** unless it is made up. -/
theorem Rooted.comesFrom (hp : p.Rooted m) {origin : Origin} (h : p.ComesFrom origin) :
    origin.map = m.index := by
  cases h with
  | tile hst hevent => exact (hp.stages _ hst).index
  | character hst x y => exact (hp.stages _ hst).index
  | answered hw => exact hp.suspensions _ hw

/-- An interaction whose visits come from the map keeps the game there. -/
theorem interact_rooted (hm : m.index ≠ 0) (hp : p.Rooted m) {f : Interplay}
    {visits : GameMap → Scene → List Visit}
    (hleads : ∀ m s, Leads p.context m s (visits m s) (f p.context m p.session s).2.2) {stage : Nat}
    (horigin : ∀ v ∈ p.visitsOn stage visits, v.origin.map = m.index) :
    (∀ v ∈ p.visitsOn stage visits, v.ComesFrom m)
      ∧ ∀ st ∈ (p.interact stage f).2.stages, st.IsOf m := by
  unfold Playthrough.visitsOn at horigin ⊢
  unfold interact
  cases hst : p.stages[stage]? with
  | none => exact ⟨List.forall_mem_nil _, hp.stages⟩
  | some st =>
      rw [hst] at horigin
      have hhere := hp.stages st (Array.mem_of_getElem? hst)
      have hwalk := hleads st.map ⟨p.save, p.dice, st.settled, #[], #[]⟩
      have hne : ∀ v ∈ visits st.map ⟨p.save, p.dice, st.settled, #[], #[]⟩, v.origin.map ≠ 0 :=
        fun v hv => (horigin v hv).symm ▸ hm
      obtain ⟨hvisits, hlast⟩ := hwalk.filled hne hhere.filled
      refine ⟨?_, ?_⟩
      · exact fun v hv => ⟨⟨_, _, hhere.nodes, hwalk.happens v hv⟩, horigin v hv, hvisits v hv⟩
      · intro st' hst'
        rcases Array.mem_or_eq_of_mem_setIfInBounds hst' with hbefore | rfl
        · exact hp.stages st' hbefore
        · exact ⟨hhere.index, hhere.nodes, hlast⟩

/-- A move visits the map and leaves it as it is but for its tiles and settled targets. -/
theorem play_stages (hm : m.index ≠ 0) (hp : p.Rooted m) {move : Move} (h : move.MakesNothingUp) :
    (∀ v ∈ p.visits move, v.ComesFrom m) ∧ ∀ st ∈ (p.play move).2.stages, st.IsOf m := by
  have horigin : ∀ v ∈ p.visits move, v.origin.map = m.index :=
    fun v hv => hp.comesFrom (visits_comeFrom h v hv)
  cases move with
  | tile stage x y interaction =>
      simp only [visits, play] at horigin ⊢
      refine interact_rooted hm hp ?_ horigin
      exact fun m s => p.session.leads_onTile p.context m x y _ s
  | character stage event x y interaction =>
      simp only [visits, play] at horigin ⊢
      refine interact_rooted hm hp ?_ horigin
      exact fun m s => p.session.leads_onCharacter p.context m event x y _ s
  | resume stage which answer =>
      simp only [visits, play] at horigin ⊢
      cases hw : p.suspension? which with
      | none => exact ⟨List.forall_mem_nil _, hp.stages⟩
      | some w =>
          rw [hw] at horigin
          refine interact_rooted hm hp ?_ horigin
          exact fun m s => leads_resume p.context m w answer s
  | walk | forge => exact absurd h id
  | inspectTarget stage id =>
      refine ⟨List.forall_mem_nil _, ?_⟩
      simp only [play]
      cases p.stages[stage]? <;> exact hp.stages
  | place stage x y event =>
      refine ⟨List.forall_mem_nil _, ?_⟩
      simp only [play]
      cases hst : p.stages[stage]? with
      | none => exact hp.stages
      | some st =>
          -- only its tiles are others
          intro st' hst'
          have hhere := hp.stages st (Array.mem_of_getElem? hst)
          rcases Array.mem_or_eq_of_mem_setIfInBounds hst' with hbefore | rfl
          · exact hp.stages st' hbefore
          · exact ⟨hhere.index, hhere.nodes, hhere.filled⟩
  | _ => exact ⟨List.forall_mem_nil _, hp.stages⟩

/-- **A move that makes nothing up keeps all walks on the map.** -/
theorem play_rooted (hm : m.index ≠ 0) (hp : p.Rooted m) {move : Move} (h : move.MakesNothingUp) :
    (p.play move).2.Rooted m where
  stages := (play_stages hm hp h).2
  suspensions w hw := hp.comesFrom (suspensions_comeFrom h w hw)

/-- **Over a run that makes nothing up all visits come from the map.** -/
theorem allVisits_comeFrom (hm : m.index ≠ 0) (moves : List Move) : ∀ {p : Playthrough},
    p.Rooted m → (∀ move ∈ moves, move.MakesNothingUp) →
    ∀ v ∈ p.allVisits moves, v.ComesFrom m := by
  induction moves with
  | nil => exact fun _ _ => List.forall_mem_nil _
  | cons move moves ih =>
      intro p hp hmoves
      obtain ⟨hmove, hmoves⟩ := List.forall_mem_cons.1 hmoves
      rw [allVisits, List.forall_mem_append]
      exact ⟨(play_stages hm hp hmove).1, ih (play_rooted hm hp hmove) hmoves⟩

end Rooted

end Playthrough

/-! ## §4. What the host is told. -/

/-- **The node tells where**: a teleport or a spawn goes to the node's own map, or to this one if
the node leaves it open, and a replacement goes to a tile with nothing left open.  Other requests
are about no map. -/
def Node.TellsWhere (n : Node) (index : UInt16) : HostCall → Prop
  | .teleport map x y direction transition =>
    map ≠ 0 ∧ ∃ own, n.payload = .teleport own x y direction transition
      ∧ map = if own = 0 then index else own
  | .spawn map x y travelType =>
    map ≠ 0 ∧ ∃ own, n.payload = .spawn own x y travelType
      ∧ map = if own = 0 then index else own
  | .updateTile target tile => target.Filled ∧ ∃ raw, n.payload = .changeTile ⟨raw, tile⟩
  | _ => True

/-- **A node tells where**, begun with filled targets by a walk that comes from somewhere. -/
theorem Node.Makes.tellsWhere {origin : Origin} {n : Node} {s : Scene} {c : HostCall}
    (h : n.Makes origin s c) (hs : s.settled.Filled) (horigin : origin.map ≠ 0) :
    n.TellsWhere origin.map c := by
  cases h with
  | asks h =>
      cases h with
      | @teleport own _ _ _ _ hn => exact ⟨origin.mapOr_ne_zero horigin own, own, hn, rfl⟩
      | @spawn own _ _ _ hn => exact ⟨origin.mapOr_ne_zero horigin own, own, hn, rfl⟩
      | _ => trivial
  | turns | uncurses => trivial
  | @replaces r hn => exact ⟨Scene.aimOf_filled hs horigin n.id r.target, r.target, hn⟩

/-- So does the node of a visit that comes from a map. -/
theorem Visit.ComesFrom.tellsWhere {m : GameMap} {v : Visit} (h : v.ComesFrom m)
    (hm : m.index ≠ 0) : ∀ c ∈ v.requests, v.node.TellsWhere m.index c := by
  intro c hc
  obtain ⟨ctx, m', -, hhappens⟩ := h.happens
  have hmakes := hhappens.makes.2 c hc
  rw [← h.origin] at hm ⊢
  exact hmakes.tellsWhere h.filled hm

/-- **The host is always told where.**  Take the map of a definition without problems, any savegame,
dice and context to begin with, and any moves, among them answers to the suspensions that came up,
to each as often as one likes.  The map has an index, and that is where every visit came from,
however often its walk was picked up again.  The requests to the host are those of the visits, in
order.  A teleport or a spawn goes to the map that the node names, or to this one if it names none,
and never to map zero.  Every tile that the host is told of has a map, a column and a row, and so
has every recorded tile that the savegame did not have before. -/
theorem host_always_told_where {d : MapDefinition} {m : GameMap} (hd : d.problems = [])
    (hm : d.build = .ok m) (save : Savegame) (dice : Dice) (ctx : Context) (moves : List Move)
    (hmoves : ∀ move ∈ moves, move.MakesNothingUp) :
    let game := Playthrough.start [m] save dice ctx
    let visits := game.allVisits moves
    m.index ≠ 0
      ∧ (game.playAll moves).1.flatMap (·.calls.toList) = visits.flatMap Visit.requests
      ∧ (∀ v ∈ visits, v.node ∈ m.nodes ∧ v.origin.map = m.index
          ∧ ∀ c ∈ v.requests, v.node.TellsWhere m.index c)
      ∧ ∀ c ∈ (game.playAll moves).2.save.tileChanges, c ∈ save.tileChanges ∨ c.target.Filled := by
  intro game visits
  have hindex : m.index ≠ 0 := by
    obtain ⟨-, -, -, -, hsame, -⟩ := MapDefinition.build_eq_ok hm
    rw [hsame]
    intro hzero
    have hreport := MapDefinition.mem_problems.2 (.index hzero)
    rw [hd] at hreport
    cases hreport
  have hstart : game.Rooted m := by
    refine ⟨?_, fun w hw => absurd hw (Array.not_mem_empty w)⟩
    intro st hst
    have hst : st ∈ #[Stage.mk m []] := hst
    obtain rfl := Array.mem_singleton.1 hst
    exact ⟨rfl, rfl, nofun⟩
  have hrun := Playthrough.allVisits_comeFrom hindex moves hstart hmoves
  have hrequests := game.playAll_requests moves
  refine ⟨hindex, hrequests, ?_, ?_⟩
  · intro v hv
    have hv := hrun v hv
    obtain ⟨ctx, m', hnodes, id, c, r, hn, -⟩ := hv.happens
    have hmem : v.node ∈ m'.nodes := Array.mem_of_getElem? (GameMap.node_eq_ok.1 hn)
    exact ⟨hnodes ▸ hmem, hv.origin, hv.tellsWhere hindex⟩
  · intro c hc
    rw [game.playAll_records] at hc
    rcases TileChange.mem_recordAll hc with hbefore | htold
    · exact .inl hbefore
    -- what was recorded was told, and what was told was asked in a visit
    · obtain ⟨report, hreport, hupdate⟩ := List.mem_flatMap.1 htold
      have hcall : .updateTile c.target c.tile ∈ visits.flatMap Visit.requests := by
        rw [← hrequests]
        exact List.mem_flatMap.2 ⟨report, hreport, mem_updates hupdate⟩
      obtain ⟨v, hv, hmem⟩ := List.mem_flatMap.1 hcall
      exact .inr ((hrun v hv).tellsWhere hindex _ hmem).1

/-- A replacement, a spawn and a teleport behind a text, all open.  The text comes up on tile 2 of
the first row and is closed twice; what the first answer has settled stays so. -/
theorem host_always_told_where_answered :
    let d : MapDefinition := ⟨6, "", false, 3, 1, 0,
      [⟨4, 1, .popupText 0 none true false⟩, ⟨10, 2, .changeTile 0 0 0 7⟩, ⟨22, 3, .spawn 0 4 4 1⟩,
        ⟨1, 0xffff, .teleport 0 5 5 none 0⟩], [0], [⟨2, 0, 1⟩], [""]⟩
    let moves : List Move := [.tile 0 2 0 .step, .resume 0 none .closed, .resume 0 (some 0) .closed]
    d.problems = [] ∧ ∃ m, d.build = .ok m
      ∧ let played := (Playthrough.start [m] .blank (.ofScript []) (.plain [])).playAll moves
        let told : List HostCall := [.updateTile ⟨6, 3, 1⟩ 7, .spawn 6 4 4 1,
          .teleport 6 5 5 none .teleporter]
        played.1.flatMap (·.calls.toList) = told ++ told
          ∧ ∀ c ∈ played.2.save.tileChanges, c.target.Filled := by
  intro d moves
  have hd : d.problems = [] := by decide
  have hm : d.build = .ok ⟨6, "", false, 3, 1, 0,
      #[⟨⟨0⟩, .popupText, some ⟨1⟩, .popupText 0 none true false⟩,
        ⟨⟨1⟩, .changeTile, some ⟨2⟩, .changeTile ⟨⟨0, 0, 0⟩, 7⟩⟩,
        ⟨⟨2⟩, .spawn, some ⟨3⟩, .spawn 0 4 4 1⟩,
        ⟨⟨3⟩, .teleport, none, .teleport 0 5 5 none .teleporter⟩],
      #[⟨0⟩], [⟨2, 0, 1⟩], #[""]⟩ := rfl
  have hmoves : ∀ move ∈ moves, move.MakesNothingUp := by
    simp [moves, Move.MakesNothingUp]
  obtain ⟨-, -, -, hrecorded⟩ :=
    host_always_told_where hd hm .blank (.ofScript []) (.plain []) moves hmoves
  refine ⟨hd, _, hm, by decide +kernel, ?_⟩
  exact fun c hc => (hrecorded c hc).resolve_left List.not_mem_nil

end TileEvents
