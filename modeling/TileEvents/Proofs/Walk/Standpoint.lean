/-
  TileEvents.Proofs.Walk.Standpoint
  ─────────────────────────────────
  **WHERE A WALK STANDS MATTERS TO OPEN TARGETS ONLY.**

  The origin of a walk holds a column and a row.  Nodes pass them on to the
  suspensions of the walk, and read them for one purpose: a tile replacement
  that has not settled fills its open fields in from them.  Where no such
  field is left, the same walk from another tile does the same.

    • `Origin.at`, `Suspension.at`, `Outcome.at` — the same from another tile;
    • `GameMap.AimsFixed`                        — no column or row is open;
    • `Node.step_at`                             — one node;
    • `walk_at`, `resume_at`                     — walks, by induction.
-/
import TileEvents.Proofs.Walk.Targets

namespace TileEvents

/-! ## §1. From another tile. -/

/-- The origin with another column and row. -/
def Origin.at (origin : Origin) (x y : UInt8) : Origin := { origin with x := x, y := y }

/-- The suspension of a walk from another tile. -/
def Suspension.at (w : Suspension) (x y : UInt8) : Suspension := { w with origin := w.origin.at x y }

/-- The outcome of a walk from another tile. -/
def Outcome.at (x y : UInt8) : Outcome → Outcome
  | .suspended w => .suspended (w.at x y)
  | o => o

/-- What a walk from another tile comes to: the same but for the origin of its suspension. -/
def seenFrom (x y : UInt8) (r : Except ChainError Outcome × Scene) :
    Except ChainError Outcome × Scene :=
  (r.1.map (Outcome.at x y), r.2)

/-! ## §2. Fixed aims. -/

/-- **No replacement of the map waits for a column or a row**: each has settled or has both. -/
def GameMap.AimsFixed (m : GameMap) (s : Scene) : Prop :=
  ∀ n ∈ m.nodes, ∀ r, n.payload = .changeTile r →
    (s.settledTarget? n.id).isSome ∨ r.target.x ≠ 0 ∧ r.target.y ≠ 0

namespace GameMap.AimsFixed

variable {ctx : Context} {m : GameMap} {s s' : Scene}

/-- What leaves the settled targets alone keeps the aims fixed. -/
theorem congr (h : m.AimsFixed s) (hsettled : s'.settled = s.settled) : m.AimsFixed s' := by
  unfold AimsFixed Scene.settledTarget?
  rw [hsettled]
  exact h

/-- **Visits keep the aims fixed**, for what has settled stays so. -/
theorem leads {visits : List Visit} (h : m.AimsFixed s) (hleads : Leads ctx m s visits s') :
    m.AimsFixed s' := by
  refine (hleads.invariant (I := m.AimsFixed) ?_ ?_ h).2
  · intro s s' hsteady hs
    exact hs.congr hsteady.settled
  · intro v hv hbefore n hn r hr
    rw [(hleads.happens v hv).settledTarget?]
    rcases hbefore n hn r hr with hsettled | hclosed
    · left
      rw [Option.isSome_or, hsettled, Bool.true_or]
    · exact .inr hclosed

/-- A replacement whose aim is fixed aims at the same tile from everywhere on a map. -/
theorem aimOf (h : m.AimsFixed s) {n : Node} (hn : n ∈ m.nodes) {r : TileReplacement}
    (hr : n.payload = .changeTile r) (origin : Origin) (x y : UInt8) :
    s.aimOf n.id (origin.at x y) r.target = s.aimOf n.id origin r.target := by
  unfold Scene.aimOf
  rcases h n hn r hr with hsettled | ⟨hx, hy⟩
  · obtain ⟨target, htarget⟩ := Option.isSome_iff_exists.1 hsettled
    rw [htarget]
    rfl
  · have haim : (origin.at x y).aim r.target = origin.aim r.target := by
      unfold Origin.aim
      rw [if_neg hx, if_neg hy, if_neg hx, if_neg hy]
      rfl
    rw [haim]

end GameMap.AimsFixed

/-! ## §3. One node. -/

/-- A replacement that aims at the same tile is the same replacement. -/
theorem Scene.replaceTile_at {s : Scene} {id : NodeId} {origin : Origin} {r : TileReplacement}
    {x y : UInt8} (haim : s.aimOf id (origin.at x y) r.target = s.aimOf id origin r.target) :
    s.replaceTile id (origin.at x y) r = s.replaceTile id origin r := by
  have hsettle : s.settle id (origin.at x y) r.target = s.settle id origin r.target := by
    unfold settle
    unfold aimOf at haim
    cases htarget : s.settledTarget? id with
    | some target => rfl
    | none =>
        rw [htarget] at haim
        simp only [Option.getD_none] at haim
        rw [haim]
  unfold replaceTile
  rw [hsettle]
  rfl

/-- **No other node reads the column and the row.** -/
theorem Node.perform_at {n : Node} (hn : ∀ r, n.payload ≠ .changeTile r) (ctx : Context)
    (m : GameMap) (origin : Origin) (x y : UInt8) (c : Cursor) :
    n.perform ctx m (origin.at x y) c = n.perform ctx m origin c := by
  obtain ⟨id, declared, next, payload⟩ := n
  cases payload with
  | changeTile r => exact absurd rfl (hn r)
  | _ => rfl

/-- **A step from another tile is the same step** where the aims are fixed. -/
theorem Node.step_at {n : Node} {m : GameMap} {s : Scene} (hn : n ∈ m.nodes) (h : m.AimsFixed s)
    (ctx : Context) (origin : Origin) (x y : UInt8) (c : Cursor) :
    n.step ctx m (origin.at x y) c s = n.step ctx m origin c s := by
  by_cases hr : ∃ r, n.payload = .changeTile r
  · obtain ⟨r, hr⟩ := hr
    have hreplace (t : Scene) (ht : t.settled = s.settled) :
        t.replaceTile n.id (origin.at x y) r = t.replaceTile n.id origin r :=
      Scene.replaceTile_at ((h.congr ht).aimOf hn hr origin x y)
    unfold step
    simp only [perform, hr]
    rw [hreplace (s.remark n.id s!"{n.declared.inspect} ({c.trigger.name})") rfl]
  · unfold step
    rw [perform_at fun r hr' => hr ⟨r, hr'⟩]

/-! ## §4. Walks. -/

section Walks

variable {m : GameMap} (ctx : Context) (origin : Origin) (x y : UInt8)

/-- **A walk from another tile is the same walk** where the aims are fixed. -/
theorem walkFrom_at (start : NodeId) (limit : Nat) :
    ∀ (left : Nat) (id : NodeId) (c : Cursor) {s : Scene}, m.AimsFixed s →
      walkFrom ctx m (origin.at x y) start limit left id c s
        = seenFrom x y (walkFrom ctx m origin start limit left id c s) := by
  -- on the steps that are left; a node hands fixed aims over to the next
  intro left
  induction left with
  | zero => intro id c s h; rfl
  | succ left ih =>
      intro id c s h
      unfold walkFrom
      cases hn : m.node id with
      | error e => rfl
      | ok n =>
          simp only
          have hmem : n ∈ m.nodes := Array.mem_of_getElem? (GameMap.node_eq_ok.1 hn)
          rw [Node.step_at hmem h]
          cases hstep : n.step ctx m origin c s with
          | mk result s' =>
              match result, hstep with
              | .error e, _ => rfl
              | .ok (.reject, _), _ => rfl
              | .ok (.await prompt, _), _ => rfl
              | .ok (.goto none, _), _ => rfl
              | .ok (.goto (some next), c'), hstep =>
                  refine ih next c' ?_
                  have hvisit : Visit.Happens ctx m ⟨origin, n, s, s'⟩ := ⟨id, c, _, hn, hstep⟩
                  exact h.leads (.visit (.of_save rfl rfl rfl) hvisit (.rest (.of_save rfl rfl rfl)))

theorem walk_at {s : Scene} (h : m.AimsFixed s) (start : NodeId) (trigger : Trigger)
    (status : Bool) :
    walk ctx m (origin.at x y) start trigger status s
      = seenFrom x y (walk ctx m origin start trigger status s) :=
  walkFrom_at ctx origin x y start _ _ start _ (h.congr rfl)

/-- **A walk that is picked up again from another tile** is the same walk, too. -/
theorem resume_at {s : Scene} (h : m.AimsFixed s) (w : Suspension) (a : Answer) :
    resume ctx m (w.at x y) a s = seenFrom x y (resume ctx m w a s) := by
  unfold resume Suspension.at
  dsimp only
  cases m.node w.node with
  | error e => rfl
  | ok n =>
      dsimp only
      cases n.check with
      | error e => rfl
      | ok u =>
          dsimp only
          split
          · rfl
          · next branch _ =>
              match branch with
              | .proceed (some next) status =>
                  have hanswered : m.AimsFixed (s.answered n w a) := h.congr rfl
                  exact walk_at ctx w.origin x y hanswered next .always status
              | .proceed none status => rfl
              | .abort => rfl
              | .again => rfl

end Walks

end TileEvents
