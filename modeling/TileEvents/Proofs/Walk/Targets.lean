/-
  TileEvents.Proofs.Walk.Targets
  ──────────────────────────────
  **A TILE REPLACEMENT TAKES AIM ONCE.**

  The target of a replacement may leave fields open.  They are filled in from
  where the walk came from that visits the node first, and written down: the
  settled targets are all that a map remembers of earlier walks.  So they are
  read here as a memory of visits.

    • `Visit.changes`         — the tiles a visit tells the host of;
    • `Visit.Happens.changes` — they are those of the replacement, if its node
                                is one;
    • `firstAim`              — what a replacement aimed at when it was visited
                                first;
    • `Leads.recall`          — a walk recalls the first aims, of its own visits
                                and of those before it;
    • `Visit.Happens.keeps`   — and every replacement keeps to them.
-/
import TileEvents.Proofs.Walk.Settling

namespace TileEvents

open TileChange (recordAll)

/-! ## §1. What a visit changes. -/

/-- The tiles that a node with this payload replaces if it aims at `target`. -/
def Payload.changesAt (target : TileTarget) : Payload → List TileChange
  | .changeTile r => [⟨target, r.tile⟩]
  | _ => []

/-- The tiles that the host is told of in a visit. -/
def Visit.changes (v : Visit) : List TileChange :=
  (updates v.after.calls).drop (updates v.before.calls).length

/-- **In this visit a replacement aims at `target`**: the host is told of that tile and it is
recorded, and nothing else is.  Any other node tells of no tile and records none. -/
structure Visit.AimsAt (v : Visit) (target : TileTarget) : Prop where
  told : v.changes = v.node.payload.changesAt target
  recorded : v.after.save.tileChanges = recordAll v.before.save.tileChanges v.changes

/-- What the visited node aims at by itself, if it is the replacement `id`. -/
def Visit.aim? (id : NodeId) (v : Visit) : Option TileTarget :=
  match v.node.payload with
  | .changeTile r => if v.node.id = id then some (v.origin.aim r.target) else none
  | _ => none

theorem Visit.aim?_of_eq {v : Visit} {r : TileReplacement} (hr : v.node.payload = .changeTile r)
    (id : NodeId) : v.aim? id = if v.node.id = id then some (v.origin.aim r.target) else none := by
  unfold aim?
  rw [hr]

theorem Visit.aim?_of_ne {v : Visit} (h : ∀ r, v.node.payload ≠ .changeTile r) (id : NodeId) :
    v.aim? id = none := by
  unfold aim?
  split
  case h_1 r hr => exact absurd hr (h r)
  case h_2 => rfl

namespace Visit.Happens

variable {ctx : Context} {m : GameMap} {v : Visit}

/-- A visit of a replacement does what replacements do, but for the log. -/
theorem replaces (h : v.Happens ctx m) {r : TileReplacement} (hr : v.node.payload = .changeTile r) :
    v.after.unlogged = (v.before.replaceTile v.node.id v.origin r).unlogged := by
  obtain ⟨id, c, d, hn, hstep⟩ := h
  obtain ⟨f, t, hf, ht, hafter⟩ := Node.perform_of_step hstep
  simp only [Node.perform, hr] at hf
  injection hf with hf
  subst hf
  refine hafter.symm.trans ?_
  exact Scene.eq_of_unlogged_eq (fun s => (s.replaceTile v.node.id v.origin r).unlogged)
    (fun s => s.replaceTile_unlogged v.node.id v.origin r) ht

/-- A visit of any other node leaves the tiles alone. -/
theorem sameTiles (h : v.Happens ctx m) (hne : ∀ r, v.node.payload ≠ .changeTile r) :
    v.before.SameTiles v.after := by
  obtain ⟨id, c, d, hn, hstep⟩ := h
  obtain ⟨t, t', ht, ht', haffects⟩ := Node.step_affects hstep
  obtain ⟨hsave, hsettled, hcalls⟩ := Scene.eq_but_log ht
  obtain ⟨hsave', hsettled', hcalls'⟩ := Scene.eq_but_log ht'
  rcases haffects.tiles with ⟨r, hr, -⟩ | hsame
  · exact absurd hr (hne r)
  · obtain ⟨hrecorded, htold, hsame⟩ := hsame
    rw [hsave, hsave'] at hrecorded
    rw [hcalls, hcalls'] at htold
    rw [hsettled, hsettled'] at hsame
    exact ⟨hrecorded, htold, hsame⟩

/-- What a visit tells the host of comes after what it had been told. -/
theorem told (h : v.Happens ctx m) : updates v.after.calls = updates v.before.calls ++ v.changes := by
  obtain ⟨id, c, d, hn, hstep⟩ := h
  obtain ⟨t, t', ht, ht', haffects⟩ := Node.step_affects hstep
  obtain ⟨changes, -, htold⟩ := haffects.recordAll
  rw [(Scene.eq_but_log ht).2.2, (Scene.eq_but_log ht').2.2] at htold
  unfold Visit.changes
  rw [htold, List.drop_left]

/-- **A replacement aims where it is settled, or where it aims by itself.** -/
theorem aimsAt (h : v.Happens ctx m) {target : TileTarget}
    (htarget : ∀ r, v.node.payload = .changeTile r →
      v.before.aimOf v.node.id v.origin r.target = target) : v.AimsAt target := by
  by_cases hr : ∃ r, v.node.payload = .changeTile r
  · obtain ⟨r, hr⟩ := hr
    obtain ⟨hrecorded, htold⟩ := v.before.replaceTile_recordAll v.node.id v.origin r
    obtain ⟨hsave, -, hcalls⟩ := Scene.eq_but_log (h.replaces hr)
    rw [Scene.settle_eq, htarget r hr] at hrecorded htold
    have hchanges : v.changes = [⟨target, r.tile⟩] := by
      unfold changes
      rw [hcalls, htold, List.drop_left]
    refine ⟨?_, ?_⟩
    · rw [hchanges, hr]
      rfl
    · rw [hchanges, hsave, hrecorded]
  · have hne : ∀ r, v.node.payload ≠ .changeTile r := fun r hr' => hr ⟨r, hr'⟩
    have hsame := h.sameTiles hne
    have hchanges : v.changes = [] := by
      unfold changes
      rw [hsame.told]
      exact List.drop_length
    refine ⟨?_, ?_⟩
    · rw [hchanges]
      unfold Payload.changesAt
      split
      case h_1 r hr' => exact absurd hr' (hne r)
      case h_2 => rfl
    · rw [hchanges, hsame.recorded]
      rfl

/-- **What a replacement is settled on never changes**, and is what it aimed at by itself. -/
theorem settledTarget? (h : v.Happens ctx m) (id : NodeId) :
    v.after.settledTarget? id = (v.before.settledTarget? id).or (v.aim? id) := by
  by_cases hr : ∃ r, v.node.payload = .changeTile r
  · obtain ⟨r, hr⟩ := hr
    obtain ⟨-, hsettled, -⟩ := Scene.eq_but_log (h.replaces hr)
    have hafter : v.after.settledTarget? id
        = (v.before.settle v.node.id v.origin r.target).2.settledTarget? id := by
      unfold Scene.settledTarget?
      rw [hsettled, Scene.replaceTile_settled]
    rw [hafter, Scene.settledTarget?_settle, aim?_of_eq hr]
    unfold Scene.aimOf
    split
    case isTrue hid =>
      rw [hid]
      cases v.before.settledTarget? id <;> rfl
    case isFalse => rw [Option.or_none]
  · have hne : ∀ r, v.node.payload ≠ .changeTile r := fun r hr' => hr ⟨r, hr'⟩
    unfold Scene.settledTarget?
    rw [(h.sameTiles hne).settled, aim?_of_ne hne, Option.or_none]

end Visit.Happens

/-- **A walk tells the host what its visits tell**, in order. -/
theorem Leads.told {ctx : Context} {m : GameMap} {s s' : Scene} {visits : List Visit}
    (h : Leads ctx m s visits s') :
    updates s'.calls = updates s.calls ++ visits.flatMap Visit.changes := by
  induction h with
  | rest h => rw [h.calls, List.flatMap_nil, List.append_nil]
  | visit hs hv _ ih => rw [ih, hv.told, hs.calls, List.flatMap_cons, List.append_assoc]

/-! ## §2. First aims. -/

/-- **What the replacement `id` aimed at by itself at the first of its visits.** -/
def firstAim (visits : List Visit) (id : NodeId) : Option TileTarget :=
  visits.findSome? (Visit.aim? id)

theorem firstAim_append (visits visits' : List Visit) (id : NodeId) :
    firstAim (visits ++ visits') id = (firstAim visits id).or (firstAim visits' id) :=
  List.findSome?_append

theorem firstAim_singleton (v : Visit) (id : NodeId) : firstAim [v] id = v.aim? id :=
  List.findSome?_singleton

/-- At the first visit of a replacement its first aim is taken. -/
theorem firstAim_of_first {before after : List Visit} {v : Visit} {r : TileReplacement}
    (hr : v.node.payload = .changeTile r) (hfirst : ∀ u ∈ before, u.node.id ≠ v.node.id) :
    firstAim (before ++ v :: after) v.node.id = some (v.origin.aim r.target) := by
  have hbefore : firstAim before v.node.id = none := by
    refine List.findSome?_eq_none_iff.2 ?_
    intro u hu
    unfold Visit.aim?
    split
    case h_1 => rw [if_neg (hfirst u hu)]
    case h_2 => rfl
  have hhere : v.aim? v.node.id = some (v.origin.aim r.target) := by
    rw [Visit.aim?_of_eq hr, if_pos rfl]
  rw [firstAim_append, hbefore, Option.none_or]
  unfold firstAim
  rw [List.findSome?_cons, hhere]

/-- **The settled targets are the first aims of these visits.** -/
def SettledTargets.Recall (settled : SettledTargets) (visits : List Visit) : Prop :=
  ∀ id, (settled.find? fun entry => entry.1 == id).map Prod.snd = firstAim visits id

/-- A visit is recalled from then on. -/
theorem Visit.Happens.recall {ctx : Context} {m : GameMap} {v : Visit} (h : v.Happens ctx m)
    {earlier : List Visit} (hbefore : v.before.settled.Recall earlier) :
    v.after.settled.Recall (earlier ++ [v]) := by
  intro id
  rw [firstAim_append, firstAim_singleton, ← hbefore id]
  exact h.settledTarget? id

/-- **A replacement keeps to its first aim.** -/
theorem Visit.Happens.keeps {ctx : Context} {m : GameMap} {v : Visit} (h : v.Happens ctx m)
    {earlier visits : List Visit} (hbefore : v.before.settled.Recall earlier)
    (hvisits : earlier ++ [v] <+: visits) :
    v.AimsAt ((firstAim visits v.node.id).getD ⟨0, 0, 0⟩) := by
  refine h.aimsAt ?_
  intro r hr
  obtain ⟨later, rfl⟩ := hvisits
  have hhere : v.aim? v.node.id = some (v.origin.aim r.target) := by
    rw [Visit.aim?_of_eq hr, if_pos rfl]
  unfold Scene.aimOf Scene.settledTarget?
  rw [hbefore v.node.id, firstAim_append, firstAim_append, firstAim_singleton, hhere]
  cases firstAim earlier v.node.id <;> rfl

/-- **A walk recalls the visits before it and its own**, and every visit those before it. -/
theorem Leads.recall {ctx : Context} {m : GameMap} {s s' : Scene} {visits : List Visit}
    (h : Leads ctx m s visits s') {earlier : List Visit} (hs : s.settled.Recall earlier) :
    (∀ v ∈ visits, ∃ before, before ++ [v] <+: earlier ++ visits ∧ v.before.settled.Recall before)
      ∧ s'.settled.Recall (earlier ++ visits) := by
  induction h generalizing earlier with
  | rest h =>
      rw [List.append_nil, h.settled]
      exact ⟨List.forall_mem_nil _, hs⟩
  | @visit s s' v visits hbefore hv _ ih =>
      have hv_before : v.before.settled.Recall earlier := hbefore.settled ▸ hs
      obtain ⟨hrest, hlast⟩ := ih (hv.recall hv_before)
      rw [List.append_assoc, List.singleton_append] at hrest hlast
      refine ⟨?_, hlast⟩
      rw [List.forall_mem_cons]
      refine ⟨⟨earlier, ?_, hv_before⟩, hrest⟩
      exact ⟨visits, by rw [List.append_assoc, List.singleton_append]⟩

end TileEvents
