/-
  TileEvents.Proofs.Walk.Visits
  ─────────────────────────────
  **THE NODES THAT RAN, WITH THE SCENES THEY FOUND AND LEFT.**

  A visit is a node that ran, with the scene it was begun in and the scene it
  left.  From one visit of a walk to the next, and from the scene a walk is
  asked for to the first, only the log and the locks can change.  So what holds
  of the party, the replaced tiles, the settled targets or the requests at the
  beginning, and is kept by every visit, holds all the way.

    • `visitsFrom`, `walkVisits`, `resumeVisits` — the visits of a walk;
    • `Leads`                                    — visits from scene to scene;
    • `Leads.invariant`                          — what every visit keeps;
    • `leads_walk`, `leads_resume`               — a walk leads to its last scene.
-/
import TileEvents.Proofs.Walk.Unlogged

namespace TileEvents

/-! ## §1. Visits. -/

/-- A node that ran in a walk with this origin, the scene it was begun in and the scene it left. -/
structure Visit where
  origin : Origin
  node : Node
  before : Scene
  after : Scene

section Visits

variable (ctx : Context) (m : GameMap)

/-- The visits of a walk from node `id` with `left` nodes still allowed, in order.  A node that fails
is not visited. -/
def visitsFrom (origin : Origin) : Nat → NodeId → Cursor → Scene → List Visit
  | 0, _, _, _ => []
  | left + 1, id, cursor, s =>
    match m.node id with
    | .error _ => []
    | .ok n =>
      match n.step ctx m origin cursor s with
      | (.error _, _) => []
      | (.ok (.goto (some next), cursor), s') =>
        ⟨origin, n, s, s'⟩ :: visitsFrom origin left next cursor s'
      | (.ok _, s') => [⟨origin, n, s, s'⟩]

/-- The scene in which a walk comes to its first node. -/
def Scene.atStart (s : Scene) (start : NodeId) (trigger : Trigger) : Scene :=
  s.note .info s!"walking chain from node {start.text} on map {m.index} ({trigger.name})"

/-- **The visits of a walk.** -/
def walkVisits (origin : Origin) (start : NodeId) (trigger : Trigger) (status : Bool) (s : Scene) :
    List Visit :=
  visitsFrom ctx m origin ctx.settings.maxChainSteps start ⟨trigger, status⟩
    (s.atStart m start trigger)

/-- The scene in which a walk goes on after an answer. -/
def Scene.answered (s : Scene) (n : Node) (w : Suspension) (a : Answer) : Scene :=
  (s.note .info s!"resuming node {w.node.text} with {a.inspect}").setSave (n.afterAnswer s.save a)

/-- **The visits after an answer.**  The node that asked has been visited before. -/
def resumeVisits (w : Suspension) (a : Answer) (s : Scene) : List Visit :=
  match m.node w.node with
  | .error _ => []
  | .ok n =>
    match n.check, n.answer ctx.dictionary s.save w.status a with
    | .ok (), .ok (.proceed (some next) status) =>
      walkVisits ctx m w.origin next .always status (s.answered n w a)
    | _, _ => []

/-- All visits of a walk have its origin. -/
theorem visitsFrom_origin (origin : Origin) : ∀ (left : Nat) (id : NodeId) (c : Cursor) (s : Scene),
    ∀ v ∈ visitsFrom ctx m origin left id c s, v.origin = origin := by
  intro left
  induction left with
  | zero => exact fun _ _ _ => List.forall_mem_nil _
  | succ left ih =>
      intro id c s
      unfold visitsFrom
      cases m.node id with
      | error e => exact List.forall_mem_nil _
      | ok n =>
          simp only
          cases n.step ctx m origin c s with
          | mk result s' =>
              match result with
              | .error e => exact List.forall_mem_nil _
              | .ok (.reject, _) | .ok (.await _, _) | .ok (.goto none, _) =>
                  exact List.forall_mem_singleton.2 rfl
              | .ok (.goto (some next), c') =>
                  exact List.forall_mem_cons.2 ⟨rfl, ih next c' s'⟩

/-- All visits after an answer have the origin of the suspension. -/
theorem resumeVisits_origin (w : Suspension) (a : Answer) (s : Scene) :
    ∀ v ∈ resumeVisits ctx m w a s, v.origin = w.origin := by
  unfold resumeVisits
  split
  · exact List.forall_mem_nil _
  · split
    · exact visitsFrom_origin ctx m w.origin _ _ _ _
    · exact List.forall_mem_nil _

end Visits

/-! ## §2. From scene to scene. -/

/-- **Nothing happens**, but that locks may turn and the log may grow. -/
structure Scene.Steady (s s' : Scene) : Prop where
  save : ∃ doors chests, s'.save = { s.save with unlockedDoors := doors, unlockedChests := chests }
  settled : s'.settled = s.settled
  calls : s'.calls = s.calls

namespace Scene.Steady

variable {s s' s'' : Scene}

theorem of_save (h : s'.save = s.save) (hsettled : s'.settled = s.settled)
    (hcalls : s'.calls = s.calls) : s.Steady s' :=
  ⟨⟨s.save.unlockedDoors, s.save.unlockedChests, h⟩, hsettled, hcalls⟩

theorem trans (h : s.Steady s') (h' : s'.Steady s'') : s.Steady s'' := by
  obtain ⟨doors, chests, hsave⟩ := h.save
  obtain ⟨doors', chests', hsave'⟩ := h'.save
  refine ⟨⟨doors', chests', ?_⟩, h'.settled.trans h.settled, h'.calls.trans h.calls⟩
  rw [hsave', hsave]

theorem party (h : s.Steady s') : s'.save.party = s.save.party := by
  obtain ⟨doors, chests, hsave⟩ := h.save
  rw [hsave]

theorem tileChanges (h : s.Steady s') : s'.save.tileChanges = s.save.tileChanges := by
  obtain ⟨doors, chests, hsave⟩ := h.save
  rw [hsave]

/-- An answer opens a lock at most. -/
theorem answered (s : Scene) (n : Node) (w : Suspension) (a : Answer) :
    s.Steady (s.answered n w a) := by
  refine ⟨?_, rfl, rfl⟩
  show ∃ doors chests,
    n.afterAnswer s.save a = { s.save with unlockedDoors := doors, unlockedChests := chests }
  unfold Node.afterAnswer
  split
  · exact ⟨_, s.save.unlockedChests, rfl⟩
  · exact ⟨s.save.unlockedDoors, _, rfl⟩
  · exact ⟨s.save.unlockedDoors, s.save.unlockedChests, rfl⟩

end Scene.Steady

/-- The visit is what a step of its node on this map does. -/
def Visit.Happens (ctx : Context) (m : GameMap) (v : Visit) : Prop :=
  ∃ id c r, m.node id = .ok v.node ∧ v.node.step ctx m v.origin c v.before = (.ok r, v.after)

/-- **Visits that lead from one scene to another**, with nothing but steady changes between them. -/
inductive Leads (ctx : Context) (m : GameMap) : Scene → List Visit → Scene → Prop where
  | rest {s s' : Scene} (h : s.Steady s') : Leads ctx m s [] s'
  | visit {s s' : Scene} {v : Visit} {visits : List Visit} (hs : s.Steady v.before)
      (hv : v.Happens ctx m) (h : Leads ctx m v.after visits s') : Leads ctx m s (v :: visits) s'

namespace Leads

variable {ctx : Context} {m : GameMap} {s s' t : Scene} {visits : List Visit}

theorem after_steady (hs : s.Steady t) (h : Leads ctx m t visits s') : Leads ctx m s visits s' := by
  cases h with
  | rest h => exact .rest (hs.trans h)
  | visit ht hv h => exact .visit (hs.trans ht) hv h

/-- Every visit is what a step does. -/
theorem happens (h : Leads ctx m s visits s') : ∀ v ∈ visits, v.Happens ctx m := by
  induction h with
  | rest h => exact List.forall_mem_nil _
  | visit hs hv _ ih => exact List.forall_mem_cons.2 ⟨hv, ih⟩

/-- **What every visit keeps, and no steady change can break, holds all the way.** -/
theorem invariant {I : Scene → Prop} (hsteady : ∀ {s s' : Scene}, s.Steady s' → I s → I s')
    (h : Leads ctx m s visits s') (hkeep : ∀ v ∈ visits, I v.before → I v.after) (hs : I s) :
    (∀ v ∈ visits, I v.before ∧ I v.after) ∧ I s' := by
  induction h with
  | rest h => exact ⟨List.forall_mem_nil _, hsteady h hs⟩
  | @visit s s' v visits hbefore hv _ ih =>
      rw [List.forall_mem_cons] at hkeep ⊢
      have hs := hsteady hbefore hs
      obtain ⟨hrest, hlast⟩ := ih hkeep.2 (hkeep.1 hs)
      exact ⟨⟨⟨hs, hkeep.1 hs⟩, hrest⟩, hlast⟩

end Leads

/-! ## §3. Walks. -/

/-- A node that fails leaves the savegame as it was. -/
theorem Node.step_error_save {ctx : Context} {m : GameMap} {origin : Origin} {n : Node} {c : Cursor}
    {s s' : Scene} {e : ChainError} (h : n.step ctx m origin c s = (.error e, s')) :
    s'.save = s.save :=
  (Scene.eq_but_log (step_error_unlogged h)).1

/-- A step that fails is steady. -/
theorem Node.step_error_steady {ctx : Context} {m : GameMap} {origin : Origin} {n : Node} {c : Cursor}
    {s s' : Scene} {e : ChainError} (h : n.step ctx m origin c s = (.error e, s')) : s.Steady s' :=
  have ⟨_, hsettled, hcalls⟩ := Scene.eq_but_log (step_error_unlogged h)
  .of_save (step_error_save h) hsettled hcalls

section Walks

variable (ctx : Context) (m : GameMap)

theorem leads_walkFrom (origin : Origin) (start : NodeId) (limit : Nat) :
    ∀ (left : Nat) (id : NodeId) (c : Cursor) (s : Scene),
      Leads ctx m s (visitsFrom ctx m origin left id c s)
        (walkFrom ctx m origin start limit left id c s).2 := by
  -- on the steps that are left; only a node that hands over is followed by others
  intro left
  induction left with
  | zero => intro id c s; exact .rest (.of_save rfl rfl rfl)
  | succ left ih =>
      intro id c s
      have steady {s : Scene} : s.Steady s := .of_save rfl rfl rfl
      unfold walkFrom visitsFrom
      cases hn : m.node id with
      | error e => exact .rest steady
      | ok n =>
          simp only
          cases hstep : n.step ctx m origin c s with
          | mk result s' =>
              match result, hstep with
              | .error e, hstep => exact .rest (Node.step_error_steady hstep)
              | .ok (.reject, c'), hstep | .ok (.goto none, c'), hstep =>
                  exact .visit steady ⟨id, c, _, hn, hstep⟩ (.rest steady)
              | .ok (.await p, c'), hstep =>
                  exact .visit steady ⟨id, c, _, hn, hstep⟩ (.rest (.of_save rfl rfl rfl))
              | .ok (.goto (some j), c'), hstep =>
                  exact .visit steady ⟨id, c, _, hn, hstep⟩ (ih j c' s')

/-- **A walk leads to its last scene.** -/
theorem leads_walk (origin : Origin) (start : NodeId) (trigger : Trigger) (status : Bool)
    (s : Scene) :
    Leads ctx m s (walkVisits ctx m origin start trigger status s)
      (walk ctx m origin start trigger status s).2 := by
  have hsteady : s.Steady (s.atStart m start trigger) := .of_save rfl rfl rfl
  exact .after_steady hsteady (leads_walkFrom ctx m origin start _ _ start ⟨trigger, status⟩ _)

/-- **So does a walk that is picked up again.** -/
theorem leads_resume (w : Suspension) (a : Answer) (s : Scene) :
    Leads ctx m s (resumeVisits ctx m w a s) (resume ctx m w a s).2 := by
  unfold resume resumeVisits
  cases m.node w.node with
  | error e => exact .rest (.of_save rfl rfl rfl)
  | ok n =>
      simp only
      cases n.check with
      | error e => exact .rest (.of_save rfl rfl rfl)
      | ok u =>
          have hsave : (s.note .info s!"resuming node {w.node.text} with {a.inspect}").save
              = s.save := rfl
          simp only [hsave]
          cases n.answer ctx.dictionary s.save w.status a with
          | error r => exact .rest (.of_save rfl rfl rfl)
          | ok branch =>
              have hanswered := Scene.Steady.answered s n w a
              match branch with
              | .proceed (some next) status =>
                  exact (leads_walk ctx m w.origin next .always status
                    (s.answered n w a)).after_steady hanswered
              | .proceed none status | .abort | .again => exact .rest hanswered

end Walks

end TileEvents
