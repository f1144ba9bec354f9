/-
  TileEvents.Proofs.Walk.Settling
  ───────────────────────────────
  **WHAT THE SETTLED TARGETS DECIDE.**

  Only a tile replacement reads the targets that replacements have settled on,
  and it reads no more than the tile it aims at.  Two scenes that differ in the
  settled targets alone, and in which every replacement of the map aims at the
  same tile wherever a walk comes from, are therefore alike, and stay alike
  whatever is done to both.

    • `Node.perform_withSettled`        — a node that replaces nothing reads no target;
    • `GameMap.AimsAlike`               — the same tile, wherever a walk comes from;
    • `Scene.Alike`                     — the same but for settled targets;
    • `Leads.wellSettled`               — what replacements settle on.
-/
import TileEvents.Proofs.Walk.Ending
import TileEvents.Proofs.Walk.Tiles
import TileEvents.Proofs.Walk.Visits

namespace TileEvents

/-! ## §1. Other settled targets. -/

/-- The scene with other settled targets. -/
def Scene.withSettled (s : Scene) (t : SettledTargets) : Scene := { s with settled := t }

/-- A result whose scene has other settled targets. -/
def resettled {α : Type} (t : SettledTargets) (r : α × Scene) : α × Scene := (r.1, r.2.withSettled t)

/-- What came of a step, its scene with other settled targets. -/
def Stepped.withSettled (r : Stepped) (t : SettledTargets) : Stepped :=
  { r with scene := r.scene.withSettled t }

namespace Scene

variable (s : Scene) (t : SettledTargets)

@[simp] theorem withSettled_save : (s.withSettled t).save = s.save := rfl

theorem setSave_withSettled (save : Savegame) :
    (s.withSettled t).setSave save = (s.setSave save).withSettled t := rfl

/-- A fold may start with other settled targets if each of its steps may. -/
theorem foldl_withSettled {α : Type} {f : Scene → α → Scene}
    (h : ∀ (s : Scene) (a : α), f (s.withSettled t) a = (f s a).withSettled t) (l : List α) :
    l.foldl f (s.withSettled t) = (l.foldl f s).withSettled t := by
  induction l generalizing s with
  | nil => rfl
  | cons a l ih =>
      show l.foldl f (f (s.withSettled t) a) = _
      rw [h]
      exact ih (f s a)

end Scene

/-! ## §2. Actions, awards and traps. -/

section Parts

variable (s : Scene) (t : SettledTargets)

theorem Action.takeItems_withSettled (id : NodeId) (item count : UInt16) :
    takeItems id item count (s.withSettled t) = (takeItems id item count s).withSettled t := by
  unfold takeItems
  dsimp only
  rw [Scene.withSettled_save, Scene.setSave_withSettled,
    Scene.foldl_withSettled _ t (f := fun s m => s.call (.itemUncursed m item)) (fun _ _ => rfl)]
  rfl

/-- No action reads the settled targets. -/
theorem Action.effect_withSettled {a : Action} {settings : Settings} {id : NodeId}
    {f : Scene → Scene} (h : a.effect settings id = .ok f) :
    f (s.withSettled t) = (f s).withSettled t := by
  cases effect_amounts h with
  | elsewhere change text hparty htiles => rfl
  | items hkind =>
      unfold applyItem
      dsimp only
      split
      · unfold giveItems
        rw [Scene.withSettled_save]
        cases s.save.actor? <;> rfl
      · exact takeItems_withSettled s t id _ _
      · rfl
  | currency c hkind =>
      unfold applyCurrency
      dsimp only
      split
      · rfl
      · rw [Scene.withSettled_save]
        split <;> rfl
      · rfl
  | ailment ailment hkind hailment =>
      unfold applyAilment
      rw [Scene.withSettled_save]
      cases s.save.actor? <;> rfl

/-- No award does. -/
theorem Award.apply_withSettled (a : Award) (id : NodeId) :
    a.apply id (s.withSettled t) = (a.apply id s).withSettled t := by
  have hreach (s : Scene) (position : Nat) :
      a.reach id (s.withSettled t) position = (a.reach id s position).withSettled t := by
    have hthrown : a.amountFor (s.withSettled t) = resettled t (a.amountFor s) := by
      unfold amountFor
      split <;> rfl
    unfold reach
    rw [hthrown]
    obtain ⟨amount, s₁⟩ := a.amountFor s
    dsimp only [resettled]
    rw [Scene.withSettled_save]
    cases s₁.save.party[position]? <;> rfl
  unfold apply
  rw [Scene.withSettled_save]
  split
  · rfl
  · split
    · rfl
    · exact s.foldl_withSettled t hreach _

/-- No trap does. -/
theorem Trap.spring_withSettled (trap : Trap) (id : NodeId) :
    trap.spring id (s.withSettled t) = resettled t (trap.spring id s) := by
  have hreach (positions : List Nat) : ∀ s : Scene,
      trap.reach id positions (s.withSettled t) = resettled t (trap.reach id positions s) := by
    induction positions with
    | nil => exact fun _ => rfl
    | cons position rest ih =>
        intro s
        have hthrown : trap.damageFor (s.withSettled t) = resettled t (trap.damageFor s) := by
          unfold damageFor
          split <;> rfl
        unfold reach
        rw [hthrown]
        obtain ⟨thrown, s₁⟩ := trap.damageFor s
        dsimp only [resettled]
        rw [Scene.withSettled_save]
        cases s₁.save.party[position]? with
        | none => exact ih s₁
        | some m =>
            have hrest := ih ((s₁.setSave (s₁.save.reviseMember position (trap.revise thrown))).remark
              id s!"trap hits {m.name} for {m.damageTaken thrown}")
            exact congrArg (fun r : List TrapHit × Scene =>
              ((⟨position, m.damageTaken thrown, trap.ailment⟩ : TrapHit) :: r.1, r.2)) hrest
  exact hreach _ s

end Parts

/-! ## §3. Nodes that replace nothing. -/

/-- **A node that replaces no tile does not read the settled targets.** -/
theorem Node.perform_withSettled {ctx : Context} {m : GameMap} {origin : Origin} {n : Node}
    {c : Cursor} {f : Scene → Stepped} (h : n.perform ctx m origin c = .ok f)
    (hn : ∀ r, n.payload ≠ .changeTile r) (s : Scene) (t : SettledTargets) :
    f (s.withSettled t) = (f s).withSettled t := by
  obtain ⟨id, declared, next, payload⟩ := n
  cases payload with
  | changeTile r => exact absurd rfl (hn r)
  | door d =>
      cases h
      dsimp only
      rw [Scene.withSettled_save]
      split <;> rfl
  | chest k =>
      cases h
      dsimp only
      split
      · rfl
      -- a chest without a search takes the scene as it is
      · have hsearch : (if k.searchCheck then (s.withSettled t).search ctx.settings
              else (true, s.withSettled t))
            = resettled t (if k.searchCheck then s.search ctx.settings else (true, s)) := by
          split <;> rfl
        rw [hsearch]
        obtain ⟨found, s₁⟩ := if k.searchCheck then s.search ctx.settings else (true, s)
        cases found <;> rfl
  | popupText text image byMoving byCursor =>
      injection h with h
      subst h
      cases c.trigger <;> cases byMoving <;> cases byCursor <;> rfl
  | spinner direction =>
      cases h
      have hspin : (s.withSettled t).spinTo direction = resettled t (s.spinTo direction) := by
        cases direction <;> rfl
      dsimp only
      rw [hspin]
      cases c.trigger <;> rfl
  | trap trap =>
      cases h
      dsimp only
      rw [trap.spring_withSettled s t id]
      cases c.trigger <;> rfl
  | award a =>
      cases h
      dsimp only
      rw [a.apply_withSettled s t id]
      rfl
  | enterPlace p =>
      cases h
      dsimp only
      rw [Scene.withSettled_save]
      split
      · split <;> rfl
      · rfl
  | condition k =>
      cases h
      dsimp only
      rw [Scene.withSettled_save]
      split <;> rfl
  | action a =>
      cases he : a.effect ctx.settings id with
      | error e => simp [perform, he] at h
      | ok effect =>
          simp only [perform, he] at h
          injection h with h
          subst h
          dsimp only
          rw [Action.effect_withSettled s t he]
          rfl
  | riddlemouth riddleText solutionText answers =>
      injection h with h
      subst h
      cases c.trigger <;> rfl
  | teleport | conversation =>
      injection h with h
      subst h
      dsimp only
      split <;> rfl
  | _ => cases h; rfl

/-! ## §4. What replacements aim at. -/

namespace Scene

/-- **The tile that the replacement at node `id` aims at** in a walk with this origin. -/
def aimOf (s : Scene) (id : NodeId) (origin : Origin) (raw : TileTarget) : TileTarget :=
  (s.settledTarget? id).getD (origin.aim raw)

/-- That is a matter of the settled targets. -/
theorem aimOf_congr {s t : Scene} (h : t.settled = s.settled) (id : NodeId) (origin : Origin)
    (raw : TileTarget) : t.aimOf id origin raw = s.aimOf id origin raw := by
  unfold aimOf settledTarget?
  rw [h]

/-- To settle is to take aim, and changes the settled targets alone. -/
theorem settle_eq (s : Scene) (id : NodeId) (origin : Origin) (raw : TileTarget) :
    s.settle id origin raw
      = (s.aimOf id origin raw, s.withSettled (s.settle id origin raw).2.settled) := by
  unfold settle aimOf
  cases s.settledTarget? id with
  | some target => rfl
  | none => rfl

/-- From then on the replacement is settled on that tile, and the others are as before. -/
theorem settledTarget?_settle (s : Scene) (id id' : NodeId) (origin : Origin) (raw : TileTarget) :
    (s.settle id origin raw).2.settledTarget? id'
      = if id = id' then some (s.aimOf id origin raw) else s.settledTarget? id' := by
  unfold settle aimOf
  cases hid : s.settledTarget? id with
  | some target =>
      show s.settledTarget? id' = _
      by_cases heq : id = id'
      · rw [if_pos heq, ← heq, hid]
        rfl
      · rw [if_neg heq]
  | none =>
      show (List.find? (fun entry => entry.1 == id') ((id, origin.aim raw) :: s.settled)).map _ = _
      rw [List.find?_cons]
      by_cases heq : id = id'
      · rw [if_pos heq, beq_iff_eq.2 heq]
        rfl
      · rw [if_neg heq, beq_false_of_ne heq]
        rfl

/-- A replacement after it took aim. -/
theorem replaceTile_settled (s : Scene) (id : NodeId) (origin : Origin) (r : TileReplacement) :
    (s.replaceTile id origin r).settled = (s.settle id origin r.target).2.settled := by
  unfold replaceTile
  cases origin.event <;> rfl

/-- What a replacement does is decided by what it aims at. -/
theorem replaceTile_withSettled {s s' : Scene} (hs : s' = s.withSettled s'.settled) {id : NodeId}
    {origin : Origin} {r : TileReplacement}
    (haim : s.aimOf id origin r.target = s'.aimOf id origin r.target) :
    s'.replaceTile id origin r
      = (s.replaceTile id origin r).withSettled (s'.replaceTile id origin r).settled := by
  rw [replaceTile_settled]
  unfold replaceTile
  rw [s.settle_eq, s'.settle_eq, ← haim]
  generalize (s'.settle id origin r.target).2.settled = t
  generalize (s.settle id origin r.target).2.settled = u
  rw [hs]
  cases origin.event <;> rfl

end Scene

/-- **Every replacement of the map aims at the same tile in both scenes**, wherever a walk comes
from. -/
def GameMap.AimsAlike (m : GameMap) (s s' : Scene) : Prop :=
  ∀ n ∈ m.nodes, ∀ r, n.payload = .changeTile r →
    ∀ origin, s.aimOf n.id origin r.target = s'.aimOf n.id origin r.target

/-- **The scenes differ in the settled targets alone**, and not in what replacements aim at. -/
structure Scene.Alike (m : GameMap) (s s' : Scene) : Prop where
  same : s' = s.withSettled s'.settled
  aims : m.AimsAlike s s'

namespace Scene.Alike

variable {m : GameMap} {s s' u u' : Scene}

/-- Scenes with the same settled targets as alike ones aim alike. -/
theorem aims_congr (h : s.Alike m s') (hu : u.settled = s.settled) (hu' : u'.settled = s'.settled) :
    m.AimsAlike u u' := by
  intro n hn r hr origin
  rw [aimOf_congr hu, aimOf_congr hu']
  exact h.aims n hn r hr origin

/-- What does not touch the settled targets keeps scenes alike. -/
theorem map {f : Scene → Scene} (h : s.Alike m s')
    (hf : ∀ (s : Scene) (t : SettledTargets), f (s.withSettled t) = (f s).withSettled t)
    (hsettled : ∀ s : Scene, (f s).settled = s.settled) : (f s).Alike m (f s') where
  same := by
    rw [hsettled s', ← hf, ← h.same]
  aims := h.aims_congr (hsettled s) (hsettled s')

/-- A replacement keeps scenes alike. -/
theorem replaceTile (h : s.Alike m s') {n : Node} {r : TileReplacement} (hn : n ∈ m.nodes)
    (hr : n.payload = .changeTile r) (origin : Origin) :
    (s.replaceTile n.id origin r).Alike m (s'.replaceTile n.id origin r) where
  same := replaceTile_withSettled h.same (h.aims n hn r hr origin)
  aims := by
    intro n' hn' r' hr' origin'
    have hafter (s : Scene) : (s.replaceTile n.id origin r).aimOf n'.id origin' r'.target
        = ((s.settle n.id origin r.target).2.settledTarget? n'.id).getD (origin'.aim r'.target) := by
      unfold aimOf settledTarget?
      rw [replaceTile_settled]
    rw [hafter, hafter, settledTarget?_settle, settledTarget?_settle]
    -- the replacement itself is now settled in both scenes, the others aim as before
    split
    · rw [h.aims n hn r hr origin]
    · exact h.aims n' hn' r' hr' origin'

end Scene.Alike

/-! ## §5. What replacements settle on. -/

/-- **Every settled target is that of a replacement of the map**, aimed from where some walk came
from. -/
def GameMap.WellSettled (m : GameMap) (settled : SettledTargets) : Prop :=
  ∀ entry ∈ settled, ∃ n ∈ m.nodes, ∃ (r : TileReplacement) (origin : Origin),
    n.id = entry.1 ∧ n.payload = .changeTile r ∧ entry.2 = origin.aim r.target

/-- Visits settle replacements of the map only. -/
theorem Leads.wellSettled {ctx : Context} {m : GameMap} {s s' : Scene} {visits : List Visit}
    (h : Leads ctx m s visits s') (hs : m.WellSettled s.settled) : m.WellSettled s'.settled := by
  refine (h.invariant (I := fun s => m.WellSettled s.settled) ?_ ?_ hs).2
  · intro s s' hsteady hs
    rw [hsteady.settled]
    exact hs
  · intro v hv hbefore
    obtain ⟨id, c, r, hn, hstep⟩ := h.happens v hv
    obtain ⟨t, t', ht, ht', haffects⟩ := Node.step_affects hstep
    obtain ⟨-, hsettled, -⟩ := Scene.eq_but_log ht
    obtain ⟨-, hsettled', -⟩ := Scene.eq_but_log ht'
    rcases haffects.tiles with ⟨r, hr, rfl⟩ | hsame
    · rw [← hsettled', Scene.replaceTile_settled]
      unfold Scene.settle
      -- only a replacement that had not settled yet adds a target
      split
      · exact hsettled ▸ hbefore
      · have hmem : v.node ∈ m.nodes := Array.mem_of_getElem? (GameMap.node_eq_ok.1 hn)
        rintro entry (_ | ⟨_, hentry⟩)
        · exact ⟨v.node, hmem, r, v.origin, rfl, hr, rfl⟩
        · exact hbefore entry (hsettled ▸ hentry)
    · rw [← hsettled', hsame.settled, hsettled]
      exact hbefore

end TileEvents
