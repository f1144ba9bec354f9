/-
  TileEvents.Proofs.Walk.Unlogged
  ───────────────────────────────
  **NOTHING READS THE LOG.**

  A walk writes to the log and never looks at it.  So the log can be dropped
  before a walk or after it: the result, the savegame, the dice, the settled
  targets and the requests to the host come out the same.

      step_unlogged     one node
      walkFrom_unlogged a walk, by induction on the nodes it may still visit
      walk_unlogged     a walk from its start
      resume_unlogged   a suspended walk that is picked up again

  Every lemma of §2 and §3 has the one form

      drop (f (drop s)) = drop (f s)

  read from left to right, so that `simp` carries them from the operations on
  scenes up to the step.
-/
import TileEvents.Walk.Run

namespace TileEvents

/-! ## §1. Dropping the log. -/

/-- The scene with an empty log. -/
def Scene.unlogged (s : Scene) : Scene := { s with log := #[] }

/-- A result whose scene has lost its log. -/
def unloggedResult {α : Type} (r : α × Scene) : α × Scene := (r.1, r.2.unlogged)

/-- What came of a step, its scene without the log. -/
def Stepped.unlogged (r : Stepped) : Stepped := { r with scene := r.scene.unlogged }

namespace Scene

@[simp] theorem unlogged_unlogged (s : Scene) : s.unlogged.unlogged = s.unlogged := rfl

@[simp] theorem unlogged_save (s : Scene) : s.unlogged.save = s.save := rfl

@[simp] theorem unlogged_dice (s : Scene) : s.unlogged.dice = s.dice := rfl

@[simp] theorem settledTarget?_unlogged (s : Scene) (id : NodeId) :
    s.unlogged.settledTarget? id = s.settledTarget? id := rfl

@[simp] theorem unlogged_note (s : Scene) (level : Level) (text : String) :
    (s.note level text).unlogged = s.unlogged := rfl

@[simp] theorem unlogged_notes (s : Scene) (records : List Record) :
    (s.notes records).unlogged = s.unlogged := rfl

@[simp] theorem unlogged_remark (s : Scene) (id : NodeId) (text : String) :
    (s.remark id text).unlogged = s.unlogged := rfl

@[simp] theorem unlogged_warnOf (s : Scene) (id : NodeId) (text : String) :
    (s.warnOf id text).unlogged = s.unlogged := rfl

@[simp] theorem unlogged_call (s : Scene) (c : HostCall) :
    (s.call c).unlogged = s.unlogged.call c := rfl

@[simp] theorem unlogged_tell (s : Scene) (text : String) :
    (s.tell text).unlogged = s.unlogged.tell text := rfl

@[simp] theorem unlogged_setSave (s : Scene) (save : Savegame) :
    (s.setSave save).unlogged = s.unlogged.setSave save := rfl

@[simp] theorem unlogged_setDice (s : Scene) (dice : Dice) :
    (s.setDice dice).unlogged = s.unlogged.setDice dice := rfl

@[simp] theorem save_setDice (s : Scene) (dice : Dice) : (s.setDice dice).save = s.save := rfl

theorem throwDice_unlogged (s : Scene) (lo hi : UInt32) :
    s.unlogged.throwDice lo hi = unloggedResult (s.throwDice lo hi) := rfl

/-- A value that can be had without the log is the same in scenes that differ in the log alone. -/
theorem eq_of_unlogged_eq {β : Type} (g : Scene → β) (h : ∀ s : Scene, g s.unlogged = g s)
    {s t : Scene} (same : s.unlogged = t.unlogged) : g s = g t := by
  rw [← h s, same, h t]

/-- Scenes that differ in the log alone have the same savegame, settled targets and requests. -/
theorem eq_but_log {s t : Scene} (h : t.unlogged = s.unlogged) :
    t.save = s.save ∧ t.settled = s.settled ∧ t.calls = s.calls :=
  ⟨congrArg (·.save) h, congrArg (·.settled) h, congrArg (·.calls) h⟩

/-- A fold may start without the log if each of its steps may. -/
theorem foldl_unlogged {α : Type} (f : Scene → α → Scene)
    (h : ∀ (s : Scene) (a : α), (f s.unlogged a).unlogged = (f s a).unlogged) :
    ∀ (l : List α) (s : Scene), (l.foldl f s.unlogged).unlogged = (l.foldl f s).unlogged := by
  intro l
  induction l with
  | nil => intro s; rfl
  | cons a l ih =>
      intro s
      show (l.foldl f (f s.unlogged a)).unlogged = (l.foldl f (f s a)).unlogged
      rw [← ih, h, ih]

end Scene

/-! ## §2. Actions, awards and traps. -/

namespace Action

theorem giveItems_unlogged (id : NodeId) (item count : UInt16) (s : Scene) :
    (giveItems id item count s.unlogged).unlogged = (giveItems id item count s).unlogged := by
  unfold giveItems
  cases h : s.save.actor? <;> simp [h]

theorem takeItems_unlogged (id : NodeId) (item count : UInt16) (s : Scene) :
    (takeItems id item count s.unlogged).unlogged = (takeItems id item count s).unlogged := by
  unfold takeItems
  simp only [Scene.unlogged_save, Scene.unlogged_remark]
  rw [← Scene.unlogged_setSave]
  exact Scene.foldl_unlogged _ (fun _ _ => rfl) _ _

theorem applyItem_unlogged (a : Action) (id : NodeId) (s : Scene) :
    (a.applyItem id s.unlogged).unlogged = (a.applyItem id s).unlogged := by
  unfold applyItem
  dsimp only
  split
  · exact giveItems_unlogged id _ _ s
  · exact takeItems_unlogged id _ _ s
  · rfl

theorem applyCurrency_unlogged (a : Action) (settings : Settings) (id : NodeId) (c : Currency)
    (s : Scene) :
    (a.applyCurrency settings id c s.unlogged).unlogged
      = (a.applyCurrency settings id c s).unlogged := by
  unfold applyCurrency
  dsimp only
  split
  · simp
  · by_cases h : (Purse.takeOut (s.save.party.map c.balance) a.object.toUInt32).2
        < a.object.toUInt32 <;> simp [h]
  · rfl

theorem applyAilment_unlogged (a : Action) (id : NodeId) (ailment : Ailment) (s : Scene) :
    (a.applyAilment id ailment s.unlogged).unlogged = (a.applyAilment id ailment s).unlogged := by
  unfold applyAilment
  cases h : s.save.actor? <;> simp [h]

theorem applyFlag_unlogged (a : Action) (id : NodeId) (what : String) (read : Savegame → Bool)
    (write : Savegame → Bool → Savegame) (s : Scene) :
    (a.applyFlag id what read write s.unlogged).unlogged
      = (a.applyFlag id what read write s).unlogged := by
  unfold applyFlag
  simp

/-- No action reads the log. -/
theorem effect_unlogged {a : Action} {settings : Settings} {id : NodeId} {f : Scene → Scene}
    (h : a.effect settings id = .ok f) (s : Scene) :
    (f s.unlogged).unlogged = (f s).unlogged := by
  unfold effect at h
  split at h
  case h_7 => injection h with h; subst h; simp
  case h_8 =>
    split at h
    · cases h
    · injection h with h; subst h; simp
  case h_9 =>
    split at h
    · cases h
    · injection h with h; subst h; exact applyAilment_unlogged a id _ s
  case h_10 => injection h with h; subst h; exact applyItem_unlogged a id s
  case h_11 => injection h with h; subst h; exact applyCurrency_unlogged a settings id _ s
  case h_12 => injection h with h; subst h; exact applyCurrency_unlogged a settings id _ s
  all_goals injection h with h; subst h; exact applyFlag_unlogged a id _ _ _ s

end Action

namespace Award

theorem amountFor_unlogged (a : Award) (s : Scene) :
    a.amountFor s.unlogged = unloggedResult (a.amountFor s) := by
  unfold amountFor
  split
  · exact s.throwDice_unlogged _ _
  · rfl

theorem reach_unlogged (a : Award) (id : NodeId) (s : Scene) (position : Nat) :
    (a.reach id s.unlogged position).unlogged = (a.reach id s position).unlogged := by
  unfold reach
  rw [a.amountFor_unlogged s]
  obtain ⟨amount, s₁⟩ := a.amountFor s
  simp only [unloggedResult, Scene.unlogged_save]
  cases s₁.save.party[position]? <;> simp

theorem apply_unlogged (a : Award) (id : NodeId) (s : Scene) :
    (a.apply id s.unlogged).unlogged = (a.apply id s).unlogged := by
  unfold apply
  simp only [Scene.unlogged_save]
  split
  · rfl
  · split
    · rfl
    · exact Scene.foldl_unlogged (a.reach id) (a.reach_unlogged id) _ s

end Award

namespace Trap

theorem damageFor_unlogged (t : Trap) (s : Scene) :
    t.damageFor s.unlogged = unloggedResult (t.damageFor s) := by
  unfold damageFor
  split
  · rfl
  · exact s.throwDice_unlogged _ _

theorem reach_unlogged (t : Trap) (id : NodeId) :
    ∀ (positions : List Nat) (s : Scene),
      unloggedResult (t.reach id positions s.unlogged) = unloggedResult (t.reach id positions s) := by
  intro positions
  induction positions with
  | nil => intro s; rfl
  | cons position rest ih =>
      intro s
      unfold reach
      rw [t.damageFor_unlogged s]
      obtain ⟨thrown, s₁⟩ := t.damageFor s
      cases h : s₁.save.party[position]? with
      | none =>
          simp only [unloggedResult, Scene.unlogged_save, h]
          exact ih s₁
      | some m =>
          simp only [unloggedResult, Scene.unlogged_save, h]
          -- the rest of the positions starts from two scenes that differ in one remark
          have hrest := Scene.eq_of_unlogged_eq (fun s => unloggedResult (t.reach id rest s)) ih
            (s := (s₁.unlogged.setSave (s₁.save.reviseMember position (t.revise thrown))).remark id
              s!"trap hits {m.name} for {m.damageTaken thrown}")
            (t := (s₁.setSave (s₁.save.reviseMember position (t.revise thrown))).remark id
              s!"trap hits {m.name} for {m.damageTaken thrown}") rfl
          simp only [unloggedResult, Prod.mk.injEq] at hrest
          rw [hrest.1, hrest.2]

end Trap

/-! ## §3. One node. -/

namespace Scene

theorem settle_unlogged (s : Scene) (id : NodeId) (origin : Origin) (raw : TileTarget) :
    s.unlogged.settle id origin raw = unloggedResult (s.settle id origin raw) := by
  unfold settle
  rw [settledTarget?_unlogged]
  split <;> rfl

theorem search_unlogged (s : Scene) (settings : Settings) :
    s.unlogged.search settings = unloggedResult (s.search settings) := rfl

theorem spinTo_unlogged (s : Scene) (direction : Option Direction) :
    s.unlogged.spinTo direction = unloggedResult (s.spinTo direction) := by
  cases direction <;> rfl

theorem replaceTile_unlogged (s : Scene) (id : NodeId) (origin : Origin) (r : TileReplacement) :
    (s.unlogged.replaceTile id origin r).unlogged = (s.replaceTile id origin r).unlogged := by
  unfold replaceTile
  rw [s.settle_unlogged]
  obtain ⟨target, s₁⟩ := s.settle id origin r.target
  cases origin.event <;> rfl

end Scene

/-- What a node does to a scene does not depend on the log. -/
theorem Node.perform_unlogged {ctx : Context} {map : GameMap} {origin : Origin} {n : Node}
    {cursor : Cursor} {f : Scene → Stepped} (h : n.perform ctx map origin cursor = .ok f)
    (s : Scene) : (f s.unlogged).unlogged = (f s).unlogged := by
  obtain ⟨id, declared, next, payload⟩ := n
  cases payload with
  | teleport target x y direction transition =>
      cases h
      cases cursor.trigger <;> rfl
  | door d =>
      cases h
      by_cases hlocked : s.save.isDoorLocked d.door = true <;>
        simp [Stepped.unlogged, hlocked]
  | chest c =>
      cases h
      dsimp only
      split
      · rfl
      -- a chest without a search takes the scene as it is
      · have hsearch : (if c.searchCheck then s.unlogged.search ctx.settings else (true, s.unlogged))
            = unloggedResult (if c.searchCheck then s.search ctx.settings else (true, s)) := by
          split
          · exact s.search_unlogged ctx.settings
          · rfl
        rw [hsearch]
        obtain ⟨found, s₁⟩ := if c.searchCheck then s.search ctx.settings else (true, s)
        cases found <;> rfl
  | popupText text image byMoving byCursor =>
      injection h with h
      subst h
      cases cursor.trigger <;> cases byMoving <;> cases byCursor <;> rfl
  | spinner direction =>
      cases h
      cases cursor.trigger with
      | move | always =>
          simp only [s.spinTo_unlogged]
          rfl
      | _ => rfl
  | trap t =>
      cases h
      cases cursor.trigger with
      | move | always =>
          have hreach := t.reach_unlogged id
            (t.target.members s.save.party s.save.activeMember.toNat) s
          simp only [unloggedResult, Prod.mk.injEq] at hreach
          simp [Trap.spring, Stepped.unlogged, hreach.1, hreach.2]
      | _ => rfl
  | removeBuffs buff => cases h; rfl
  | riddlemouth riddleText solutionText answers =>
      injection h with h
      subst h
      cases cursor.trigger <;> rfl
  | award a =>
      cases h
      simp [Stepped.unlogged, a.apply_unlogged id s]
  | changeTile r =>
      cases h
      simp [Stepped.unlogged, s.replaceTile_unlogged id origin r]
  | startBattle monsterGroup => cases h; rfl
  | enterPlace p =>
      cases h
      cases hopen : p.isOpenAt s.save.hour <;> cases ctx.admits <;>
        simp [Stepped.unlogged, hopen]
  | condition c =>
      cases h
      dsimp only
      rw [Scene.unlogged_save]
      cases c.verdict s.save cursor.trigger cursor.status <;> rfl
  | action a =>
      cases he : a.effect ctx.settings id with
      | error e => simp [perform, he] at h
      | ok effect =>
          simp only [perform, he] at h
          injection h with h
          subst h
          simp [Stepped.unlogged, Action.effect_unlogged he s]
  | diceRoll chance alternate =>
      cases h
      rfl
  | conversation kind =>
      injection h with h
      subst h
      dsimp only
      split <;> rfl
  | decision text no => cases h; rfl
  | changeMusic song volume => cases h; rfl
  | spawn target x y travelType => cases h; rfl
  | unknown bytes => cases h; rfl

/-- **Nothing a node does depends on the log.** -/
theorem Node.step_unlogged (ctx : Context) (map : GameMap) (origin : Origin) (n : Node)
    (cursor : Cursor) (s : Scene) :
    unloggedResult (n.step ctx map origin cursor s.unlogged)
      = unloggedResult (n.step ctx map origin cursor s) := by
  unfold step
  cases n.check with
  | error e => rfl
  | ok u =>
      cases h : n.perform ctx map origin cursor with
      | error e => rfl
      | ok f =>
          -- both remark on the node first, and what they do then is blind to the log
          have hf := Scene.eq_of_unlogged_eq (fun s => (f s).unlogged) (perform_unlogged h)
            (s := s.unlogged.remark n.id s!"{n.declared.inspect} ({cursor.trigger.name})")
            (t := s.remark n.id s!"{n.declared.inspect} ({cursor.trigger.name})") rfl
          simp only
          generalize f (s.unlogged.remark _ _) = r at hf
          generalize f (s.remark _ _) = r' at hf
          obtain ⟨directive, cursor₁, s₁⟩ := r
          obtain ⟨directive', cursor₂, s₂⟩ := r'
          simp only [Stepped.unlogged, Stepped.mk.injEq] at hf
          obtain ⟨rfl, rfl, hs⟩ := hf
          simp only [unloggedResult]
          split <;> simp [hs]

/-- A step that fails has written nothing but log. -/
theorem Node.step_error_unlogged {ctx : Context} {m : GameMap} {origin : Origin} {n : Node}
    {c : Cursor} {s s' : Scene} {e : ChainError} (h : n.step ctx m origin c s = (.error e, s')) :
    s'.unlogged = s.unlogged := by
  unfold step at h
  split at h
  · injection h with _ h
    rw [← h]
  · dsimp only at h
    split at h
    · injection h with _ h
      rw [← h]
      rfl
    · cases h

/-! ## §4. Walks. -/

/-- **A walk from a node on does not depend on the log.** -/
theorem walkFrom_unlogged (ctx : Context) (map : GameMap) (origin : Origin) (start : NodeId)
    (limit : Nat) :
    ∀ (left : Nat) (id : NodeId) (cursor : Cursor) (s : Scene),
      unloggedResult (walkFrom ctx map origin start limit left id cursor s.unlogged)
        = unloggedResult (walkFrom ctx map origin start limit left id cursor s) := by
  intro left
  induction left with
  | zero => intro id cursor s; rfl
  | succ left ih =>
      intro id cursor s
      unfold walkFrom
      cases map.node id with
      | error e => rfl
      | ok node =>
          have hstep := node.step_unlogged ctx map origin cursor s
          simp only
          generalize node.step ctx map origin cursor s.unlogged = r at hstep
          generalize node.step ctx map origin cursor s = r' at hstep
          obtain ⟨result, s₁⟩ := r
          obtain ⟨result', s₂⟩ := r'
          simp only [unloggedResult, Prod.mk.injEq] at hstep
          obtain ⟨rfl, hs⟩ := hstep
          match result with
          | .error e => simp [unloggedResult, hs]
          | .ok (.reject, _) => simp [unloggedResult, hs]
          | .ok (.await prompt, cursor) => simp [unloggedResult, hs]
          | .ok (.goto none, cursor) => simp [unloggedResult, hs]
          | .ok (.goto (some next), cursor) =>
              exact Scene.eq_of_unlogged_eq
                (fun s => unloggedResult (walkFrom ctx map origin start limit left next cursor s))
                (ih next cursor) hs

/-- **A walk does not depend on the log.** -/
theorem walk_unlogged (ctx : Context) (map : GameMap) (origin : Origin) (start : NodeId)
    (trigger : Trigger) (status : Bool) (s : Scene) :
    unloggedResult (walk ctx map origin start trigger status s.unlogged)
      = unloggedResult (walk ctx map origin start trigger status s) := by
  unfold walk
  exact Scene.eq_of_unlogged_eq
    (fun s => unloggedResult (walkFrom ctx map origin start _ _ start ⟨trigger, status⟩ s))
    (walkFrom_unlogged ctx map origin start _ _ start _) rfl

/-- **A suspended walk that is picked up does not depend on the log.** -/
theorem resume_unlogged (ctx : Context) (map : GameMap) (w : Suspension) (a : Answer) (s : Scene) :
    unloggedResult (resume ctx map w a s.unlogged) = unloggedResult (resume ctx map w a s) := by
  unfold resume
  cases map.node w.node with
  | error e => rfl
  | ok node =>
      simp only
      cases node.check with
      | error e => rfl
      | ok u =>
          have hsave : (s.unlogged.note .info s!"resuming node {w.node.text} with {a.inspect}").save
              = (s.note .info s!"resuming node {w.node.text} with {a.inspect}").save := rfl
          simp only [hsave]
          cases node.answer ctx.dictionary (s.note .info
              s!"resuming node {w.node.text} with {a.inspect}").save w.status a with
          | error r => rfl
          | ok branch =>
              match branch with
              | .proceed (some next) status =>
                  exact Scene.eq_of_unlogged_eq
                    (fun s => unloggedResult (walk ctx map w.origin next .always status s))
                    (walk_unlogged ctx map w.origin next .always status) rfl
              | .proceed none status => rfl
              | .abort => rfl
              | .again => rfl

end TileEvents
