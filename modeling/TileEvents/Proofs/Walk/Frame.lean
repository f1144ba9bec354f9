/-
  TileEvents.Proofs.Walk.Frame
  ────────────────────────────
  **WHAT NO NODE WRITES.**

  A node may write flags, options and the facing, and it may work on the party.
  The rest of a savegame is a frame around that: the hour and the acting member
  stay, the members stay who they are, words are only learned, buffs only end,
  and a replaced tile stays replaced.  Locks are turned by the actions that are
  about them, and opened by the player.

    • `Member.person`            — what no turn changes about a member;
    • `Savegame.Keeps`           — the frame, but for the locks that may turn;
    • `Node.Affects.keeps`       — every effect of a node keeps it;
    • `Node.step_keeps`          — and so does a step;
    • `walkFrom_keeps`, `resume_keeps` — a walk keeps it, but for the locks of
      the actions that ran and the one that was opened.
-/
import TileEvents.Proofs.Party.Turns
import TileEvents.Proofs.Walk.Tiles
import TileEvents.Proofs.Walk.Visits

namespace TileEvents

/-! ## §1. Who a member is. -/

/-- What makes a member this person: the name, the character, and the largest values of all stats. -/
structure Person where
  name : String
  character : UInt16
  hitPoints : UInt32
  spellPoints : UInt32
  attributes : List UInt32
  skills : List UInt32
  deriving DecidableEq

/-- **The person that a member is.** -/
def Member.person (m : Member) : Person where
  name := m.name
  character := m.character
  hitPoints := m.hitPoints.max
  spellPoints := m.spellPoints.max
  attributes := m.attributes.map (·.max)
  skills := m.skills.map (·.max)

namespace Member

/-- Damage makes nobody another person. -/
@[simp] theorem person_takeDamage (m : Member) (damage : UInt32) :
    (m.takeDamage damage).person = m.person := by
  unfold takeDamage
  dsimp only
  split <;> rfl

/-- Neither does an ailment. -/
@[simp] theorem person_setAilment (m : Member) (a : Ailment) (on : Bool) :
    (m.setAilment a on).person = m.person := rfl

end Member

/-- To revise one of many stats leaves the largest values. -/
theorem Award.map_max_modify (operation : AwardOperation) (amount : UInt32) (stats : List Stat)
    (i : Nat) :
    (stats.modify i (reviseStat operation amount)).map (·.max) = stats.map (·.max) := by
  induction stats generalizing i with
  | nil => rw [List.modify_nil]
  | cons s stats ih =>
      cases i with
      | zero => rfl
      | succ i =>
          rw [List.modify_succ_cons, List.map_cons, ih, List.map_cons]

/-- **No award makes a member another person.** -/
theorem Award.person_revise (a : Award) (amount : UInt32) (m : Member) :
    (a.revise amount m).person = m.person := by
  unfold revise
  cases a.kind with
  | hitPoints =>
      dsimp only
      split
      · exact m.person_takeDamage amount
      · rfl
  | attributeAt i => simp only [Member.person, map_max_modify]
  | skillAt i => simp only [Member.person, map_max_modify]
  | ailmentAt bit =>
      dsimp only
      unfold reviseAilment
      split <;> rfl
  | _ => rfl

/-- **No turn makes a member another person.** -/
theorem Payload.Turns.person_eq {settings : Settings} {p : Payload} {m m' : Member}
    (h : p.Turns settings m m') : m'.person = m.person := by
  cases h with
  | same => rfl
  | packed hp hkind hm =>
      obtain ⟨inventory, equipment, rfl⟩ := hm
      rfl
  | ailing => rfl
  | settled c new hp hkind => cases c <;> rfl
  | @awarded a amount hp halive => exact a.person_revise amount m
  | @trapped t damage hp halive =>
      unfold Trap.revise
      split
      · exact m.person_takeDamage damage
      · rw [Member.person_setAilment, Member.person_takeDamage]

/-- So a party keeps its persons in their order. -/
theorem Payload.TurnsAll.map_person {settings : Settings} {p : Payload} {party party' : List Member}
    (h : p.TurnsAll settings party party') : party'.map (·.person) = party.map (·.person) := by
  unfold Payload.TurnsAll at h
  induction h with
  | nil => rfl
  | cons hm _ ih => rw [List.map_cons, List.map_cons, hm.person_eq, ih]

/-! ## §2. Locks. -/

/-- The lock of a door or of a chest. -/
inductive Lock where
  | door (door : UInt16)
  | chest (chest : UInt16)
  deriving DecidableEq

namespace Savegame

/-- Whether a lock is closed. -/
def isLocked (s : Savegame) : Lock → Bool
  | .door door => s.isDoorLocked door
  | .chest chest => s.isChestLocked chest

/-- A lock opened or closed. -/
def setLocked (s : Savegame) (lock : Lock) (locked : Bool) : Savegame :=
  match lock with
  | .door door => s.setDoorLocked door locked
  | .chest chest => s.setChestLocked chest locked

@[simp] theorem isLocked_setLocked (s : Savegame) (lock lock' : Lock) (locked : Bool) :
    (s.setLocked lock locked).isLocked lock' = if lock' = lock then locked else s.isLocked lock' := by
  cases lock with
  | door i =>
      cases lock' with
      | door j => simp [isLocked, setLocked]
      | chest j => rfl
  | chest i =>
      cases lock' with
      | door j => rfl
      | chest j => simp [isLocked, setLocked]

end Savegame

/-- The lock that an action sets, if it is about one. -/
def Action.lock? (a : Action) : Option Lock :=
  match a.kind with
  | .lockDoor => some (.door a.object)
  | .lockChest => some (.chest a.object)
  | _ => none

/-- The lock that a node sets when it runs. -/
def Payload.turned? : Payload → Option Lock
  | .action a => a.lock?
  | _ => none

/-- The lock that the player opens at a node. -/
def Payload.opened? : Payload → Option Lock
  | .door d => some (.door d.door)
  | .chest c => some (.chest c.chest)
  | _ => none

/-! ## §3. The frame. -/

/-- **The frame of a savegame is kept**, but for the locks that `turned` allows. -/
structure Savegame.Keeps (turned : Lock → Prop) (before after : Savegame) : Prop where
  hour : after.hour = before.hour
  activeMember : after.activeMember = before.activeMember
  /-- The members are the same persons in the same order. -/
  party : after.party.map (·.person) = before.party.map (·.person)
  /-- Words are not forgotten. -/
  words : ∀ word, before.knowsWord word = true → after.knowsWord word = true
  /-- Buffs do not begin. -/
  buffs : ∀ buff, after.activeBuffs.contains buff = true → before.activeBuffs.contains buff = true
  /-- Every entry of the record keeps its place and its target; others may follow. -/
  tiles : before.tileChanges.map (·.target) <+: after.tileChanges.map (·.target)
  locks : ∀ lock, after.isLocked lock ≠ before.isLocked lock → turned lock

namespace Savegame.Keeps

variable {turned turned' : Lock → Prop} {s s' s'' : Savegame}

theorem refl (s : Savegame) : s.Keeps turned s where
  hour := rfl
  activeMember := rfl
  party := rfl
  words _ h := h
  buffs _ h := h
  tiles := List.prefix_refl _
  locks _ h := absurd rfl h

theorem of_eq (h : s' = s) : s.Keeps turned s' := by
  rw [h]
  exact .refl s

theorem trans (h : s.Keeps turned s') (h' : s'.Keeps turned s'') : s.Keeps turned s'' where
  hour := h'.hour.trans h.hour
  activeMember := h'.activeMember.trans h.activeMember
  party := h'.party.trans h.party
  words word hword := h'.words word (h.words word hword)
  buffs buff hbuff := h.buffs buff (h'.buffs buff hbuff)
  tiles := h.tiles.trans h'.tiles
  locks lock hlock := by
    by_cases hfirst : s'.isLocked lock = s.isLocked lock
    · exact h'.locks lock (hfirst ▸ hlock)
    · exact h.locks lock hfirst

/-- More locks may turn. -/
theorem mono (h : s.Keeps turned s') (hmore : ∀ lock, turned lock → turned' lock) :
    s.Keeps turned' s' :=
  { h with locks := fun lock hlock => hmore lock (h.locks lock hlock) }

/-- Flags, options and the facing are no part of the frame. -/
theorem elsewhere (s : Savegame) (globals : KeySet UInt16) (bits characterBits : KeySet BitAddress)
    (options : UInt32) (direction : Direction) :
    s.Keeps turned { s with
      globalVariables := globals, eventBits := bits, characterBits := characterBits,
      gameOptions := options, direction := direction } :=
  { refl s with }

theorem setParty {party : List Member} (h : party.map (·.person) = s.party.map (·.person)) :
    s.Keeps turned (s.setParty party) :=
  { refl s with party := h }

theorem addWord (s : Savegame) (word : UInt16) : s.Keeps turned (s.addWord word) :=
  { refl s with
    words := fun _ h => KeySet.contains_iff.2 (KeySet.mem_insert.2 (.inr (KeySet.contains_iff.1 h))) }

theorem removeBuffs (s : Savegame) (buff : Option UInt8) : s.Keeps turned (s.removeBuffs buff) := by
  cases buff with
  | some buff =>
      exact { refl s with
        buffs := fun _ h => KeySet.contains_iff.2 (KeySet.mem_erase.1 (KeySet.contains_iff.1 h)).1 }
  | none => exact { refl s with buffs := fun _ h => by cases h }

theorem setLocked (s : Savegame) (lock : Lock) (h : turned lock) (locked : Bool) :
    s.Keeps turned (s.setLocked lock locked) := by
  have hlocks : ∀ lock', (s.setLocked lock locked).isLocked lock' ≠ s.isLocked lock' →
      turned lock' := by
    intro lock' hne
    rw [isLocked_setLocked] at hne
    split at hne
    · next heq => exact heq ▸ h
    · exact absurd rfl hne
  cases lock with
  | door door => exact { @refl turned s with locks := hlocks }
  | chest chest => exact { @refl turned s with locks := hlocks }

theorem recordTileChange (s : Savegame) (target : TileTarget) (tile : UInt16) :
    s.Keeps turned (s.recordTileChange target tile) := by
  refine { refl s with tiles := ?_ }
  show _ <+: (TileChange.record target tile s.tileChanges).map (·.target)
  rw [TileChange.map_target_record]
  split
  · exact List.prefix_refl _
  · exact List.prefix_append _ _

/-- What leaves all but the party keeps the frame if the members stay who they are. -/
theorem of_sameButParty {t t' : Scene} (h : t.SameButParty t')
    (hparty : t'.save.party.map (·.person) = t.save.party.map (·.person)) :
    t.save.Keeps turned t'.save := by
  obtain ⟨party, hsave⟩ := h
  rw [hsave] at hparty ⊢
  exact .setParty hparty

end Savegame.Keeps

/-! ## §4. Nodes. -/

/-- **An action keeps the frame**, but for the lock that it sets. -/
theorem Action.effect_keeps {a : Action} {settings : Settings} {id : NodeId} {f : Scene → Scene}
    (h : a.effect settings id = .ok f) (s : Scene) :
    s.save.Keeps (fun lock => a.lock? = some lock) (f s).save := by
  have hparty := (Action.effect_turns s h).map_person
  unfold effect at h
  cases hkind : a.kind with
  | lockDoor =>
      simp only [hkind] at h
      injection h with h
      subst h
      exact .setLocked s.save (.door a.object) (by simp [lock?, hkind]) _
  | lockChest =>
      simp only [hkind] at h
      injection h with h
      subst h
      exact .setLocked s.save (.chest a.object) (by simp [lock?, hkind]) _
  | addKeyword =>
      simp only [hkind] at h
      injection h with h
      subst h
      exact .addWord s.save a.object
  -- these four work on the party
  | addItem =>
      simp only [hkind] at h
      injection h with h
      subst h
      exact .of_sameButParty (a.applyItem_sameButParty id s) hparty
  | addGold | addFood =>
      simp only [hkind] at h
      injection h with h
      subst h
      exact .of_sameButParty (a.applyCurrency_sameButParty id s settings _) hparty
  | addAilment =>
      simp only [hkind] at h
      split at h
      · cases h
      · injection h with h
        subst h
        exact .of_sameButParty (a.applyAilment_sameButParty id s _) hparty
  -- and these on flags, options and the facing
  | setDirection =>
      simp only [hkind] at h
      split at h
      · cases h
      · injection h with h
        subst h
        exact .elsewhere ..
  | setGameOption =>
      simp only [hkind] at h
      injection h with h
      subst h
      show s.save.Keeps _ (s.save.setGameOption a.object _)
      unfold Savegame.setGameOption
      split
      · exact .elsewhere ..
      · exact .refl s.save
  | setGlobalVariable | setEventBit | setCharacterBit =>
      simp only [hkind] at h
      injection h with h
      subst h
      exact .elsewhere ..

/-- A tile replacement keeps the frame: what it records is an entry of its own or a new one. -/
theorem Scene.replaceTile_keeps (s : Scene) (id : NodeId) (origin : Origin) (r : TileReplacement)
    (turned : Lock → Prop) : s.save.Keeps turned (s.replaceTile id origin r).save := by
  have hsettle : (s.settle id origin r.target).2.save = s.save := by
    unfold settle
    split <;> rfl
  have hrecord : s.save.Keeps turned ((s.settle id origin r.target).2.save.recordTileChange
      (s.settle id origin r.target).1 r.tile) := by
    rw [hsettle]
    exact .recordTileChange ..
  unfold replaceTile
  cases origin.event with
  | none => exact hrecord
  | some event => exact hrecord.trans (.elsewhere ..)

/-- **Every effect of a node keeps the frame**, but for the lock that the node sets. -/
theorem Node.Affects.keeps {settings : Settings} {origin : Origin} {n : Node} {s s' : Scene}
    (h : n.Affects settings origin s s') :
    s.save.Keeps (fun lock => n.payload.turned? = some lock) s'.save := by
  have hparty := h.turnsAll.map_person
  cases h with
  | asks calls hsave => exact .of_eq hsave
  | turns facing hn hsave =>
      rw [hsave]
      exact .elsewhere ..
  | endsBuffs hn hsave =>
      rw [hsave]
      exact .removeBuffs ..
  | acts hn hf =>
      rw [hn]
      exact Action.effect_keeps hf s
  | @awards a hn => exact .of_sameButParty (a.apply_sameButParty n.id s) hparty
  | @springs t hn => exact .of_sameButParty (t.spring_sameButParty n.id s) hparty
  | @replaces r hn => exact s.replaceTile_keeps n.id origin r _

/-- **A step that succeeds keeps the frame**, but for the lock that its node sets. -/
theorem Node.step_keeps {ctx : Context} {m : GameMap} {origin : Origin} {n : Node} {c : Cursor}
    {s s' : Scene} {r : Directive × Cursor} (h : n.step ctx m origin c s = (.ok r, s')) :
    s.save.Keeps (fun lock => n.payload.turned? = some lock) s'.save := by
  obtain ⟨t, t', ht, ht', haffects⟩ := step_affects h
  have hkeeps := haffects.keeps
  rw [(Scene.eq_but_log ht).1, (Scene.eq_but_log ht').1] at hkeeps
  exact hkeeps

/-- An answer opens the lock of its node at most, and only if it says that it was opened. -/
theorem Node.afterAnswer_keeps (n : Node) (save : Savegame) (a : Answer) :
    save.Keeps (fun lock => a = .unlocked ∧ n.payload.opened? = some lock) (n.afterAnswer save a) := by
  unfold afterAnswer
  split
  · next d hp => exact .setLocked save (.door d.door) ⟨rfl, by rw [hp]; rfl⟩ false
  · next c hp => exact .setLocked save (.chest c.chest) ⟨rfl, by rw [hp]; rfl⟩ false
  · exact .refl save

/-! ## §5. Walks. -/

/-- The locks that are set on these visits. -/
def turnedBy (visits : List Visit) (lock : Lock) : Prop :=
  ∃ v ∈ visits, v.node.payload.turned? = some lock

section Walks

variable (ctx : Context) (m : GameMap)

/-- **A walk keeps the frame**, but for the locks that the nodes it runs set. -/
theorem walkFrom_keeps (origin : Origin) (start : NodeId) (limit : Nat) :
    ∀ (left : Nat) (id : NodeId) (c : Cursor) (s : Scene),
      s.save.Keeps (turnedBy (visitsFrom ctx m origin left id c s))
        (walkFrom ctx m origin start limit left id c s).2.save := by
  -- on the steps that are left; only a node that hands over is followed by others
  intro left
  induction left with
  | zero => intro id c s; exact .refl _
  | succ left ih =>
      intro id c s
      unfold walkFrom visitsFrom
      cases hn : m.node id with
      | error e => exact .refl _
      | ok n =>
          simp only
          cases hstep : n.step ctx m origin c s with
          | mk result s' =>
              -- what this node sets is set on the visits, whether or not others follow
              have here (visits : List Visit) (lock : Lock)
                  (h : n.payload.turned? = some lock) :
                  turnedBy (⟨origin, n, s, s'⟩ :: visits) lock :=
                ⟨_, List.mem_cons_self, h⟩
              match result, hstep with
              | .error e, hstep => exact .of_eq (Node.step_error_save hstep)
              | .ok (.reject, _), hstep | .ok (.await _, _), hstep | .ok (.goto none, _), hstep =>
                  exact (Node.step_keeps hstep).mono (here [])
              | .ok (.goto (some j), c'), hstep =>
                  refine ((Node.step_keeps hstep).mono (here _)).trans ((ih j c' s').mono ?_)
                  rintro lock ⟨v, hv, hlock⟩
                  exact ⟨v, List.mem_cons_of_mem _ hv, hlock⟩

/-- **So does a whole walk.** -/
theorem walk_keeps (origin : Origin) (start : NodeId) (trigger : Trigger) (status : Bool)
    (s : Scene) :
    s.save.Keeps (turnedBy (walkVisits ctx m origin start trigger status s))
      (walk ctx m origin start trigger status s).2.save :=
  walkFrom_keeps ctx m origin start _ _ start ⟨trigger, status⟩ (s.atStart m start trigger)

/-- The player answers that the lock of the node that asked has been opened. -/
def Suspension.Opens (w : Suspension) (a : Answer) (lock : Lock) : Prop :=
  a = .unlocked ∧ ∃ n, m.node w.node = .ok n ∧ n.payload.opened? = some lock

/-- **So does a walk that is picked up again**, but for the lock that was opened meanwhile. -/
theorem resume_keeps (w : Suspension) (a : Answer) (s : Scene) :
    s.save.Keeps (fun lock => turnedBy (resumeVisits ctx m w a s) lock ∨ w.Opens m a lock)
      (resume ctx m w a s).2.save := by
  unfold resume resumeVisits
  cases hn : m.node w.node with
  | error e => exact .refl _
  | ok n =>
      simp only
      cases n.check with
      | error e => exact .refl _
      | ok u =>
          have hsave : (s.note .info s!"resuming node {w.node.text} with {a.inspect}").save
              = s.save := rfl
          simp only [hsave]
          cases n.answer ctx.dictionary s.save w.status a with
          | error r => exact .refl _
          | ok branch =>
              have hanswered (visits : List Visit) :
                  s.save.Keeps (fun lock => turnedBy visits lock ∨ w.Opens m a lock)
                    (n.afterAnswer s.save a) := by
                refine (n.afterAnswer_keeps s.save a).mono ?_
                rintro lock ⟨ha, hlock⟩
                exact .inr ⟨ha, n, hn, hlock⟩
              match branch with
              | .proceed (some next) status =>
                  exact (hanswered _).trans ((walk_keeps ctx m w.origin next .always status
                    (s.answered n w a)).mono fun lock hlock => .inl hlock)
              | .proceed none status | .abort | .again => exact hanswered []

end Walks

end TileEvents
