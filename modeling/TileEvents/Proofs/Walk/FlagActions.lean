/-
  TileEvents.Proofs.Walk.FlagActions
  ──────────────────────────────────
  **WHAT THE VALUES OF FLAG ACTIONS PROMISE.**

  An action on a flag has a value that says what to do: 0 clears, 1 sets, 2
  toggles, and any other value leaves the flag alone.  Each of the seven kinds
  names its flag by a number, and no flag has two numbers, so that actions of
  another kind or on another number are about another flag.  What becomes of
  the savegame is then a matter of flags alone, and the places where they are
  kept do not come up again.

    • `Action.flag?_inj`     — two actions on one flag are of one kind and on
                               one number;
    • `Action.effect_flag?`  — an action on a flag writes that flag alone;
    • `Action.holds_of_flag?` — the condition that asks for it reads it;
    • `turn_again`, `turn_back`, `turn_left`, `turn_comm` — operations on flags;
    • `flag_actions_algebra` — the same of the actions.
-/
import TileEvents.Proofs.Savegame.BitLayout
import TileEvents.Proofs.Walk.Deciding
import TileEvents.Proofs.Walk.Flags

namespace TileEvents

/-! ## §1. Ailments. -/

/-- No ailment has two object indices. -/
theorem Ailment.ofIndex?_inj {o o' : UInt16} {a : Ailment} (h : ofIndex? o = some a)
    (h' : ofIndex? o' = some a) : o = o' := by
  have hnodup : all.Nodup := by decide
  have hlt : o.toNat < all.length := (List.getElem?_eq_some_iff.1 h).1
  exact UInt16.toNat_inj.1 ((List.getElem?_inj hlt hnodup).1 (h.trans h'.symm))

/-! ## §2. What an action is about. -/

/-- The kind of condition that asks for the flag which actions of this kind set. -/
def ActionKind.asking? : ActionKind → Option ConditionKind
  | setGlobalVariable => some .globalVariable
  | setEventBit => some .eventBit
  | lockDoor => some .doorLocked
  | lockChest => some .chestLocked
  | setCharacterBit => some .characterBit
  | setGameOption => some .gameOptionSet
  | addAilment => some .hasAilment
  | addItem | addKeyword | setDirection | addGold | addFood => none

/-- Such a condition asks the player for nothing. -/
theorem ActionKind.demand?_of_asking? {k : ActionKind} {c : Condition}
    (h : k.asking? = some c.kind) : c.demand? = none := by
  unfold Condition.demand?
  split
  · next hword =>
      rw [hword] at h
      cases k <;> cases h
  · next hnumber =>
      rw [hnumber] at h
      cases k <;> cases h
  · rfl

namespace Action

/-- **An action on a flag that exists**: there are 32 game options and eleven ailments. -/
structure SetsFlag (a : Action) : Prop where
  kind : a.kind.asking?.isSome = true
  option : a.kind = .setGameOption → a.object < 32
  ailment : a.kind = .addAilment → a.object ≤ 10

/-- The flag that an action is about. -/
def flag? (a : Action) : Option Flag :=
  match a.kind with
  | .setGlobalVariable => some (.globalVariable a.object)
  | .setEventBit => some (.eventBit (.event a.object))
  | .lockDoor => some (.locked (.door a.object))
  | .lockChest => some (.locked (.chest a.object))
  | .setCharacterBit => some (.characterBit (.character a.object))
  | .setGameOption => if h : a.object < 32 then some (.gameOption ⟨a.object, h⟩) else none
  | .addAilment => (Ailment.ofIndex? a.object).map .suffers
  | _ => none

/-- An action on a flag that exists is about one. -/
theorem SetsFlag.exists_flag {a : Action} (h : a.SetsFlag) : ∃ f, a.flag? = some f := by
  unfold flag?
  cases hkind : a.kind with
  | setGameOption => exact ⟨_, dif_pos (h.option hkind)⟩
  | addAilment =>
      have hlt : a.object.toNat < Ailment.all.length := by
        have hle : a.object.toNat ≤ 10 := h.ailment hkind
        show a.object.toNat < 11
        omega
      exact ⟨_, congrArg (Option.map _) (List.getElem?_eq_getElem hlt)⟩
  | addItem | addKeyword | setDirection | addGold | addFood =>
      have hnone := h.kind
      rw [hkind] at hnone
      cases hnone
  | _ => exact ⟨_, rfl⟩

/-- What a flag says of an action that is about it. -/
def Names (a : Action) : Flag → Prop
  | .globalVariable index => a.kind = .setGlobalVariable ∧ a.object = index
  | .eventBit address => a.kind = .setEventBit ∧ BitAddress.event a.object = address
  | .characterBit address => a.kind = .setCharacterBit ∧ BitAddress.character a.object = address
  | .locked (.door door) => a.kind = .lockDoor ∧ a.object = door
  | .locked (.chest chest) => a.kind = .lockChest ∧ a.object = chest
  | .gameOption option => a.kind = .setGameOption ∧ a.object = option
  | .suffers ailment => a.kind = .addAilment ∧ Ailment.ofIndex? a.object = some ailment

theorem names_of_flag? {a : Action} {f : Flag} (h : a.flag? = some f) : a.Names f := by
  unfold flag? at h
  cases hkind : a.kind <;> simp only [hkind] at h
  case setGameOption =>
    split at h
    · cases h
      exact ⟨hkind, rfl⟩
    · cases h
  case addAilment =>
    obtain ⟨ailment, hailment, rfl⟩ := Option.map_eq_some_iff.1 h
    exact ⟨hkind, hailment⟩
  all_goals
    cases h
  all_goals
    exact ⟨hkind, rfl⟩

/-- **Two actions on one flag are of one kind and about one object.** -/
theorem flag?_inj {a b : Action} {f : Flag} (ha : a.flag? = some f) (hb : b.flag? = some f) :
    a.kind = b.kind ∧ a.object = b.object := by
  have hna := names_of_flag? ha
  have hnb := names_of_flag? hb
  cases f with
  | eventBit address =>
      exact ⟨hna.1.trans hnb.1.symm, BitAddress.event_spreads.injective (hna.2.trans hnb.2.symm)⟩
  | characterBit address =>
      exact ⟨hna.1.trans hnb.1.symm, BitAddress.character_spreads.injective (hna.2.trans hnb.2.symm)⟩
  | suffers ailment => exact ⟨hna.1.trans hnb.1.symm, Ailment.ofIndex?_inj hna.2 hnb.2⟩
  | locked lock => cases lock <;> exact ⟨hna.1.trans hnb.1.symm, hna.2.trans hnb.2.symm⟩
  | globalVariable index | gameOption option =>
      exact ⟨hna.1.trans hnb.1.symm, hna.2.trans hnb.2.symm⟩

/-- **An action on a flag writes that flag**, and nothing else to the savegame. -/
theorem effect_flag? {a : Action} {flag : Flag} (h : a.flag? = some flag) (settings : Settings)
    (id : NodeId) :
    ∃ f, a.effect settings id = .ok f
      ∧ ∀ s, (f s).save = s.save.setFlag flag (flagAfter a.value (s.save.flag flag)) := by
  unfold flag? at h
  unfold effect
  cases hkind : a.kind with
  | setGameOption =>
      simp only [hkind] at h
      split at h
      · injection h with h
        subst h
        exact ⟨_, rfl, fun _ => rfl⟩
      · cases h
  | addAilment =>
      simp only [hkind] at h
      obtain ⟨ailment, hailment, rfl⟩ := Option.map_eq_some_iff.1 h
      simp only [hailment]
      refine ⟨_, rfl, fun s => ?_⟩
      unfold applyAilment Savegame.flag
      cases hactor : s.save.actor? with
      | some member => rfl
      | none =>
          -- nobody is there to be revised
          have hout : s.save.party.length ≤ s.save.activeMember.toNat :=
            List.getElem?_eq_none_iff.1 hactor
          show s.save = s.save.setParty (s.save.party.modify s.save.activeMember.toNat _)
          rw [List.modify_eq_self hout]
          rfl
  | setGlobalVariable | setEventBit | setCharacterBit | lockDoor | lockChest =>
      simp only [hkind] at h
      injection h with h
      subst h
      exact ⟨_, rfl, fun _ => rfl⟩
  | _ => simp [hkind] at h

/-- **The condition that asks for the flag of an action reads that flag.** -/
theorem holds_of_flag? {a : Action} {f : Flag} (h : a.flag? = some f) {c : Condition}
    (hkind : a.kind.asking? = some c.kind) (hobject : c.object = a.object) (save : Savegame)
    (trigger : Trigger) (status : Bool) : c.holds save trigger status = save.flag f := by
  have hnames := names_of_flag? h
  cases f with
  | globalVariable _ | eventBit _ | characterBit _ =>
      obtain ⟨ha, rfl⟩ := hnames
      rw [ha] at hkind
      simp only [Condition.holds, Condition.holdsOf, ← Option.some.inj hkind, hobject]
      rfl
  | locked lock =>
      cases lock with
      | door _ | chest _ =>
          obtain ⟨ha, rfl⟩ := hnames
          rw [ha] at hkind
          simp only [Condition.holds, Condition.holdsOf, ← Option.some.inj hkind, hobject]
          rfl
  | gameOption option =>
      obtain ⟨ha, ho⟩ := hnames
      rw [ha] at hkind
      simp only [Condition.holds, Condition.holdsOf, ← Option.some.inj hkind, hobject, ho]
      rfl
  | suffers ailment =>
      obtain ⟨ha, ho⟩ := hnames
      rw [ha] at hkind
      simp only [Condition.holds, Condition.holdsOf, ← Option.some.inj hkind, Condition.actorSuffers,
        hobject, ho]
      unfold Savegame.flag
      cases save.actor? <;> rfl

end Action

/-! ## §3. Operations. -/

/-- **What an operation makes of a flag**: 0 clears, 1 sets, 2 toggles, and anything else leaves. -/
structure Obeys (operation : UInt16) (old new : Bool) : Prop where
  clears : operation = 0 → new = false
  sets : operation = 1 → new = true
  toggles : operation = 2 → new = !old
  leaves : 2 < operation → new = old

/-- An operation does what its number says. -/
theorem flagAfter_obeys (operation : UInt16) (old : Bool) :
    Obeys operation old (flagAfter operation old) where
  clears h := by rw [h]; rfl
  sets h := by rw [h]; rfl
  toggles h := by rw [h]; rfl
  leaves h := by
    have hlt : 2 < operation.toNat := h
    unfold flagAfter
    split <;> first | omega | rfl

/-- To clear or to set a second time changes nothing. -/
theorem flagAfter_again {operation : UInt16} (h : operation = 0 ∨ operation = 1) (old : Bool) :
    flagAfter operation (flagAfter operation old) = flagAfter operation old := by
  rcases h with rfl | rfl <;> rfl

namespace Savegame

/-- The savegame after an operation on a flag. -/
def turn (s : Savegame) (f : Flag) (operation : UInt16) : Savegame :=
  s.setFlag f (flagAfter operation (s.flag f))

section Turns

variable {s : Savegame} (hactor : s.actor?.isSome = true)

include hactor

theorem flag_turn (f g : Flag) (operation : UInt16) :
    (s.turn f operation).flag g = if g = f then flagAfter operation (s.flag g) else s.flag g := by
  rw [turn, flag_setFlag hactor]
  split
  · next h => rw [h]
  · rfl

/-- Two operations on one flag come down to one value written. -/
theorem turn_turn (f : Flag) (operation operation' : UInt16) :
    (s.turn f operation).turn f operation'
      = s.setFlag f (flagAfter operation' (flagAfter operation (s.flag f))) := by
  rw [turn, flag_turn hactor, if_pos rfl, turn, setFlag_setFlag hactor]

/-- To clear or to set a second time changes nothing. -/
theorem turn_again (f : Flag) {operation : UInt16} (h : operation = 0 ∨ operation = 1) :
    (s.turn f operation).turn f operation = s.turn f operation := by
  rw [turn_turn hactor, flagAfter_again h, turn]

/-- To toggle twice changes nothing. -/
theorem turn_back (f : Flag) : (s.turn f 2).turn f 2 = s := by
  have htwice : flagAfter 2 (flagAfter 2 (s.flag f)) = s.flag f := Bool.not_not _
  rw [turn_turn hactor, htwice, setFlag_flag hactor]

/-- To leave changes nothing. -/
theorem turn_left (f : Flag) {operation : UInt16} (h : 2 < operation) : s.turn f operation = s := by
  rw [turn, (flagAfter_obeys operation _).leaves h, setFlag_flag hactor]

/-- **Operations on two flags are carried out in either order.** -/
theorem turn_comm {f g : Flag} (h : f ≠ g) (operation operation' : UInt16) :
    (s.turn f operation).turn g operation' = (s.turn g operation').turn f operation := by
  have hf : (s.turn g operation').flag f = s.flag f := by rw [flag_turn hactor, if_neg h]
  have hg : (s.turn f operation).flag g = s.flag g := by rw [flag_turn hactor, if_neg h.symm]
  calc (s.turn f operation).turn g operation'
      = (s.setFlag f (flagAfter operation (s.flag f))).setFlag g
          (flagAfter operation' (s.flag g)) := by rw [turn, hg, turn]
    _ = (s.setFlag g (flagAfter operation' (s.flag g))).setFlag f
          (flagAfter operation (s.flag f)) := setFlag_comm hactor h _ _
    _ = (s.turn g operation').turn f operation := by rw [turn, hf, turn]

end Turns

end Savegame

/-! ## §4. The algebra of the actions. -/

/-- **The actions on flags form the algebra that their values promise.**  An action on a flag that
exists can always be carried out.  Afterwards the condition that asks for the flag of this object
finds it off for the value 0, on for 1, toggled for 2, and as it was for any other value.  To clear
or to set twice is to do it once, to toggle twice or to leave a flag changes nothing in the
savegame, and actions on different flags can be carried out in either order. -/
theorem flag_actions_algebra {a : Action} (ha : a.SetsFlag) (settings : Settings) (id : NodeId) :
    ∃ f, a.effect settings id = .ok f ∧ ∀ s : Scene, s.save.actor?.isSome = true →
      (∀ c : Condition, a.kind.asking? = some c.kind → c.object = a.object → ∀ trigger status,
        (∀ save, c.verdict save trigger status
            = .decided (c.holds save trigger status == c.expected))
          ∧ Obeys a.value (c.holds s.save trigger status) (c.holds (f s).save trigger status))
      ∧ (a.value = 0 ∨ a.value = 1 → (f (f s)).save = (f s).save)
      ∧ (a.value = 2 → (f (f s)).save = s.save)
      ∧ (2 < a.value → (f s).save = s.save)
      ∧ ∀ b : Action, b.SetsFlag → (b.kind ≠ a.kind ∨ b.object ≠ a.object) →
          ∀ settings' id' g, b.effect settings' id' = .ok g → (g (f s)).save = (f (g s)).save := by
  obtain ⟨flag, hflag⟩ := ha.exists_flag
  obtain ⟨f, hf, hsave⟩ := Action.effect_flag? hflag settings id
  change ∀ s, (f s).save = s.save.turn flag a.value at hsave
  refine ⟨f, hf, fun s hactor => ⟨?reads, ?again, ?back, ?left, ?either⟩⟩
  case reads =>
    intro c hkind hobject trigger status
    have hask := ActionKind.demand?_of_asking? hkind
    refine ⟨fun save => Condition.verdict_of_demand_none hask save trigger status, ?_⟩
    rw [Action.holds_of_flag? hflag hkind hobject, Action.holds_of_flag? hflag hkind hobject, hsave,
      Savegame.flag_turn hactor, if_pos rfl]
    exact flagAfter_obeys a.value _
  case again =>
    intro hvalue
    rw [hsave, hsave, Savegame.turn_again hactor flag hvalue]
  case back =>
    intro hvalue
    rw [hsave, hsave, hvalue, Savegame.turn_back hactor]
  case left =>
    intro hvalue
    rw [hsave, Savegame.turn_left hactor flag hvalue]
  case either =>
    intro b hb hother settings' id' g hg
    obtain ⟨flag', hflag'⟩ := hb.exists_flag
    obtain ⟨g', hg', hsave'⟩ := Action.effect_flag? hflag' settings' id'
    change ∀ s, (g' s).save = s.save.turn flag' b.value at hsave'
    obtain rfl : g' = g := Except.ok.inj (hg'.symm.trans hg)
    have hne : flag ≠ flag' := by
      rintro rfl
      obtain ⟨hkind, hobject⟩ := Action.flag?_inj hflag' hflag
      exact hother.elim (fun h => h hkind) fun h => h hobject
    rw [hsave', hsave, hsave, hsave', Savegame.turn_comm hactor hne]

/-- A member is struck dead and raised again, and a door is unlocked before or after that. -/
theorem flag_actions_algebra_raised :
    let s : Scene := ⟨{ Savegame.blank with party := [.blank] }, .ofScript [], [], #[], #[]⟩
    let strike : Action := ⟨.addAilment, 10, 2, 0⟩
    let unlock : Action := ⟨.lockDoor, 3, 0, 0⟩
    strike.SetsFlag ∧ unlock.SetsFlag ∧ s.save.actor?.isSome = true
      ∧ ∃ f g, strike.effect .builtin ⟨0⟩ = .ok f ∧ unlock.effect .builtin ⟨1⟩ = .ok g
        ∧ (f s).save ≠ s.save ∧ (f (f s)).save = s.save
        ∧ (g s).save ≠ s.save ∧ (g (f s)).save = (f (g s)).save := by
  intro s strike unlock
  have hstrike : strike.SetsFlag := ⟨rfl, nofun, fun _ => by decide⟩
  have hunlock : unlock.SetsFlag := ⟨rfl, nofun, nofun⟩
  have hactor : s.save.actor?.isSome = true := rfl
  refine ⟨hstrike, hunlock, hactor, ?_⟩
  obtain ⟨f, hf, hlaws⟩ := flag_actions_algebra hstrike .builtin ⟨0⟩
  obtain ⟨-, -, hback, -, heither⟩ := hlaws s hactor
  have hdead : (f s).save ≠ s.save := by
    cases hf
    decide
  refine ⟨f, _, hf, rfl, hdead, hback rfl, by decide, ?_⟩
  exact heither unlock hunlock (.inl (by decide)) .builtin ⟨1⟩ _ rfl

end TileEvents
