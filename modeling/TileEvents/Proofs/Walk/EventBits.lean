/-
  TileEvents.Proofs.Walk.EventBits
  ────────────────────────────────
  **WHAT BECOMES OF AN EVENT BIT.**

  Two kinds of node write event bits: a tile replacement sets the bit of the
  tile event its walk came from, and an action on an event bit does what its
  value says.  Awards, traps and most actions touch the party alone, and no
  other kind of node comes near the bits.

    • `SameButParty`            — what leaves all but the party;
    • `Node.Affects.eventBit`   — one bit after any node;
    • `follows_eventBit`        — it is a part that deeds decide;
    • `foldl_eventBit_of_kept`  — it stays on until a deed clears it.
-/
import TileEvents.Proofs.Party.Handouts
import TileEvents.Proofs.Walk.Deeds
import TileEvents.Proofs.Walk.Effects

namespace TileEvents

/-! ## §1. What leaves all but the party. -/

namespace Scene

/-- The two savegames differ in the party alone. -/
def SameButParty (s s' : Scene) : Prop := ∃ party, s'.save = s.save.setParty party

theorem SameButParty.of_save {s s' : Scene} (h : s'.save = s.save) : s.SameButParty s' :=
  ⟨s.save.party, h⟩

theorem SameButParty.trans {s s' s'' : Scene} (h : s.SameButParty s') (h' : s'.SameButParty s'') :
    s.SameButParty s'' := by
  obtain ⟨party, hparty⟩ := h
  obtain ⟨party', hparty'⟩ := h'
  refine ⟨party', ?_⟩
  rw [hparty', hparty]
  rfl

/-- What leaves all but the party leaves the event bits. -/
theorem SameButParty.eventBit {s s' : Scene} (h : s.SameButParty s') (b : BitAddress) :
    s'.save.eventBit b = s.save.eventBit b := by
  obtain ⟨party, hparty⟩ := h
  rw [hparty]
  rfl

/-- A fold leaves all but the party if each of its steps does. -/
theorem SameButParty.foldl {α : Type} {f : Scene → α → Scene}
    (h : ∀ s a, SameButParty s (f s a)) (l : List α) (s : Scene) : s.SameButParty (l.foldl f s) := by
  induction l generalizing s with
  | nil => exact .of_save rfl
  | cons a l ih => exact (h s a).trans (ih (f s a))

end Scene

open Scene (SameButParty)

/-- An award leaves all but the party. -/
theorem Award.apply_sameButParty (a : Award) (id : NodeId) (s : Scene) :
    s.SameButParty (a.apply id s) := by
  obtain ⟨dice, party, hchanges⟩ := a.apply_changes id s
  exact ⟨party, (Scene.eq_but_log hchanges).1⟩

/-- A trap leaves all but the party. -/
theorem Trap.spring_sameButParty (t : Trap) (id : NodeId) (s : Scene) :
    s.SameButParty (t.spring id s).2 := by
  obtain ⟨dice, party, hchanges⟩ := t.spring_changes id s
  exact ⟨party, (Scene.eq_but_log hchanges).1⟩

namespace Action

variable (a : Action) (id : NodeId) (s : Scene)

theorem applyItem_sameButParty : s.SameButParty (a.applyItem id s) := by
  unfold applyItem
  dsimp only
  split
  · unfold giveItems
    dsimp only
    split
    · exact .of_save rfl
    · exact ⟨_, rfl⟩
  · have htold (told : List Nat) (s' : Scene) :
        s'.SameButParty (told.foldl (fun s m => s.call (.itemUncursed m a.object)) s') :=
      .foldl (f := fun s m => s.call (.itemUncursed m a.object)) (fun _ _ => .of_save rfl) told s'
    have htaken (party : List Member) : s.SameButParty (s.setSave (s.save.setParty party)) :=
      ⟨party, rfl⟩
    exact (htaken _).trans ((htold _ _).trans (.of_save rfl))
  · exact .of_save rfl

theorem applyCurrency_sameButParty (settings : Settings) (c : Currency) :
    s.SameButParty (a.applyCurrency settings id c s) := by
  unfold applyCurrency
  dsimp only
  split
  · exact ⟨_, rfl⟩
  · exact ⟨_, rfl⟩
  · exact .of_save rfl

theorem applyAilment_sameButParty (ailment : Ailment) :
    s.SameButParty (a.applyAilment id ailment s) := by
  unfold applyAilment
  split
  · exact .of_save rfl
  · exact ⟨_, rfl⟩

end Action

/-! ## §2. One bit after one node. -/

/-- Whether a walk came from the tile event that this bit switches off. -/
def Origin.owns (origin : Origin) (b : BitAddress) : Bool :=
  origin.event.any fun event => .tileEvent origin.map event = b

/-- An event bit after an action. -/
def Action.eventBitAfter (a : Action) (b : BitAddress) (old : Bool) : Bool :=
  if a.kind = .setEventBit ∧ BitAddress.event a.object = b then flagAfter a.value old else old

/-- **An event bit after a deed.** -/
def Deed.eventBitAfter (b : BitAddress) : Deed → Bool → Bool
  | .ran origin n, old =>
    match n.payload with
    | .changeTile _ => origin.owns b || old
    | .action a => a.eventBitAfter b old
    | _ => old
  | .eventBit address on, old => if address = b then on else old
  | _, old => old

/-- An action changes the event bit it names, and no other. -/
theorem Action.effect_eventBit {a : Action} {settings : Settings} {id : NodeId} {f : Scene → Scene}
    (h : a.effect settings id = .ok f) (s : Scene) (b : BitAddress) :
    (f s).save.eventBit b = a.eventBitAfter b (s.save.eventBit b) := by
  -- of the kinds of action only one is about event bits
  have elsewhere (hkind : a.kind ≠ .setEventBit)
      (hf : (f s).save.eventBit b = s.save.eventBit b) :
      (f s).save.eventBit b = a.eventBitAfter b (s.save.eventBit b) := by
    rw [hf, eventBitAfter, if_neg fun h => hkind h.1]
  unfold effect at h
  cases hkind : a.kind with
  | setEventBit =>
      simp only [hkind] at h
      injection h with h
      subst h
      show (s.save.setEventBit (.event a.object) (flagAfter a.value _)).eventBit b = _
      rw [Savegame.eventBit_setEventBit, eventBitAfter]
      by_cases hb : b = .event a.object
      · rw [if_pos hb, if_pos ⟨hkind, hb.symm⟩, hb]
      · rw [if_neg hb, if_neg fun h => hb h.2.symm]
  | setDirection =>
      simp only [hkind] at h
      split at h
      · cases h
      · injection h with h
        subst h
        exact elsewhere (by simp [hkind]) rfl
  | addAilment =>
      simp only [hkind] at h
      split at h
      · cases h
      · injection h with h
        subst h
        exact elsewhere (by simp [hkind]) ((a.applyAilment_sameButParty id s _).eventBit b)
  | addItem =>
      simp only [hkind] at h
      injection h with h
      subst h
      exact elsewhere (by simp [hkind]) ((a.applyItem_sameButParty id s).eventBit b)
  | addGold | addFood =>
      simp only [hkind] at h
      injection h with h
      subst h
      exact elsewhere (by simp [hkind]) ((a.applyCurrency_sameButParty id s settings _).eventBit b)
  | setGameOption =>
      simp only [hkind] at h
      injection h with h
      subst h
      refine elsewhere (by simp [hkind]) ?_
      show (s.save.setGameOption a.object _).eventBit b = _
      unfold Savegame.setGameOption
      split <;> rfl
  | _ =>
      simp only [hkind] at h
      injection h with h
      subst h
      exact elsewhere (by simp [hkind]) rfl

/-- A tile replacement sets the bit of the tile event that its walk came from. -/
theorem Scene.replaceTile_eventBit (s : Scene) (id : NodeId) (origin : Origin) (r : TileReplacement)
    (b : BitAddress) :
    (s.replaceTile id origin r).save.eventBit b = (origin.owns b || s.save.eventBit b) := by
  have hsettle : (s.settle id origin r.target).2.save = s.save := by
    unfold settle
    split <;> rfl
  have hrecord : ((s.settle id origin r.target).2.save.recordTileChange
      (s.settle id origin r.target).1 r.tile).eventBit b = s.save.eventBit b := by
    rw [hsettle]
    rfl
  unfold replaceTile Origin.owns
  cases origin.event with
  | none => exact hrecord
  | some event =>
      show (((s.settle id origin r.target).2.save.recordTileChange
        (s.settle id origin r.target).1 r.tile).setEventBit (.tileEvent origin.map event)
          true).eventBit b = _
      rw [Savegame.eventBit_setEventBit, hrecord]
      by_cases hb : b = .tileEvent origin.map event
      · simp [hb]
      · have hne : ¬ BitAddress.tileEvent origin.map event = b := fun h => hb h.symm
        simp [hb, hne]

/-- **Every effect of a node changes an event bit as the deed says.** -/
theorem Node.Affects.eventBit {settings : Settings} {origin : Origin} {n : Node} {s s' : Scene}
    (h : n.Affects settings origin s s') (b : BitAddress) :
    s'.save.eventBit b = (Deed.ran origin n).eventBitAfter b (s.save.eventBit b) := by
  unfold Deed.eventBitAfter
  dsimp only
  cases h with
  -- neither a tile replacement nor an action only asks
  | asks calls hsave _ _ _ hn =>
      rw [hsave]
      split
      · next r hp => rw [hp] at hn; cases hn
      · next a hp => rw [hp] at hn; cases hn
      · rfl
  | turns facing hn hsave =>
      rw [hn, hsave]
      rfl
  | @endsBuffs _ buff hn hsave =>
      rw [hn, hsave]
      cases buff <;> rfl
  | acts hn hf =>
      rw [hn]
      exact Action.effect_eventBit hf s b
  | @awards a hn =>
      rw [hn]
      exact (a.apply_sameButParty n.id s).eventBit b
  | @springs t hn =>
      rw [hn]
      exact (t.spring_sameButParty n.id s).eventBit b
  | @replaces r hn =>
      rw [hn]
      exact s.replaceTile_eventBit n.id origin r b

/-- **A node changes an event bit as the deed says.** -/
theorem Node.step_eventBit {ctx : Context} {m : GameMap} {origin : Origin} {n : Node} {c : Cursor}
    {s s' : Scene} {r : Directive × Cursor} (h : n.step ctx m origin c s = (.ok r, s'))
    (b : BitAddress) :
    s'.save.eventBit b = (Deed.ran origin n).eventBitAfter b (s.save.eventBit b) := by
  obtain ⟨t, t', ht, ht', haffects⟩ := step_affects h
  have hbit := haffects.eventBit b
  rw [(Scene.eq_but_log ht).1, (Scene.eq_but_log ht').1] at hbit
  exact hbit

/-! ## §3. A bit over many deeds. -/

/-- **An event bit is a part of the savegame that deeds decide.** -/
theorem follows_eventBit (b : BitAddress) :
    Follows (fun save => save.eventBit b) (Deed.eventBitAfter b) where
  ran h := Node.step_eventBit h b
  locks _ _ _ := rfl
  hour _ _ := rfl
  active _ _ := rfl
  eventBit save address on := by
    show (save.setEventBit address on).eventBit b = if address = b then on else save.eventBit b
    rw [Savegame.eventBit_setEventBit]
    simp only [eq_comm]

/-- A deed switches an event bit off: an action on the bit with the value 0 or 2, or the host. -/
def Deed.Clears (b : BitAddress) : Deed → Prop
  | .ran _ n => ∃ a, n.payload = .action a ∧ a.kind = .setEventBit ∧ (a.value = 0 ∨ a.value = 2) ∧
      BitAddress.event a.object = b
  | .eventBit address on => address = b ∧ on = false
  | _ => False

/-- Only 0 and 2 switch a flag off that is on. -/
theorem flagAfter_true {operation : UInt16} (hzero : operation ≠ 0) (htwo : operation ≠ 2) :
    flagAfter operation true = true := by
  unfold flagAfter
  split
  · next h => exact absurd (UInt16.toNat_inj.1 h) hzero
  · rfl
  · next h => exact absurd (UInt16.toNat_inj.1 h) htwo
  · rfl

/-- A bit that is on stays on, unless the deed clears it. -/
theorem Deed.eventBitAfter_of_kept {b : BitAddress} {d : Deed} (h : ¬ d.Clears b) :
    d.eventBitAfter b true = true := by
  cases d with
  | ran origin n =>
      unfold eventBitAfter
      dsimp only
      split
      · exact Bool.or_true _
      · next a hpayload =>
          unfold Action.eventBitAfter
          split
          · next hbit =>
              refine flagAfter_true ?_ ?_
              · exact fun hvalue => h ⟨a, hpayload, hbit.1, .inl hvalue, hbit.2⟩
              · exact fun hvalue => h ⟨a, hpayload, hbit.1, .inr hvalue, hbit.2⟩
          · rfl
      · rfl
  | eventBit address on =>
      show (if address = b then on else true) = true
      split
      · next haddress => exact eq_true_of_ne_false fun hon => h ⟨haddress, hon⟩
      · rfl
  | _ => rfl

/-- **A bit that is on stays on over deeds that do not clear it.** -/
theorem foldl_eventBit_of_kept {b : BitAddress} {deeds : List Deed} (h : ∀ d ∈ deeds, ¬ d.Clears b) :
    deeds.foldl (fun old d => d.eventBitAfter b old) true = true := by
  induction deeds with
  | nil => rfl
  | cons d deeds ih =>
      rw [List.foldl_cons, Deed.eventBitAfter_of_kept (h d (List.mem_cons_self ..))]
      exact ih fun d hd => h d (List.mem_cons_of_mem _ hd)

end TileEvents
