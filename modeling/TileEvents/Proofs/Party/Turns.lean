/-
  TileEvents.Proofs.Party.Turns
  ─────────────────────────────
  **WHAT BECOMES OF EACH MEMBER.**

  A node works on the party as a whole, but the party keeps its members and
  their order, and every member takes a turn of its own: nothing happens, slots
  change, an ailment is set, a purse changes together with the weight that goes
  with it, or an award or a trap reaches the living.  No node reaches anyone
  twice, since the positions an audience stands for are distinct.

    • `Audience.members_living`, `Audience.members_nodup`  — who is reached;
    • `Payload.Turns`      — what becomes of one member, by payload;
    • `Node.step_turns`    — a step turns every member as its payload says.
-/
import TileEvents.Proofs.Party.Handouts
import TileEvents.Proofs.Party.Positions
import TileEvents.Proofs.Walk.Effects

namespace TileEvents

/-! ## §1. The positions an audience stands for. -/

namespace Audience

/-- An audience stands for living members. -/
theorem members_living {a : Audience} {party : List Member} {active i : Nat}
    (h : i ∈ a.members party active) : ∃ m, party[i]? = some m ∧ m.isAlive = true :=
  (mem_members.1 h).1

/-- It names nobody twice. -/
theorem members_nodup (a : Audience) (party : List Member) (active : Nat) :
    (a.members party active).Nodup :=
  (a.members_ascending party active).imp Nat.ne_of_lt

end Audience

/-! ## §2. Items and purses. -/

/-- The member with other slots. -/
def Member.Packed (m m' : Member) : Prop :=
  ∃ inventory equipment, m' = { m with inventory := inventory, equipment := equipment }

namespace Pack

theorem takeCarried_packed (item : UInt16) (wanted : Nat) (party : List Member) :
    List.Forall₂ Member.Packed party (takeCarried item wanted party).1 := by
  induction party generalizing wanted with
  | nil => exact .nil
  | cons m rest ih => exact .cons ⟨_, _, rfl⟩ (ih _)

theorem takeWorn_packed (item : UInt16) (position wanted : Nat) (party : List Member) :
    List.Forall₂ Member.Packed party (takeWorn item position wanted party).1 := by
  induction party generalizing position wanted with
  | nil => exact .nil
  | cons m rest ih => exact .cons ⟨_, _, rfl⟩ (ih _ _)

/-- **A removal of items changes slots alone.** -/
theorem takeFromParty_packed (item : UInt16) (wanted : Nat) (party : List Member) :
    List.Forall₂ Member.Packed party (takeFromParty item wanted party).party := by
  have hcarried := takeCarried_packed item wanted party
  have hworn := takeWorn_packed item 0 (takeCarried item wanted party).2
    (takeCarried item wanted party).1
  refine List.forall₂_iff_get.2 ⟨hcarried.length_eq.trans hworn.length_eq, ?_⟩
  intro i hi hi'
  obtain ⟨inventory, equipment, hm⟩ := hcarried.get hi (hcarried.length_eq ▸ hi)
  obtain ⟨inventory', equipment', hm'⟩ := hworn.get (hcarried.length_eq ▸ hi) hi'
  rw [hm] at hm'
  exact ⟨inventory', equipment', hm'⟩

end Pack

/-- To settle a party's balances settles each member with one of them. -/
theorem Currency.settleAll_settled (c : Currency) (unit : UInt32) {party : List Member}
    {balances : List UInt32} (h : balances.length = party.length) :
    List.Forall₂ (fun m m' => ∃ new, m' = c.settle unit m new) party
      (c.settleAll unit party balances) := by
  induction party generalizing balances with
  | nil => exact .nil
  | cons m rest ih =>
      cases balances with
      | nil => cases h
      | cons b bs => exact .cons ⟨b, rfl⟩ (ih (Nat.succ.inj h))

/-! ## §3. What becomes of one member. -/

/-- **What becomes of a member** when a node with this payload runs. -/
inductive Payload.Turns (settings : Settings) (p : Payload) (m : Member) : Member → Prop where
  | same : Turns settings p m m
  | packed {a : Action} {m' : Member} (hp : p = .action a) (hkind : a.kind = .addItem)
      (h : m.Packed m') : Turns settings p m m'
  | ailing {a : Action} {ailment : Ailment} (hp : p = .action a) (hkind : a.kind = .addAilment)
      (hailment : Ailment.ofIndex? a.object = some ailment) :
      Turns settings p m (m.setAilment ailment (flagAfter a.value (m.hasAilment ailment)))
  | settled {a : Action} (c : Currency) (new : UInt32) (hp : p = .action a) (hkind : a.kind = c.kind) :
      Turns settings p m (c.settle (c.unitWeight settings) m new)
  | awarded {a : Award} (amount : UInt32) (hp : p = .award a) (halive : m.isAlive = true) :
      Turns settings p m (a.revise amount m)
  | trapped {t : Trap} (damage : UInt32) (hp : p = .trap t) (halive : m.isAlive = true) :
      Turns settings p m (t.revise damage m)

/-- Two parties of which every member of the first became that of the second. -/
def Payload.TurnsAll (settings : Settings) (p : Payload) : List Member → List Member → Prop :=
  List.Forall₂ (p.Turns settings)

namespace Payload.TurnsAll

variable {settings : Settings} {p : Payload} {party party' : List Member}

theorem same (h : party' = party) : p.TurnsAll settings party party' := by
  rw [h]
  exact List.forall₂_same.2 fun _ _ => .same

/-- At most one member takes a turn that is not idle. -/
theorem modify {f : Member → Member} {position : Nat}
    (h : ∀ m, party[position]? = some m → p.Turns settings m (f m)) :
    p.TurnsAll settings party (party.modify position f) := by
  refine List.forall₂_iff_get.2 ⟨(List.length_modify ..).symm, ?_⟩
  intro i hi hi'
  rw [List.get_eq_getElem, List.get_eq_getElem, List.getElem_modify]
  split
  · next heq => exact h _ (by rw [heq]; exact List.getElem?_eq_getElem hi)
  · exact .same

/-- Living members take the turns of an award or a trap. -/
theorem revised {F : (Member → Member) → Prop} {a : Audience} {active : Nat}
    (h : Revised F (a.members party active) party party')
    (hF : ∀ m f, m.isAlive = true → F f → p.Turns settings m (f m)) :
    p.TurnsAll settings party party' := by
  refine (h.forall₂ (a.members_nodup party active)).imp ?_
  rintro m m' (rfl | ⟨⟨i, hi, hm⟩, f, hf, rfl⟩)
  · exact .same
  · obtain ⟨m'', hm'', halive⟩ := a.members_living hi
    rw [hm] at hm''
    injection hm'' with hm''
    exact hF m f (hm'' ▸ halive) hf

end Payload.TurnsAll

/-! ## §4. Actions. -/

namespace Action

/-- A removal leaves the party without the copies and tells of the members reported. -/
theorem takeItems_party (id : NodeId) (item count : UInt16) (s : Scene) :
    (takeItems id item count s).save.party
        = (Pack.takeFromParty item count.toNat s.save.party).party
      ∧ (takeItems id item count s).calls = s.calls
          ++ ((Pack.takeFromParty item count.toNat s.save.party).uncursed.map
            (HostCall.itemUncursed · item)).toArray := by
  have htold (told : List Nat) (s : Scene) :
      (told.foldl (fun s m => s.call (.itemUncursed m item)) s).save = s.save
        ∧ (told.foldl (fun s m => s.call (.itemUncursed m item)) s).calls
            = s.calls ++ (told.map (HostCall.itemUncursed · item)).toArray := by
    induction told generalizing s with
    | nil => exact ⟨rfl, Array.append_empty.symm⟩
    | cons m told ih =>
        obtain ⟨hsave, hcalls⟩ := ih (s.call (.itemUncursed m item))
        refine ⟨hsave, hcalls.trans ?_⟩
        show s.calls.push _ ++ _ = _
        simp
  obtain ⟨hsave, hcalls⟩ := htold (Pack.takeFromParty item count.toNat s.save.party).uncursed
    (s.setSave (s.save.setParty (Pack.takeFromParty item count.toNat s.save.party).party))
  exact ⟨congrArg Savegame.party hsave, hcalls⟩

variable (a : Action) (id : NodeId) (settings : Settings) (s : Scene)

/-- An action on items changes slots: those of the acting member, or anybody's. -/
theorem applyItem_turns (hkind : a.kind = .addItem) :
    (Payload.action a).TurnsAll settings s.save.party (a.applyItem id s).save.party := by
  unfold applyItem
  dsimp only
  split
  · unfold giveItems
    dsimp only
    split
    · exact .same rfl
    · exact .modify fun m _ => .packed rfl hkind ⟨_, _, rfl⟩
  · rw [(takeItems_party id a.object _ s).1]
    exact (Pack.takeFromParty_packed a.object _ s.save.party).imp fun _ _ h => .packed rfl hkind h
  · exact .same rfl

/-- An action on gold or food settles every balance. -/
theorem applyCurrency_turns {c : Currency} (hkind : a.kind = c.kind) :
    (Payload.action a).TurnsAll settings s.save.party
      (a.applyCurrency settings id c s).save.party := by
  have settled {balances : List UInt32}
      (h : balances.length = (s.save.party.map c.balance).length) :
      (Payload.action a).TurnsAll settings s.save.party
        (c.settleAll (c.unitWeight settings) s.save.party balances) := by
    refine (c.settleAll_settled _ (h.trans (List.length_map ..))).imp ?_
    rintro m m' ⟨new, rfl⟩
    exact .settled c new rfl hkind
  unfold applyCurrency
  dsimp only
  split
  · exact settled (Purse.length_payIn _ _)
  · exact settled (Purse.length_takeOut _ _)
  · exact .same rfl

/-- An action on an ailment sets it for the acting member. -/
theorem applyAilment_turns {ailment : Ailment} (hkind : a.kind = .addAilment)
    (hailment : Ailment.ofIndex? a.object = some ailment) :
    (Payload.action a).TurnsAll settings s.save.party (a.applyAilment id ailment s).save.party := by
  unfold applyAilment
  split
  · exact .same rfl
  · next actor hactor =>
      refine .modify fun m hm => ?_
      rw [show s.save.party[s.save.activeMember.toNat]? = some actor from hactor] at hm
      injection hm with hm
      subst hm
      exact .ailing rfl hkind hailment

variable {a id settings}

/-- An action turns the members as its kind says. -/
theorem effect_turns {f : Scene → Scene} (h : a.effect settings id = .ok f) :
    (Payload.action a).TurnsAll settings s.save.party (f s).save.party := by
  cases effect_amounts h with
  | elsewhere change text hparty htiles => exact .same (hparty s.save)
  | items hkind => exact a.applyItem_turns id settings s hkind
  | currency c hkind => exact a.applyCurrency_turns id settings s hkind
  | ailment ailment hkind hailment => exact a.applyAilment_turns id settings s hkind hailment

end Action

/-! ## §5. Nodes. -/

/-- A tile replacement leaves the party alone. -/
theorem Scene.replaceTile_party (s : Scene) (id : NodeId) (origin : Origin) (r : TileReplacement) :
    (s.replaceTile id origin r).save.party = s.save.party := by
  have hsettle : (s.settle id origin r.target).2.save.party = s.save.party := by
    unfold settle
    split <;> rfl
  unfold replaceTile
  cases origin.event with
  | none => exact hsettle
  | some event => exact hsettle

/-- **Every effect of a node turns the members as its payload says.** -/
theorem Node.Affects.turnsAll {settings : Settings} {origin : Origin} {n : Node} {s s' : Scene}
    (h : n.Affects settings origin s s') :
    n.payload.TurnsAll settings s.save.party s'.save.party := by
  cases h with
  | asks calls hsave => exact .same (congrArg Savegame.party hsave)
  | turns facing hn hsave =>
      refine .same ?_
      rw [hsave]
  | @endsBuffs _ buff hn hsave =>
      refine .same ?_
      rw [hsave]
      cases buff <;> rfl
  | acts hn hf =>
      rw [hn]
      exact Action.effect_turns s hf
  | @awards a hn =>
      rw [hn]
      unfold Award.apply
      split
      · exact .same rfl
      · split
        · exact .same rfl
        · next positions hpositions =>
            refine .revised (a.foldl_reach_revised n.id _ s) ?_
            rintro m f halive ⟨amount, rfl⟩
            exact .awarded amount rfl halive
  | @springs t hn =>
      rw [hn]
      refine .revised (t.reach_revised n.id _ s) ?_
      rintro m f halive ⟨damage, rfl⟩
      exact .trapped damage rfl halive
  | replaces hn => exact .same (s.replaceTile_party n.id origin _)

/-- **A step turns the members as its payload says.** -/
theorem Node.step_turns {ctx : Context} {m : GameMap} {origin : Origin} {n : Node} {c : Cursor}
    {s s' : Scene} {r : Directive × Cursor} (h : n.step ctx m origin c s = (.ok r, s')) :
    n.payload.TurnsAll ctx.settings s.save.party s'.save.party := by
  obtain ⟨t, t', ht, ht', haffects⟩ := step_affects h
  have hturns := haffects.turnsAll
  rw [(Scene.eq_but_log ht).1, (Scene.eq_but_log ht').1] at hturns
  exact hturns

end TileEvents
