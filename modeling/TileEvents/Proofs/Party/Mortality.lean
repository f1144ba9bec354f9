/-
  TileEvents.Proofs.Party.Mortality
  ─────────────────────────────────
  **WHO HAS NO HIT POINTS LEFT IS DEAD.**

  Hit points are lost to traps and to awards.  A trap and an award that takes
  an amount deal damage, and damage kills whom it leaves without hit points.
  An award that takes a percentage revises hit points like any other stat: it
  can take the last of them and leaves the member alive.  This is the only way
  in which a member can be left alive without hit points.

    • `Member.hasAilment_add`     — an added ailment takes no other away;
    • `Payload.Turns.mortal_iff`  — what one turn makes of a mortal member;
    • `mortal_playAll_iff`        — a run leaves all mortal iff no award drains;
    • `drained_member_lives`      — and some award does drain.
-/
import TileEvents.Proofs.Session.Visits

namespace TileEvents

/-! ## §1. Death. -/

namespace Member

/-- The member is dead if no hit points are left. -/
def Mortal (m : Member) : Prop := m.hitPoints.current = 0 → m.hasAilment .dead = true

instance (m : Member) : Decidable m.Mortal := inferInstanceAs (Decidable (_ → _))

/-- An added ailment takes no other away. -/
theorem hasAilment_add (m : Member) (a b : Ailment) :
    (m.setAilment a true).hasAilment b = (m.hasAilment b || decide (a = b)) := by
  have hmask : (m.ailments ||| a.bit) &&& b.bit = (m.ailments &&& b.bit) ||| (a.bit &&& b.bit) := by
    refine UInt16.toBitVec_inj.1 (BitVec.eq_of_getLsbD_eq fun i _ => ?_)
    simp only [UInt16.toBitVec_and, UInt16.toBitVec_or, BitVec.getLsbD_and, BitVec.getLsbD_or,
      Bool.and_or_distrib_right]
  unfold hasAilment setAilment
  simp only [if_true, hmask]
  rw [Bool.eq_iff_iff, Bool.or_eq_true, decide_eq_true_eq, ← Ailment.bit_and_bit_ne_zero_iff]
  simp only [bne_iff_ne, ne_eq, UInt16.or_eq_zero_iff, Decidable.not_and_iff_not_or_not]

/-- **Damage kills whom it leaves without hit points.** -/
theorem takeDamage_mortal (m : Member) (damage : UInt32) : (m.takeDamage damage).Mortal := by
  unfold takeDamage
  dsimp only
  split
  · intro _
    rw [hasAilment_add, decide_eq_true rfl, Bool.or_true]
  · next hleft =>
      intro hspent
      exact absurd (beq_iff_eq.2 hspent) hleft

/-- A mortal member with one ailment more is mortal. -/
theorem Mortal.add {m : Member} (h : m.Mortal) (a : Ailment) : (m.setAilment a true).Mortal := by
  intro hspent
  rw [hasAilment_add, h hspent, Bool.true_or]

/-- Only hit points and ailments matter. -/
theorem Mortal.congr {m m' : Member} (h : m.Mortal) (hhits : m'.hitPoints = m.hitPoints)
    (hailments : m'.ailments = m.ailments) : m'.Mortal := by
  unfold Mortal hasAilment
  rw [hhits, hailments]
  exact h

/-- Damage leaves the largest number of hit points. -/
theorem takeDamage_max (m : Member) (damage : UInt32) :
    (m.takeDamage damage).hitPoints.max = m.hitPoints.max := by
  unfold takeDamage
  dsimp only
  split <;> rfl

end Member

/-! ## §2. One turn. -/

/-- Actions and awards on ailments, which alone can take one away. -/
def Payload.treatsAilments : Payload → Bool
  | .action a => decide (a.kind = .addAilment)
  | .award a =>
    match a.kind with
    | .ailmentAt _ => true
    | _ => false
  | _ => false

/-- Awards that take a percentage of the hit points. -/
def Payload.drains : Payload → Bool
  | .award a => decide (a.kind = .hitPoints ∧ a.operation = .decreasePercentage)
  | _ => false

/-- No award changes the largest number of hit points. -/
theorem Award.revise_max (a : Award) (amount : UInt32) (m : Member) :
    (a.revise amount m).hitPoints.max = m.hitPoints.max := by
  unfold revise
  cases a.kind with
  | hitPoints =>
      dsimp only
      split
      · exact m.takeDamage_max amount
      · rfl
  | ailmentAt bit =>
      show (reviseAilment a.operation bit m).hitPoints.max = _
      unfold reviseAilment
      split <;> rfl
  | _ => rfl

/-- **A turn changes the largest number of hit points for nobody.** -/
theorem Payload.Turns.max_eq {settings : Settings} {p : Payload} {m m' : Member}
    (h : p.Turns settings m m') : m'.hitPoints.max = m.hitPoints.max := by
  cases h with
  | same => rfl
  | packed hp hkind hm =>
      obtain ⟨inventory, equipment, rfl⟩ := hm
      rfl
  | ailing => rfl
  | settled c new hp hkind => cases c <;> rfl
  | @awarded a amount hp halive => exact a.revise_max amount m
  | @trapped t damage hp halive =>
      unfold Trap.revise
      split <;> exact m.takeDamage_max damage

/-- A stat that can be above zero and is not taken from is zero only if it was. -/
theorem Award.reviseStat_eq_zero {operation : AwardOperation} {amount : UInt32} {s : Stat}
    (hmax : 0 < s.max) (hdecrease : operation ≠ .decrease) (hpercent : operation ≠ .decreasePercentage)
    (h : (reviseStat operation amount s).current = 0) : s.current = 0 := by
  -- the largest value is not zero, so the stat was not cut down to it
  have hwanted {wanted : UInt32} (h : (if wanted ≤ s.max then wanted else s.max) = 0) :
      wanted = 0 := by
    split at h
    · exact h
    · exact absurd (h ▸ hmax) (UInt32.lt_irrefl 0)
  have hsum {amount : UInt32} (h : Word.add32 s.current amount = 0) : s.current = 0 := by
    have hzero := congrArg UInt32.toNat h
    rw [Word.toNat_add32, UInt32.toNat_zero] at hzero
    exact UInt32.toNat_inj.1 (by rw [UInt32.toNat_zero]; omega)
  cases operation with
  | increase | increasePercentage => exact hsum (hwanted h)
  | fill => exact absurd (hwanted h) (fun hfull => UInt32.lt_irrefl 0 (hfull ▸ hmax))
  | remove | add => exact hwanted h
  | decrease => exact absurd rfl hdecrease
  | decreasePercentage => exact absurd rfl hpercent

/-- **An award that does not drain leaves a mortal member mortal**, unless it wakes the dead. -/
theorem Award.revise_mortal {a : Award} {amount : UInt32} {m : Member} (hm : m.Mortal)
    (hmax : 0 < m.hitPoints.max) (hdrain : (Payload.award a).drains = false)
    (htreats : (Payload.award a).treatsAilments = true →
      m.hasAilment .dead = true → (a.revise amount m).hasAilment .dead = true) :
    (a.revise amount m).Mortal := by
  cases hkind : a.kind with
  | hitPoints =>
      unfold revise
      simp only [hkind]
      split
      case isTrue => exact m.takeDamage_mortal amount
      case isFalse hdecrease =>
        intro hspent
        exact hm (reviseStat_eq_zero hmax hdecrease
          (fun h => of_decide_eq_false hdrain ⟨hkind, h⟩) hspent)
  | ailmentAt bit =>
      have hhits : (a.revise amount m).hitPoints = m.hitPoints := by
        unfold revise
        simp only [hkind]
        unfold reviseAilment
        split <;> rfl
      intro hspent
      rw [hhits] at hspent
      exact htreats (by simp [Payload.treatsAilments, hkind]) (hm hspent)
  | _ =>
      unfold revise
      simp only [hkind]
      exact hm.congr rfl rfl

/-- An award that drains does not kill. -/
theorem Award.revise_ailments {a : Award} {amount : UInt32} {m : Member}
    (h : (Payload.award a).drains = true) : (a.revise amount m).ailments = m.ailments := by
  obtain ⟨hkind, hoperation⟩ := of_decide_eq_true h
  unfold revise
  simp only [hkind, hoperation]
  rfl

/-- A turn that does not drain leaves a mortal member mortal, unless it wakes the dead. -/
theorem Payload.Turns.mortal {settings : Settings} {p : Payload} {m m' : Member}
    (h : p.Turns settings m m') (hm : m.Mortal) (hmax : 0 < m.hitPoints.max) (hdrain : p.drains = false)
    (htreats : p.treatsAilments = true → m.hasAilment .dead = true → m'.hasAilment .dead = true) :
    m'.Mortal := by
  cases h with
  | same => exact hm
  | packed hp hkind hm' =>
      obtain ⟨inventory, equipment, rfl⟩ := hm'
      exact hm.congr rfl rfl
  | @ailing a ailment hp hkind =>
      intro hspent
      subst hp
      exact htreats (decide_eq_true hkind) (hm hspent)
  | settled c new hp hkind => cases c <;> exact hm.congr rfl rfl
  | @awarded a amount hp halive =>
      subst hp
      exact Award.revise_mortal hm hmax hdrain htreats
  | @trapped t damage hp halive =>
      unfold Trap.revise
      split
      · exact m.takeDamage_mortal damage
      · exact (m.takeDamage_mortal damage).add _

/-- **What a turn makes of a mortal member**: a mortal one, unless it drains the last hit points. -/
theorem Payload.Turns.mortal_iff {settings : Settings} {p : Payload} {m m' : Member}
    (h : p.Turns settings m m') (hm : m.Mortal) (hmax : 0 < m.hitPoints.max)
    (htreats : p.treatsAilments = true → m.hasAilment .dead = true → m'.hasAilment .dead = true) :
    m'.Mortal ↔ ¬ (p.drains = true ∧ m.hitPoints.current ≠ 0 ∧ m'.hitPoints.current = 0) := by
  cases hdrain : p.drains with
  | false => exact iff_of_true (h.mortal hm hmax hdrain htreats) fun h => Bool.false_ne_true h.1
  | true =>
    -- a drain reaches the living and leaves them alive
    cases h with
    | same => exact iff_of_true hm fun h => h.2.1 h.2.2
    | packed hp | ailing hp | settled _ _ hp | trapped _ hp =>
        subst hp
        cases hdrain
    | @awarded a amount hp halive =>
        subst hp
        have hlives : m.hasAilment .dead = false := by
          rw [Member.isAlive, Bool.not_eq_true'] at halive
          exact halive
        have hlives' : (a.revise amount m).hasAilment .dead = false := by
          rw [← hlives]
          unfold Member.hasAilment
          rw [Award.revise_ailments hdrain]
        have hleft : m.hitPoints.current ≠ 0 := fun hspent => by simp [hm hspent] at hlives
        unfold Member.Mortal
        simp [hleft, hlives']

/-! ## §3. The party. -/

/-- The node takes the last hit points of somebody as a percentage. -/
def Visit.Drains (v : Visit) : Prop :=
  v.node.payload.drains = true ∧ ∃ turn ∈ v.before.save.party.zip v.after.save.party,
    turn.1.hitPoints.current ≠ 0 ∧ turn.2.hitPoints.current = 0

/-- The node wakes somebody from the dead. -/
def Visit.Wakes (v : Visit) : Prop :=
  v.node.payload.treatsAilments = true ∧ ∃ turn ∈ v.before.save.party.zip v.after.save.party,
    turn.1.hasAilment .dead = true ∧ turn.2.hasAilment .dead = false

instance (v : Visit) : Decidable v.Drains := inferInstanceAs (Decidable (_ ∧ ∃ turn ∈ _, _))

instance (v : Visit) : Decidable v.Wakes := inferInstanceAs (Decidable (_ ∧ ∃ turn ∈ _, _))

/-- Everybody is mortal and was not born without hit points. -/
def Hale (party : List Member) : Prop := ∀ m ∈ party, 0 < m.hitPoints.max ∧ m.Mortal

instance (party : List Member) : Decidable (Hale party) := inferInstanceAs (Decidable (∀ m ∈ _, _))

/-- **What the turns of a party make of it.** -/
theorem Payload.TurnsAll.mortal_iff {settings : Settings} {p : Payload} {party party' : List Member}
    (h : p.TurnsAll settings party party') (hparty : Hale party)
    (htreats : ∀ turn ∈ party.zip party', p.treatsAilments = true →
      turn.1.hasAilment .dead = true → turn.2.hasAilment .dead = true) :
    Hale party' ↔ ∀ turn ∈ party.zip party', ¬ (p.drains = true ∧
      turn.1.hitPoints.current ≠ 0 ∧ turn.2.hitPoints.current = 0) := by
  unfold Hale at hparty ⊢
  induction h with
  | nil => simp
  | @cons m m' party party' hturn _ ih =>
      rw [List.forall_mem_cons] at hparty
      rw [List.zip_cons_cons, List.forall_mem_cons] at htreats
      obtain ⟨hmax, hm⟩ := hparty.1
      rw [List.zip_cons_cons, List.forall_mem_cons, List.forall_mem_cons,
        ih hparty.2 htreats.2, hturn.max_eq, hturn.mortal_iff hm hmax htreats.1]
      exact and_congr_left' (and_iff_right hmax)

/-- The largest number of hit points stays above zero for everybody. -/
theorem Payload.TurnsAll.max_pos {settings : Settings} {p : Payload} {party party' : List Member}
    (h : p.TurnsAll settings party party') (hparty : ∀ m ∈ party, 0 < m.hitPoints.max) :
    ∀ m ∈ party', 0 < m.hitPoints.max := by
  induction h with
  | nil => exact hparty
  | cons hturn _ ih =>
      rw [List.forall_mem_cons] at hparty ⊢
      exact ⟨hturn.max_eq ▸ hparty.1, ih hparty.2⟩

/-- A visit that wakes nobody leaves a hale party hale unless it drains. -/
theorem Visit.hale_iff {settings : Settings} {v : Visit}
    (hturns : v.node.payload.TurnsAll settings v.before.save.party v.after.save.party)
    (hbefore : Hale v.before.save.party) (hwakes : ¬ v.Wakes) :
    Hale v.after.save.party ↔ ¬ v.Drains := by
  rw [hturns.mortal_iff hbefore]
  · unfold Drains
    constructor
    · rintro hturns ⟨hdrains, turn, hmem, hturn⟩
      exact hturns turn hmem ⟨hdrains, hturn⟩
    · rintro hdrains turn hmem ⟨hpayload, hturn⟩
      exact hdrains ⟨hpayload, turn, hmem, hturn⟩
  · intro turn hmem htreats hdead
    by_contra hlives
    exact hwakes ⟨htreats, turn, hmem, hdead, Bool.eq_false_iff.2 hlives⟩

/-! ## §4. A run. -/

/-- **Who has no hit points left is dead, unless an award drained the last of them.**  Suppose that
at the start everybody can have hit points and whoever has none is dead, and that no visit of a run
wakes anybody from the dead.  Then it is the same that after every visit whoever has no hit points is
dead, and that no award of the run took somebody's last hit points as a percentage; and in that case
it is so at the end as well. -/
theorem mortal_playAll_iff (p : Playthrough) (moves : List Move)
    (hstart : ∀ m ∈ p.save.party, 0 < m.hitPoints.max ∧ m.Mortal)
    (hwakes : ∀ v ∈ p.allVisits moves, ¬ v.Wakes) :
    ((∀ v ∈ p.allVisits moves, ∀ m ∈ v.after.save.party, m.Mortal)
        ↔ ∀ v ∈ p.allVisits moves, ¬ v.Drains)
      ∧ ((∀ v ∈ p.allVisits moves, ¬ v.Drains) →
          ∀ m ∈ (p.playAll moves).2.save.party, m.Mortal) := by
  have step {v : Visit} (hv : v ∈ p.allVisits moves) (hbefore : Hale v.before.save.party) :
      Hale v.after.save.party ↔ ¬ v.Drains :=
    v.hale_iff (p.allVisits_turn moves v hv) hbefore (hwakes v hv)
  have run (hdrains : ∀ v ∈ p.allVisits moves, ¬ v.Drains) :=
    p.playAll_party moves (fun v hv hbefore => (step hv hbefore).2 (hdrains v hv)) hstart
  refine ⟨⟨?_, ?_⟩, ?_⟩
  · intro hmortal v hv
    -- the party is hale all the way, so that no visit can have drained
    have hhale (v : Visit) (hv : v ∈ p.allVisits moves) (hbefore : Hale v.before.save.party) :
        Hale v.after.save.party := fun m hm =>
      ⟨(p.allVisits_turn moves v hv).max_pos (fun m hm => (hbefore m hm).1) m hm, hmortal v hv m hm⟩
    obtain ⟨hbefore, hafter⟩ := (p.playAll_party moves hhale hstart).1 v hv
    exact (step hv hbefore).1 hafter
  · exact fun hdrains v hv m hm => (((run hdrains).1 v hv).2 m hm).2
  · exact fun hdrains m hm => ((run hdrains).2 m hm).2

/-- A game on a map with this one chain, with members who have the given hit points, current and
largest. -/
def Playthrough.ordeal (nodes : List Node) (hits : List Stat) : Playthrough :=
  .start [.ofNodes nodes [⟨0⟩]]
    { Savegame.blank with party := hits.map fun s => { Member.blank with hitPoints := s } }
    (.ofScript []) (.plain [])

/-- Two members lose half of their hit points, meet a trap and lose three more; one of them dies. -/
theorem mortal_playAll_iff_trap :
    let p := Playthrough.ordeal
      [⟨⟨0⟩, .award, some ⟨1⟩, .award ⟨.everyone, .hitPoints, .decreasePercentage, false, 50⟩⟩,
        ⟨⟨1⟩, .trap, some ⟨2⟩, .trap ⟨.everyone, 9, none⟩⟩,
        ⟨⟨2⟩, .award, none, .award ⟨.everyone, .hitPoints, .decrease, false, 3⟩⟩] [⟨10, 10⟩, ⟨5, 5⟩]
    let moves : List Move := [.character 0 1 0 0 .step, .resume 0 none .closed]
    let party := (p.playAll moves).2.save.party
    party.map (fun m => (m.hitPoints.current, m.isAlive)) = [(1, true), (0, false)]
      ∧ ∀ m ∈ party, m.Mortal := by
  intro p moves party
  have hstart : ∀ m ∈ p.save.party, 0 < m.hitPoints.max ∧ m.Mortal := by decide +kernel
  have hwakes : ∀ v ∈ p.allVisits moves, ¬ v.Wakes := by decide +kernel
  have hdrains : ∀ v ∈ p.allVisits moves, ¬ v.Drains := by decide +kernel
  exact ⟨by decide +kernel, (mortal_playAll_iff p moves hstart hwakes).2 hdrains⟩

/-- An award that takes all hit points as a percentage leaves the member alive. -/
theorem drained_member_lives :
    let p := Playthrough.ordeal
      [⟨⟨0⟩, .award, none, .award ⟨.everyone, .hitPoints, .decreasePercentage, false, 100⟩⟩]
      [⟨10, 10⟩]
    let moves : List Move := [.character 0 1 0 0 .talk]
    (∀ m ∈ p.save.party, 0 < m.hitPoints.max ∧ m.Mortal)
      ∧ (∀ v ∈ p.allVisits moves, ¬ v.Wakes)
      ∧ ¬ ∀ v ∈ p.allVisits moves, ∀ m ∈ v.after.save.party, m.Mortal := by
  decide +kernel

end TileEvents
