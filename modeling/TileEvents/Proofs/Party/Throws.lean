/-
  TileEvents.Proofs.Party.Throws
  ──────────────────────────────
  **A THROW FOR EVERY LIVING TARGET.**

  Whom an award or a trap reaches is settled before anybody gets anything, and
  what becomes of a member has no say in what the next one gets.  So the dice
  are thrown once for each target, in party order, also where the amount is
  wasted on one of them, and they are thrown for nobody else.

    • `Handout.Deals`  — the targets have their amounts, and nobody else any;
    • `Handout.deals`  — to go over an audience deals to the living;
    • `awards_and_traps_throw_for_the_living` — so do the nodes.
-/
import TileEvents.Proofs.Party.Handouts
import TileEvents.Proofs.Party.Positions
import TileEvents.Proofs.Sample

namespace TileEvents

/-! ## §1. What was handed out. -/

namespace Handout

variable (h : Handout)

/-- **The targets got their amounts**, the first target the first amount, and so on in party order.
They are the living members of the audience; the dead are left alone, and so are the others if the
audience is the active member.  The dice were thrown for the amounts, and the rest of the scene is as
it was but for the log. -/
structure Deals (targets : List Nat) (s s' : Scene) : Prop where
  inOrder : targets.Pairwise (· < ·)
  living : ∀ i : Nat, i ∈ targets
    ↔ (∃ m, s.save.party[i]? = some m ∧ m.isAlive = true)
      ∧ (h.target = .activePlayer → i = s.save.activeMember.toNat)
  dice : s'.dice = (h.amounts targets.length s.dice).2
  dealt : ∀ k i : Nat, targets[k]? = some i → ∃ amount,
    (h.amounts targets.length s.dice).1[k]? = some amount
      ∧ s'.save.party[i]? = (s.save.party[i]?).map (h.revise amount)
  dead : ∀ (i : Nat) (m : Member), s.save.party[i]? = some m → m.isAlive = false →
    s'.save.party[i]? = some m
  inactive : h.target = .activePlayer → ∀ i : Nat, i ≠ s.save.activeMember.toNat →
    s'.save.party[i]? = s.save.party[i]?
  elsewhere : s'.unlogged = ((s.setDice s'.dice).setSave (s.save.setParty s'.save.party)).unlogged

/-- **To go over an audience deals to its living members.** -/
theorem deals {targets : List Nat} {s s' : Scene}
    (htargets : targets = h.target.members s.save.party s.save.activeMember.toNat)
    (h' : s'.unlogged = (targets.foldl h.reach s).unlogged) : h.Deals targets s s' := by
  have hmem (i : Nat) : i ∈ targets
      ↔ (∃ m, s.save.party[i]? = some m ∧ m.isAlive = true)
        ∧ (h.target = .activePlayer → i = s.save.activeMember.toNat) := by
    rw [htargets]
    exact Audience.mem_members
  have hascending : targets.Pairwise (· < ·) := by
    rw [htargets]
    exact h.target.members_ascending _ _
  -- no target is named twice
  have hfirst := h.map_fst_shares targets s.dice
  have hnodup : ((targets.zip (h.amounts targets.length s.dice).1).map Prod.fst).Nodup := by
    rw [hfirst]
    exact hascending.imp Nat.ne_of_lt
  rw [h.foldl_reach] at h'
  have hparty : s'.save.party = h.given s.save.party
      (targets.zip (h.amounts targets.length s.dice).1) := congrArg (·.save.party) h'
  have hdice : s'.dice = (h.amounts targets.length s.dice).2 := congrArg (·.dice) h'
  have hspared {i : Nat} (hi : i ∉ targets) : s'.save.party[i]? = s.save.party[i]? := by
    rw [hparty]
    exact (h.given_revised _ s.save.party).getElem?_of_not_mem (hfirst.symm ▸ hi)
  refine ⟨hascending, hmem, hdice, ?dealt, ?dead, ?inactive, ?elsewhere⟩
  case dealt =>
    intro k i hk
    have hlt : k < (h.amounts targets.length s.dice).1.length := by
      rw [h.length_amounts]
      exact (List.getElem?_eq_some_iff.1 hk).1
    refine ⟨_, List.getElem?_eq_getElem hlt, ?_⟩
    rw [hparty]
    refine h.given_of_mem hnodup (List.mem_of_getElem? (i := k) ?_) _
    exact List.getElem?_zip_eq_some.2 ⟨hk, List.getElem?_eq_getElem hlt⟩
  case dead =>
    intro i m hm hdead
    rw [hspared fun hi => ?_, hm]
    obtain ⟨⟨m', hm', halive⟩, -⟩ := (hmem i).1 hi
    obtain rfl := Option.some.inj (hm.symm.trans hm')
    exact Bool.false_ne_true (hdead.symm.trans halive)
  case inactive => exact fun hactive i hi => hspared fun hmem' => hi (((hmem i).1 hmem').2 hactive)
  case elsewhere =>
    rw [h', hparty, hdice]

end Handout

/-- **An award deals to its living targets**, unless it would throw from one to zero. -/
theorem Award.apply_deals (a : Award) (id : NodeId) (s : Scene)
    (hvalue : ¬ (a.random = true ∧ a.value = 0)) :
    ∃ targets, a.handout.Deals targets s (a.apply id s) := by
  refine ⟨_, a.handout.deals rfl ?_⟩
  unfold apply
  rw [if_neg (by simpa using hvalue), ← a.foldl_reach_eq id]
  show _ = (List.foldl (a.reach id) s (a.target.members _ _)).unlogged
  split
  case h_1 hnobody => rw [hnobody]; rfl
  case h_2 => rfl

/-- **A trap deals to its living targets.** -/
theorem Trap.spring_deals (t : Trap) (id : NodeId) (s : Scene) :
    ∃ targets, t.handout.Deals targets s (t.spring id s).2 :=
  ⟨_, t.handout.deals rfl (t.reach_eq id _ s)⟩

/-! ## §2. Nodes. -/

/-- The remark that a step begins with deals nothing. -/
theorem Handout.Deals.of_remark {h : Handout} {targets : List Nat} {s s' : Scene} {id : NodeId}
    {text : String} (d : h.Deals targets (s.remark id text) s') : h.Deals targets s s' :=
  ⟨d.inOrder, d.living, d.dice, d.dealt, d.dead, d.inactive, d.elsewhere⟩

section Nodes

variable {n : Node} (ctx : Context) (m : GameMap) (origin : Origin) (c : Cursor) (s : Scene)

/-- An award node goes on after its award. -/
theorem Node.step_award {a : Award} (hc : n.isConsistent = true) (hp : n.payload = .award a) :
    n.step ctx m origin c s = (.ok (.goto n.next, c),
      a.apply n.id (s.remark n.id s!"{n.declared.inspect} ({c.trigger.name})")) := by
  unfold step check perform
  simp only [hc, if_true, hp]
  rfl

/-- A trap that is stepped on springs, and the player is to look at the hits. -/
theorem Node.step_trap {t : Trap} (hc : n.isConsistent = true) (hp : n.payload = .trap t)
    (hstepped : c.trigger = .move ∨ c.trigger = .always) :
    n.step ctx m origin c s =
      let sprung := t.spring n.id (s.remark n.id s!"{n.declared.inspect} ({c.trigger.name})")
      (.ok (.await (.trap sprung.1), c), sprung.2) := by
  unfold step check perform
  simp only [hc, if_true, hp]
  rcases hstepped with htrigger | htrigger <;> simp only [htrigger] <;> rfl

/-- A trap that is not stepped on does nothing but that the player may be told of it. -/
theorem Node.step_trap_rejects {t : Trap} (hc : n.isConsistent = true) (hp : n.payload = .trap t)
    (hstepped : ¬ (c.trigger = .move ∨ c.trigger = .always)) :
    ∃ s', n.step ctx m origin c s = (.ok (.reject, c), s') ∧ s'.save = s.save
      ∧ s'.dice = s.dice := by
  unfold step check perform
  simp only [hc, if_true, hp]
  cases htrigger : c.trigger with
  | move => exact absurd (.inl htrigger) hstepped
  | always => exact absurd (.inr htrigger) hstepped
  | _ => exact ⟨_, rfl, rfl, rfl⟩

end Nodes

/-- **Awards and traps throw once for each of the living they are aimed at.**  An award deals to its
targets, each a throw from one to its value if amounts are thrown, and the value itself if not; with
nothing to throw it changes nothing.  A trap that is stepped on deals to its targets, each a throw
from one to its base damage if there is one; otherwise it leaves the savegame and the dice alone.
A node with another type than that of its payload changes nothing. -/
theorem awards_and_traps_throw_for_the_living (ctx : Context) (m : GameMap) (origin : Origin)
    (n : Node) (c : Cursor) (s : Scene) :
    (∀ a, n.payload = .award a → n.isConsistent = true →
        ∃ s', n.step ctx m origin c s = (.ok (.goto n.next, c), s')
          ∧ if a.random = true ∧ a.value = 0 then s'.unlogged = s.unlogged
            else ∃ targets, a.handout.Deals targets s s')
      ∧ (∀ t, n.payload = .trap t → n.isConsistent = true →
        ∃ r s', n.step ctx m origin c s = (.ok r, s')
          ∧ if c.trigger = .move ∨ c.trigger = .always then ∃ targets, t.handout.Deals targets s s'
            else s'.save = s.save ∧ s'.dice = s.dice)
      ∧ (n.isConsistent = false → (n.step ctx m origin c s).2 = s) := by
  refine ⟨?award, ?trap, ?inconsistent⟩
  case award =>
    intro a hp hc
    refine ⟨_, Node.step_award ctx m origin c s hc hp, ?_⟩
    split
    case isTrue hnothing =>
      unfold Award.apply
      rw [if_pos (by simpa using hnothing)]
      rfl
    case isFalse hthrows =>
      obtain ⟨targets, hdeals⟩ := a.apply_deals n.id _ hthrows
      exact ⟨targets, hdeals.of_remark⟩
  case trap =>
    intro t hp hc
    by_cases hstepped : c.trigger = .move ∨ c.trigger = .always
    · refine ⟨_, _, Node.step_trap ctx m origin c s hc hp hstepped, ?_⟩
      rw [if_pos hstepped]
      obtain ⟨targets, hdeals⟩ := t.spring_deals n.id
        (s.remark n.id s!"{n.declared.inspect} ({c.trigger.name})")
      exact ⟨targets, hdeals.of_remark⟩
    · obtain ⟨s', hstep, hunchanged⟩ := Node.step_trap_rejects ctx m origin c s hc hp hstepped
      refine ⟨_, s', hstep, ?_⟩
      rw [if_neg hstepped]
      exact hunchanged
  case inconsistent =>
    intro hc
    unfold Node.step Node.check
    rw [if_neg (Bool.eq_false_iff.1 hc)]

/-- Three members, the second of them dead, learn from one to five times, and then meet a trap in
which the third dies: two throws for each. -/
theorem awards_and_traps_throw_for_the_living_of_three :
    let member (hitPoints : UInt32) : Member := { Member.blank with hitPoints := ⟨hitPoints, 9⟩ }
    let party := [member 9, (member 0).setAilment .dead true, member 2]
    let s : Scene :=
      { Scene.blank with save := { Savegame.blank with party }, dice := .ofScript [4, 7] }
    let a : Award := ⟨.everyone, .experience, .increase, true, 5⟩
    let t : Trap := ⟨.everyone, 3, none⟩
    let run (declared : EventType) (payload : Payload) :=
      Node.step (.plain []) (.ofNodes [] []) ⟨1, 0, 0, none⟩ ⟨⟨0⟩, declared, none, payload⟩
        ⟨.move, false⟩
    let learned := (run .award (.award a) s).2
    let trapped := (run .trap (.trap t) learned).2
    (∃ targets, a.handout.Deals targets s learned)
      ∧ (∃ targets, t.handout.Deals targets learned trapped)
      ∧ (run .award (.trap t) s).2 = s
      ∧ learned.save.party.map (·.experience) = [4, 0, 5]
      ∧ trapped.save.party.map (·.hitPoints.current) = [6, 0, 0]
      ∧ learned.dice = .scripted #[4, 7] 2 ∧ trapped.dice = .scripted #[4, 7] 4 := by
  intro member party s a t run learned trapped
  obtain ⟨s₁, hlearned, hdealt⟩ := (awards_and_traps_throw_for_the_living _ _ _
    ⟨⟨0⟩, .award, none, .award a⟩ ⟨.move, false⟩ s).1 a rfl rfl
  obtain ⟨r, s₂, htrapped, hsprung⟩ := (awards_and_traps_throw_for_the_living _ _ _
    ⟨⟨0⟩, .trap, none, .trap t⟩ ⟨.move, false⟩ learned).2.1 t rfl rfl
  have hs₁ : learned = s₁ := congrArg Prod.snd hlearned
  have hs₂ : trapped = s₂ := congrArg Prod.snd htrapped
  rw [if_neg (by decide), ← hs₁] at hdealt
  rw [if_pos (.inl rfl), ← hs₂] at hsprung
  refine ⟨hdealt, hsprung, ?_, by decide +kernel, by decide +kernel, by decide +kernel,
    by decide +kernel⟩
  exact (awards_and_traps_throw_for_the_living _ _ _ _ _ s).2.2 rfl

end TileEvents
