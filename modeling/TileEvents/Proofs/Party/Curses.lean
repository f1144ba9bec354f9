/-
  TileEvents.Proofs.Party.Curses
  ──────────────────────────────
  **WHO IS TOLD OF A CURSE THAT WAS LIFTED.**

  A slot that loses copies loses its curse.  Of a removal the host is told the
  members who wore such a slot, once each and in party order.  An inventory is
  not reported: a cursed stack that is carried and used up in part comes out
  of a removal without its curse, and the host does not hear of it.  Then
  nobody is reported, since the removal has all it wants before it comes to
  the equipment.

    • `mem_uncursed`         — who is reported;
    • `uncursed_eq_nil`      — nobody, if a removal ends among the inventories;
    • `uncursing_told`       — which curses the host hears of, and which not;
    • `carried_curse_untold` — one of which it does not.
-/
import TileEvents.Proofs.Party.Removal

namespace TileEvents

namespace Pack

/-! ## §1. Accounts of members. -/

/-- The account of one of the lists of the member at a position. -/
def AccountAt (item : UInt16) (slots : Member → List ItemSlot) (before after : List Member)
    (i : Nat) (ts : List SlotTurn) : Prop :=
  ∃ m m', before[i]? = some m ∧ after[i]? = some m' ∧ Account item (slots m) (slots m') ts

section Accounts

variable {item : UInt16} {wanted i : Nat} {party : List Member} {m : Member}

theorem exists_takeFromParty (item : UInt16) (wanted : Nat) (hm : party[i]? = some m) :
    ∃ m', (takeFromParty item wanted party).party[i]? = some m' := by
  have hi : i < party.length := (List.getElem?_eq_some_iff.1 hm).1
  rw [← length_takeFromParty item wanted party] at hi
  exact ⟨_, List.getElem?_eq_getElem hi⟩

/-- There is just the account of the removal that the list comes of. -/
theorem accountAt_iff {slots : Member → List ItemSlot} {w : Nat} {ts : List SlotTurn}
    (hm : party[i]? = some m)
    (htaken : ∀ m', (takeFromParty item wanted party).party[i]? = some m' →
      slots m' = (take item w (slots m)).slots) :
    AccountAt item slots party (takeFromParty item wanted party).party i ts
      ↔ ts = turns item w (slots m) := by
  constructor
  · rintro ⟨m₀, m', hm₀, hm', hts⟩
    obtain rfl := Option.some.inj (hm.symm.trans hm₀)
    rw [htaken m' hm'] at hts
    exact hts.unique (take_account item w (slots m))
  · rintro rfl
    obtain ⟨m', hm'⟩ := exists_takeFromParty item wanted hm
    refine ⟨m, m', hm, hm', ?_⟩
    rw [htaken m' hm']
    exact take_account item w (slots m)

theorem accountAt_inventory {ts : List SlotTurn} (hm : party[i]? = some m) :
    AccountAt item (·.inventory) party (takeFromParty item wanted party).party i ts
      ↔ ts = turns item (wantedAt item wanted party i) m.inventory :=
  accountAt_iff hm fun _ hm' => congrArg Member.inventory (takeFromParty_member hm hm')

theorem accountAt_equipment {ts : List SlotTurn} (hm : party[i]? = some m) :
    AccountAt item (·.equipment) party (takeFromParty item wanted party).party i ts
      ↔ ts = turns item (wantedAt item wanted party (party.length + i)) m.equipment :=
  accountAt_iff hm fun _ hm' => congrArg Member.equipment (takeFromParty_member hm hm')

end Accounts

/-! ## §2. Who is reported. -/

section Reports

variable {item : UInt16} {wanted : Nat} {party : List Member}

/-- What the second round makes of the equipment of a member. -/
theorem wornSweep_get (i : Nat) :
    (wornSweep item wanted party)[i]?
      = (party[i]?).map fun m =>
          take item (wantedAt item wanted party (party.length + i)) m.equipment := by
  have hsweep : (wornSweep item wanted party)[i]?
      = (takeEach item wanted (lists party))[party.length + i]? := by
    have hlength : (takeEach item wanted (party.map (·.inventory))).length = party.length := by simp
    rw [lists, takeEach_append, List.getElem?_append_right (by omega), hlength,
      Nat.add_sub_cancel_left]
    rfl
  rw [hsweep, takeEach_get]
  cases hm : party[i]? with
  | some m =>
      rw [lists_equipment hm]
      rfl
  | none =>
      have hi := List.getElem?_eq_none_iff.1 hm
      rw [List.getElem?_eq_none (by simp [lists]; omega)]
      rfl

/-- **Reported are those who wore a cursed slot that paid.** -/
theorem mem_uncursed {i : Nat} :
    i ∈ (takeFromParty item wanted party).uncursed
      ↔ ∃ ts, AccountAt item (·.equipment) party (takeFromParty item wanted party).party i ts
          ∧ ∃ t ∈ ts, t.before.cursed = true ∧ t.Pays := by
  have huncursed : i ∈ (takeFromParty item wanted party).uncursed
      ↔ ∃ m, party[i]? = some m
          ∧ (take item (wantedAt item wanted party (party.length + i)) m.equipment).curseLifted
            = true := by
    rw [takeFromParty_eq, mem_positionsFrom, Nat.sub_zero, wornSweep_get]
    simp
  rw [huncursed]
  constructor
  · rintro ⟨m, hm, hlifted⟩
    exact ⟨_, (accountAt_equipment hm).2 rfl, (curseLifted_take ..).1 hlifted⟩
  · rintro ⟨ts, hts, hcursed⟩
    obtain ⟨m, m', hm, -⟩ := id hts
    rw [(accountAt_equipment hm).1 hts] at hcursed
    exact ⟨m, hm, (curseLifted_take ..).2 hcursed⟩

/-- **Nobody is reported if the inventories have more than is wanted.** -/
theorem uncursed_eq_nil (h : wanted ≤ stock item (party.map (·.inventory))) :
    (takeFromParty item wanted party).uncursed = [] := by
  refine List.eq_nil_iff_forall_not_mem.2 fun i hi => ?_
  obtain ⟨ts, hts, t, ht, -, hpays⟩ := mem_uncursed.1 hi
  obtain ⟨m, m', hm, -⟩ := id hts
  rw [(accountAt_equipment hm).1 hts] at ht
  -- the inventories stand in front of all the equipment
  have hwanted := wanted_of_pays ht hpays
  have hfront := stock_take_mono item (lists party) (Nat.le_add_right party.length i)
  rw [lists_take_length] at hfront
  unfold wantedAt at hwanted
  omega

/-- A carried slot that is relieved of its curse was the last to pay. -/
theorem uncursed_eq_nil_of_relieved {i : Nat} {ts : List SlotTurn}
    (hts : AccountAt item (·.inventory) party (takeFromParty item wanted party).party i ts)
    {t : SlotTurn} (ht : t ∈ ts) (hrelieved : t.Relieved) :
    (takeFromParty item wanted party).uncursed = [] := by
  obtain ⟨m, m', hm, -⟩ := id hts
  rw [(accountAt_inventory hm).1 hts] at ht
  have hpays := pays_of_relieved (turns_fair _ _ _ t ht) hrelieved
  have hlast := wanted_lt_of_left ht hpays hrelieved.2.2
  have hstock := stock_take_succ item (lists_inventory hm)
  have hmono : stock item ((lists party).take (i + 1)) ≤ stock item (party.map (·.inventory)) := by
    have hi : i < party.length := (List.getElem?_eq_some_iff.1 hm).1
    rw [← lists_take_length]
    exact stock_take_mono item (lists party) hi
  unfold wantedAt at hlast
  exact uncursed_eq_nil (by omega)

end Reports

end Pack

/-! ## §3. The action. -/

namespace Action

/-- The copies an action on items is about: one where its count is zero. -/
def copies (count : UInt16) : UInt16 := if count = 0 then 1 else count

/-- **Of which curses the host hears.**  The action that takes `item` tells of members in party
order, each once: of those who wore a cursed slot that paid, and of no others.  So the host hears of
every worn slot that is left without its curse.  But when a slot that is carried is left without its
curse, it hears of nobody.  Every member has accounts of both lists, and just one of each. -/
theorem uncursing_told (settings : Settings) (id : NodeId) (item count : UInt16) (s : Scene) :
    ∃ (f : Scene → Scene) (told : List Nat),
      (Action.mk .addItem item 0 count).effect settings id = .ok f
      ∧ (f s).calls = s.calls ++ (told.map (HostCall.itemUncursed · item)).toArray
      ∧ told.Pairwise (· < ·)
      ∧ let Carried := Pack.AccountAt item (·.inventory) s.save.party (f s).save.party
        let Worn := Pack.AccountAt item (·.equipment) s.save.party (f s).save.party
        (∀ i, i ∈ told ↔ ∃ ts, Worn i ts ∧ ∃ t ∈ ts, t.before.cursed = true ∧ t.Pays)
        ∧ (∀ i ts, Worn i ts → (∃ t ∈ ts, t.Relieved) → i ∈ told)
        ∧ (∀ i ts, Carried i ts → (∃ t ∈ ts, t.Relieved) → told = [])
        ∧ ∀ i < s.save.party.length, (∃! ts, Carried i ts) ∧ ∃! ts, Worn i ts := by
  obtain ⟨hparty, hcalls⟩ := takeItems_party id item (copies count) s
  refine ⟨takeItems id item (copies count),
    (Pack.takeFromParty item (copies count).toNat s.save.party).uncursed, rfl, hcalls, ?_, ?_⟩
  · rw [Pack.takeFromParty_eq]
    exact positionsFrom_ascending 0 _
  intro Carried Worn
  subst Carried Worn
  rw [hparty]
  refine ⟨fun i => Pack.mem_uncursed, ?_, ?_, ?_⟩
  · rintro i ts hts ⟨t, ht, hrelieved⟩
    have hpays : t.Pays := by
      obtain ⟨m, m', -, -, haccount⟩ := hts
      exact Pack.pays_of_relieved (haccount.fair t ht) hrelieved
    exact Pack.mem_uncursed.2 ⟨ts, hts, t, ht, hrelieved.1, hpays⟩
  · rintro i ts hts ⟨t, ht, hrelieved⟩
    exact Pack.uncursed_eq_nil_of_relieved hts ht hrelieved
  · intro i hi
    have hm := List.getElem?_eq_getElem hi
    exact ⟨⟨_, (Pack.accountAt_inventory hm).2 rfl, fun _ => (Pack.accountAt_inventory hm).1⟩,
      ⟨_, (Pack.accountAt_equipment hm).2 rfl, fun _ => (Pack.accountAt_equipment hm).1⟩⟩

/-- A member carries three cursed copies and gives one up: the other two are cursed no more, and the
host is told nothing. -/
theorem carried_curse_untold :
    let s : Scene := ⟨{ Savegame.blank with
      party := [{ Member.blank with inventory := [⟨9, 3, true⟩] }] }, .ofScript [], [], #[], #[]⟩
    ∃ f t, (Action.mk .addItem 9 0 1).effect .builtin ⟨0⟩ = .ok f
      ∧ Pack.AccountAt 9 (·.inventory) s.save.party (f s).save.party 0 [t]
      ∧ t.Relieved ∧ (f s).calls = #[] := by
  intro s
  refine ⟨takeItems ⟨0⟩ 9 1, ⟨⟨9, 3, true⟩, ⟨9, 2, false⟩⟩, rfl, ?_,
    ⟨rfl, rfl, by decide⟩, by decide⟩
  exact ⟨_, { Member.blank with inventory := [⟨9, 2, false⟩] }, rfl, by decide,
    Pack.take_account 9 1 [⟨9, 3, true⟩]⟩

end Action

end TileEvents
