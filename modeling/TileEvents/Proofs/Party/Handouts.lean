/-
  TileEvents.Proofs.Party.Handouts
  ────────────────────────────────
  **AWARDS AND TRAPS HAND SOMETHING OUT.**

  An award and a trap do the same thing: they go over members and revise each
  with an amount, one thrown for that member or the same for all.  The amounts
  do not depend on the members, so they can be thrown beforehand, as many as
  there are members, and then be given to them one after the other.

    • `Revised`             — members revised in turn, at given positions;
    • `Handout`             — what is handed out, and to whom;
    • `Handout.foldl_reach` — all targets get their amounts, by induction on
                              them;
    • `Award.foldl_reach_eq`, `Trap.reach_eq` — awards and traps hand out;
    • `Award.apply_changes`, `Trap.spring_changes` — all that changes by it.
-/
import TileEvents.Proofs.Walk.Unlogged
import Mathlib.Data.List.Forall2

namespace TileEvents

/-! ## §1. Members revised in turn. -/

/-- **A party after the members at these positions were revised one after the other**, each in a way
of its own among `F`. -/
inductive Revised (F : (Member → Member) → Prop) : List Nat → List Member → List Member → Prop where
  | none (party : List Member) : Revised F [] party party
  | next {f : Member → Member} {position : Nat} {rest : List Nat} {party party' : List Member}
      (hf : F f) (h : Revised F rest (party.modify position f) party') :
      Revised F (position :: rest) party party'

namespace Revised

variable {F : (Member → Member) → Prop} {positions : List Nat} {party party' : List Member}

theorem length_eq (h : Revised F positions party party') : party'.length = party.length := by
  induction h with
  | none => rfl
  | next hf h ih => rw [ih, List.length_modify]

/-- A member at none of the positions is left alone. -/
theorem getElem?_of_not_mem (h : Revised F positions party party') {i : Nat} (hi : i ∉ positions) :
    party'[i]? = party[i]? := by
  induction h with
  | none => rfl
  | @next f position rest party party' hf h ih =>
      rw [List.mem_cons, not_or] at hi
      rw [ih hi.2, List.getElem?_modify]
      simp [Ne.symm hi.1]

/-- A member at one of them is revised once. -/
theorem getElem?_of_mem (h : Revised F positions party party') (hnodup : positions.Nodup) {i : Nat}
    (hi : i ∈ positions) : ∃ f, F f ∧ party'[i]? = (party[i]?).map f := by
  induction h with
  | none => cases hi
  | @next f position rest party party' hf h ih =>
      obtain ⟨hfresh, hrest⟩ := List.nodup_cons.1 hnodup
      by_cases heq : i = position
      -- the rest does not come back to this position
      · refine ⟨f, hf, ?_⟩
        rw [heq, h.getElem?_of_not_mem hfresh, List.getElem?_modify]
        simp
      · obtain ⟨g, hg, hparty'⟩ := ih hrest ((List.mem_cons.1 hi).resolve_left heq)
        refine ⟨g, hg, ?_⟩
        rw [hparty', List.getElem?_modify]
        simp [Ne.symm heq]

/-- **So every member is as before, or was at one of the positions and revised once.** -/
theorem forall₂ (h : Revised F positions party party') (hnodup : positions.Nodup) :
    List.Forall₂ (fun m m' => m' = m ∨ (∃ i ∈ positions, party[i]? = some m) ∧ ∃ f, F f ∧ m' = f m)
      party party' := by
  refine List.forall₂_iff_get.2 ⟨h.length_eq.symm, ?_⟩
  intro i hi hi'
  have hm : party[i]? = some (party.get ⟨i, hi⟩) := List.getElem?_eq_getElem hi
  have hm' : party'[i]? = some (party'.get ⟨i, hi'⟩) := List.getElem?_eq_getElem hi'
  by_cases hmem : i ∈ positions
  · obtain ⟨f, hf, hrevised⟩ := h.getElem?_of_mem hnodup hmem
    rw [hm, hm'] at hrevised
    exact .inr ⟨⟨i, hmem, hm⟩, f, hf, Option.some.inj hrevised⟩
  · have hleft := h.getElem?_of_not_mem hmem
    rw [hm, hm'] at hleft
    exact .inl (Option.some.inj hleft)

end Revised

/-! ## §2. Amounts. -/

/-- **So many throws** between the same bounds, one after the other, and the dice afterwards. -/
def Dice.throws (lo hi : UInt32) : Nat → Dice → List UInt32 × Dice
  | 0, d => ([], d)
  | n + 1, d =>
    let (value, d) := d.between lo hi
    let (values, d) := throws lo hi n d
    (value :: values, d)

@[simp] theorem Dice.length_throws (lo hi : UInt32) (n : Nat) (d : Dice) :
    (d.throws lo hi n).1.length = n := by
  induction n generalizing d with
  | zero => rfl
  | succ n ih => exact congrArg Nat.succ (ih (d.between lo hi).2)

/-- **Something handed out to an audience**: an amount up to `most`, thrown for each target, or
`most` itself for all of them, and what it makes of a member. -/
structure Handout where
  target : Audience
  thrown : Bool
  most : UInt32
  revise : UInt32 → Member → Member

namespace Handout

variable (h : Handout)

/-- The amount for the next target, and the dice afterwards. -/
def amount (d : Dice) : UInt32 × Dice := if h.thrown then d.between 1 h.most else (h.most, d)

/-- **The amounts for so many targets**, and the dice afterwards: a throw for each, or none. -/
def amounts (n : Nat) (d : Dice) : List UInt32 × Dice :=
  if h.thrown then d.throws 1 h.most n else (List.replicate n h.most, d)

@[simp] theorem length_amounts (n : Nat) (d : Dice) : (h.amounts n d).1.length = n := by
  unfold amounts
  split
  · exact d.length_throws 1 h.most n
  · exact List.length_replicate

/-- The first target has its amount before the others have theirs. -/
theorem amounts_succ (n : Nat) (d : Dice) :
    h.amounts (n + 1) d
      = ((h.amount d).1 :: (h.amounts n (h.amount d).2).1, (h.amounts n (h.amount d).2).2) := by
  obtain ⟨target, thrown, most, revise⟩ := h
  cases thrown <;> rfl

/-- Every target has one amount. -/
theorem map_fst_shares (targets : List Nat) (d : Dice) :
    (targets.zip (h.amounts targets.length d).1).map Prod.fst = targets :=
  List.map_fst_zip (Nat.le_of_eq (h.length_amounts _ _).symm)

/-! ## §3. One target after the other. -/

/-- The party after the members at these positions got these amounts. -/
def given (party : List Member) (shares : List (Nat × UInt32)) : List Member :=
  shares.foldl (fun party share => party.modify share.1 (h.revise share.2)) party

/-- The members at these positions are revised in turn. -/
theorem given_revised (shares : List (Nat × UInt32)) (party : List Member) :
    Revised (fun f => ∃ amount, f = h.revise amount) (shares.map Prod.fst) party
      (h.given party shares) := by
  induction shares generalizing party with
  | nil => exact .none party
  | cons share shares ih => exact .next ⟨share.2, rfl⟩ (ih _)

/-- Who gets an amount, and no other, is revised by it. -/
theorem given_of_mem {shares : List (Nat × UInt32)} (hnodup : (shares.map Prod.fst).Nodup) {i : Nat}
    {amount : UInt32} (hi : (i, amount) ∈ shares) (party : List Member) :
    (h.given party shares)[i]? = (party[i]?).map (h.revise amount) := by
  induction shares generalizing party with
  | nil => cases hi
  | cons share shares ih =>
      obtain ⟨hfresh, hrest⟩ := List.nodup_cons.1 hnodup
      show (h.given (party.modify share.1 (h.revise share.2)) shares)[i]? = _
      rcases List.mem_cons.1 hi with rfl | hi
      -- the others do not come back to the first
      · rw [(h.given_revised shares _).getElem?_of_not_mem hfresh, List.getElem?_modify]
        simp
      · have hne : share.1 ≠ i := fun heq => hfresh (heq ▸ List.mem_map_of_mem hi)
        rw [ih hrest hi, List.getElem?_modify]
        simp [hne]

/-- **One target gets its amount.** -/
def reach (s : Scene) (position : Nat) : Scene :=
  (s.setDice (h.amount s.dice).2).setSave
    (s.save.reviseMember position (h.revise (h.amount s.dice).1))

theorem reach_unlogged (s : Scene) (position : Nat) :
    (h.reach s.unlogged position).unlogged = (h.reach s position).unlogged := rfl

/-- Where there is no member an amount is thrown and nobody gets it. -/
theorem reach_none {s : Scene} {position : Nat} (hnone : s.save.party[position]? = none) :
    h.reach s position = s.setDice (h.amount s.dice).2 := by
  unfold reach Savegame.reviseMember
  rw [List.modify_eq_self (List.getElem?_eq_none_iff.1 hnone)]
  rfl

/-- **All targets get theirs**: as many amounts as there are targets, and nothing changes but the
dice and the party. -/
theorem foldl_reach (targets : List Nat) (s : Scene) :
    targets.foldl h.reach s
      = (s.setDice (h.amounts targets.length s.dice).2).setSave
          (s.save.setParty (h.given s.save.party
            (targets.zip (h.amounts targets.length s.dice).1))) := by
  induction targets generalizing s with
  | nil =>
      unfold amounts
      split <;> rfl
  | cons i targets ih =>
      rw [List.foldl_cons, ih, List.length_cons, amounts_succ]
      rfl

/-- They are revised in turn. -/
theorem foldl_reach_revised (targets : List Nat) (s : Scene) :
    Revised (fun f => ∃ amount, f = h.revise amount) targets s.save.party
      (targets.foldl h.reach s).save.party := by
  have hrevised := h.given_revised (targets.zip (h.amounts targets.length s.dice).1) s.save.party
  rw [h.map_fst_shares] at hrevised
  rw [h.foldl_reach]
  exact hrevised

end Handout

/-! ## §4. Awards and traps. -/

/-- **What an award hands out**: its value, or a throw from one to it. -/
def Award.handout (a : Award) : Handout := ⟨a.target, a.random, a.value.toUInt32, a.revise⟩

/-- **What a trap hands out**: a throw from one to its base damage, if there is one. -/
def Trap.handout (t : Trap) : Handout :=
  ⟨t.target, decide (t.baseDamage ≠ 0), t.baseDamage.toUInt32, t.revise⟩

namespace Award

variable (a : Award) (id : NodeId)

theorem amountFor_eq (s : Scene) :
    a.amountFor s = ((a.handout.amount s.dice).1, s.setDice (a.handout.amount s.dice).2) := by
  unfold amountFor Handout.amount handout
  dsimp only
  split <;> rfl

/-- An award reaches one target as its handout does. -/
theorem reach_eq (s : Scene) (position : Nat) :
    (a.reach id s position).unlogged = (a.handout.reach s position).unlogged := by
  unfold reach
  rw [a.amountFor_eq]
  dsimp only
  split
  case h_1 hnone =>
    have hnone : s.save.party[position]? = none := hnone
    rw [a.handout.reach_none hnone]
  case h_2 m hm => exact Scene.unlogged_notes _ _

/-- So it reaches all of them. -/
theorem foldl_reach_eq (targets : List Nat) (s : Scene) :
    (targets.foldl (a.reach id) s).unlogged = (targets.foldl a.handout.reach s).unlogged := by
  induction targets generalizing s with
  | nil => rfl
  | cons i targets ih =>
      rw [List.foldl_cons, List.foldl_cons, ih]
      exact Scene.eq_of_unlogged_eq (fun s => (targets.foldl a.handout.reach s).unlogged)
        (Scene.foldl_unlogged _ a.handout.reach_unlogged targets) (a.reach_eq id s i)

/-- **An award revises the members at its positions**, each with an amount of its own. -/
theorem foldl_reach_revised (positions : List Nat) (s : Scene) :
    Revised (fun f => ∃ amount, f = a.revise amount) positions s.save.party
      (positions.foldl (a.reach id) s).save.party := by
  rw [(Scene.eq_but_log (a.foldl_reach_eq id positions s)).1]
  exact a.handout.foldl_reach_revised positions s

/-- **An award changes the dice and the party**, and nothing else but the log. -/
theorem apply_changes (s : Scene) : ∃ dice party,
    (a.apply id s).unlogged = ((s.setDice dice).setSave (s.save.setParty party)).unlogged := by
  unfold apply
  split
  · exact ⟨s.dice, s.save.party, Scene.unlogged_remark _ _ _⟩
  · split
    · exact ⟨s.dice, s.save.party, Scene.unlogged_warnOf _ _ _⟩
    · rw [a.foldl_reach_eq id, a.handout.foldl_reach]
      exact ⟨_, _, rfl⟩

end Award

namespace Trap

variable (t : Trap) (id : NodeId)

theorem damageFor_eq (s : Scene) :
    t.damageFor s = ((t.handout.amount s.dice).1, s.setDice (t.handout.amount s.dice).2) := by
  unfold damageFor Handout.amount handout
  by_cases hbase : t.baseDamage = 0
  · rw [if_pos hbase, if_neg (by simpa using hbase), hbase]
    rfl
  · rw [if_neg hbase, if_pos (by simpa using hbase)]
    rfl

/-- A trap reaches its targets as its handout does. -/
theorem reach_eq (targets : List Nat) (s : Scene) :
    (t.reach id targets s).2.unlogged = (targets.foldl t.handout.reach s).unlogged := by
  induction targets generalizing s with
  | nil => rfl
  | cons i targets ih =>
      have hrest {s₁ : Scene} (h : s₁.unlogged = (t.handout.reach s i).unlogged) :
          (t.reach id targets s₁).2.unlogged
            = (targets.foldl t.handout.reach (t.handout.reach s i)).unlogged := by
        rw [ih]
        exact Scene.eq_of_unlogged_eq (fun s => (targets.foldl t.handout.reach s).unlogged)
          (Scene.foldl_unlogged _ t.handout.reach_unlogged targets) h
      unfold reach
      rw [t.damageFor_eq, List.foldl_cons]
      dsimp only
      split
      case h_1 hnone =>
        have hnone : s.save.party[i]? = none := hnone
        exact hrest (by rw [t.handout.reach_none hnone])
      case h_2 m hm => exact hrest (Scene.unlogged_remark _ _ _)

/-- **A trap revises the members at its positions**, each with a damage of its own. -/
theorem reach_revised (positions : List Nat) (s : Scene) :
    Revised (fun f => ∃ damage, f = t.revise damage) positions s.save.party
      (t.reach id positions s).2.save.party := by
  rw [(Scene.eq_but_log (t.reach_eq id positions s)).1]
  exact t.handout.foldl_reach_revised positions s

/-- **So does a trap.** -/
theorem spring_changes (s : Scene) : ∃ dice party,
    (t.spring id s).2.unlogged = ((s.setDice dice).setSave (s.save.setParty party)).unlogged := by
  unfold spring
  rw [t.reach_eq id, t.handout.foldl_reach]
  exact ⟨_, _, rfl⟩

end Trap

end TileEvents
