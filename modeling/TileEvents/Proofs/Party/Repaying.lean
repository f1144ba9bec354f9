/-
  TileEvents.Proofs.Party.Repaying
  ────────────────────────────────
  **PAID IN AND TAKEN OUT AGAIN.**

  A sum is split by the same shares in both directions, so that what is paid in
  can be taken out again and every balance is as before.  Only a balance that
  stops on the way spoils this: a full one when a share is paid in, an empty
  one when a share is taken out.

    • `held_payIn`, `total_payIn`   — paying in where there is room;
    • `takeOut_of_covers`           — taking out where everyone has the share;
    • `payIn_takeOut_cancel`        — the two undo each other, and exactly when.
-/
import TileEvents.Proofs.Party.Sharing

namespace TileEvents.Purse

/-! ## §1. Paying in. -/

/-- Everyone's balance has room for the share. -/
def HasRoom (bs : List UInt32) (amount : UInt32) : Prop :=
  ∀ i < bs.length, held bs i + share amount.toNat bs.length i ≤ 4294967295

instance (bs : List UInt32) (amount : UInt32) : Decidable (HasRoom bs amount) :=
  inferInstanceAs (Decidable (∀ i < bs.length, _))

/-- Everyone's balance covers the share. -/
def CoversShares (bs : List UInt32) (amount : UInt32) : Prop :=
  ∀ i < bs.length, share amount.toNat bs.length i ≤ held bs i

instance (bs : List UInt32) (amount : UInt32) : Decidable (CoversShares bs amount) :=
  inferInstanceAs (Decidable (∀ i < bs.length, _))

/-- Every balance rises by the share, or to the largest word. -/
theorem held_addShares (amount members position : Nat) {bs : List UInt32} {i : Nat}
    (h : i < bs.length) :
    held (addShares amount members position bs) i
      = min (held bs i + share amount members (position + i)) 4294967295 := by
  induction bs generalizing position i with
  | nil => cases h
  | cons b bs ih =>
      cases i with
      | zero => exact Word.toNat_clamp32 _
      | succ i =>
          show held (addShares amount members (position + 1) bs) i = _
          rw [ih (position + 1) (Nat.lt_of_succ_lt_succ h), Nat.add_right_comm, Nat.add_assoc position]
          rfl

theorem held_payIn (bs : List UInt32) (amount : UInt32) {i : Nat} (h : i < bs.length) :
    held (payIn bs amount) i
      = min (held bs i + share amount.toNat bs.length i) 4294967295 := by
  have heq := held_addShares amount.toNat bs.length 0 h
  rw [Nat.zero_add] at heq
  exact heq

/-- Where there is room, every balance rises by the share. -/
theorem held_payIn_of_room {bs : List UInt32} {amount : UInt32} (h : HasRoom bs amount) {i : Nat}
    (hi : i < bs.length) :
    held (payIn bs amount) i = held bs i + share amount.toNat bs.length i := by
  rw [held_payIn bs amount hi]
  exact Nat.min_eq_left (h i hi)

/-- What the member at a position gains when `amount` is paid. -/
def gained (bs : List UInt32) (amount : UInt32) (i : Nat) : Nat :=
  held (payIn bs amount) i - held bs i

/-- Where there is room, everyone gains the share. -/
theorem gained_of_room {bs : List UInt32} {amount : UInt32} (h : HasRoom bs amount) {i : Nat}
    (hi : i < bs.length) : gained bs amount i = share amount.toNat bs.length i := by
  rw [gained, held_payIn_of_room h hi, Nat.add_sub_cancel_left]

theorem total_addShares (amount members position : Nat) (bs : List UInt32)
    (h : ∀ i < bs.length, held bs i + share amount members (position + i) ≤ 4294967295) :
    total (addShares amount members position bs)
      = total bs + sharesFrom amount members position bs.length := by
  induction bs generalizing position with
  | nil => rfl
  | cons b bs ih =>
      have hfirst : b.toNat + share amount members position ≤ 4294967295 := h 0 (Nat.succ_pos _)
      have hrest := ih (position + 1) fun i hi => by
        rw [Nat.add_right_comm, Nat.add_assoc position]
        exact h (i + 1) (Nat.succ_lt_succ hi)
      rw [addShares, total_cons, Word.toNat_clamp32, Nat.min_eq_left hfirst, hrest, total_cons,
        List.length_cons, sharesFrom]
      omega

/-- **Where there is room, the balances rise by the whole sum.** -/
theorem total_payIn {bs : List UInt32} {amount : UInt32} (hbs : bs ≠ []) (h : HasRoom bs amount) :
    total (payIn bs amount) = total bs + amount.toNat := by
  have hpaid := total_addShares amount.toNat bs.length 0 bs fun i hi => by
    rw [Nat.zero_add]
    exact h i hi
  rw [sharesFrom_all amount.toNat (List.length_pos_iff.2 hbs)] at hpaid
  exact hpaid

/-! ## §2. Taking out. -/

/-- Where everyone has the share, all of the sum is there. -/
theorem due_of_covers {bs : List UInt32} {amount : UInt32} (hbs : bs ≠ [])
    (h : CoversShares bs amount) : due bs amount = amount.toNat := by
  have hpaid := paid_eq amount.toNat bs.length 0 bs fun i hi => by
    rw [Nat.zero_add]
    exact h i hi
  rw [sharesFrom_all amount.toNat (List.length_pos_iff.2 hbs)] at hpaid
  have hleft := total_takeShares amount.toNat bs.length 0 bs
  unfold due
  omega

/-- **Where everyone has the share, the sum is taken and everyone pays the share.** -/
theorem takeOut_of_covers {bs : List UInt32} {amount : UInt32} (hbs : bs ≠ [])
    (h : CoversShares bs amount) :
    (takeOut bs amount).2 = amount
      ∧ ∀ i < bs.length,
          held (takeOut bs amount).1 i + share amount.toNat bs.length i = held bs i := by
  have hdue := due_of_covers hbs h
  constructor
  · rw [← UInt32.toNat_inj, takeOut_taken, hdue]
  · intro i hi
    have hshares : ∀ i < bs.length, share (due bs amount) bs.length i ≤ held bs i := by
      rw [hdue]
      exact h
    rw [takeOut_of_shares hshares, held_afterShares, hdue, Nat.min_eq_left (h i hi)]
    exact Nat.sub_add_cancel (h i hi)

/-! ## §3. Both. -/

/-- **What is paid in can be taken out.** -/
theorem takeOut_payIn {bs : List UInt32} {amount : UInt32} (hbs : bs ≠ []) (h : HasRoom bs amount) :
    takeOut (payIn bs amount) amount = (bs, amount) := by
  have hlength : (payIn bs amount).length = bs.length := length_payIn bs amount
  have hne : payIn bs amount ≠ [] := by
    intro hnil
    rw [hnil] at hlength
    exact hbs (List.length_eq_zero_iff.1 hlength.symm)
  have hcovers : CoversShares (payIn bs amount) amount := by
    intro i hi
    rw [hlength] at hi ⊢
    rw [held_payIn_of_room h hi]
    exact Nat.le_add_left _ _
  obtain ⟨htaken, hleft⟩ := takeOut_of_covers hne hcovers
  refine Prod.ext (eq_of_held ?_ ?_) htaken
  · rw [length_takeOut, hlength]
  · intro i hi
    have hpaid := hleft i (by rw [hlength]; exact hi)
    rw [hlength, held_payIn_of_room h hi] at hpaid
    exact Nat.add_right_cancel hpaid

/-- **What is taken out is restored by paying it in if and only if everyone had the share.** -/
theorem payIn_takeOut_iff {bs : List UInt32} (hbs : bs ≠ []) (amount : UInt32) :
    payIn (takeOut bs amount).1 amount = bs ↔ CoversShares bs amount := by
  have hlength : (takeOut bs amount).1.length = bs.length := length_takeOut bs amount
  have hheld {i : Nat} (hi : i < bs.length) : held (payIn (takeOut bs amount).1 amount) i
      = min (held (takeOut bs amount).1 i + share amount.toNat bs.length i) 4294967295 := by
    rw [held_payIn _ _ (by rw [hlength]; exact hi), hlength]
  constructor
  · -- whoever was paid the share in the end has it
    intro hrestored i hi
    have heq := hheld hi
    have hshare := share_le (List.length_pos_iff.2 hbs) amount.toNat i
    have hlt := amount.toNat_lt
    rw [hrestored] at heq
    omega
  · intro hcovers
    refine eq_of_held (by rw [length_payIn, hlength]) fun i hi => ?_
    rw [hheld hi, (takeOut_of_covers hbs hcovers).2 i hi]
    exact Nat.min_eq_left (held_le bs i)

/-- **Paying in and taking out undo each other.**  If a sum is paid to a party in which everyone has
room for the share, the balances rise by just that sum; nobody gains less than someone further back,
nor more than one piece beyond; and to take the sum out again takes all of it and leaves every
balance as it was.  The other way round, a sum that is taken out and paid in leaves every balance as
it was if and only if everyone had the share of it. -/
theorem payIn_takeOut_cancel (bs : List UInt32) (amount : UInt32) (hbs : bs ≠ []) :
    (HasRoom bs amount →
        total (payIn bs amount) = total bs + amount.toNat
          ∧ (∀ i < bs.length, held bs i ≤ held (payIn bs amount) i)
          ∧ (∀ i j, i ≤ j → j < bs.length →
              gained bs amount j ≤ gained bs amount i
                ∧ gained bs amount i ≤ gained bs amount j + 1)
          ∧ takeOut (payIn bs amount) amount = (bs, amount))
      ∧ (payIn (takeOut bs amount).1 amount = bs ↔ CoversShares bs amount) := by
  refine ⟨fun h => ⟨total_payIn hbs h, ?_, ?_, takeOut_payIn hbs h⟩, payIn_takeOut_iff hbs amount⟩
  · intro i hi
    rw [held_payIn_of_room h hi]
    exact Nat.le_add_right _ _
  · intro i j hij hj
    rw [gained_of_room h hj, gained_of_room h (Nat.lt_of_le_of_lt hij hj)]
    exact share_antitone amount.toNat bs.length hij

/-- Nine are paid to two members, one of whom is full then, and taken out again.  If they are taken
out first, the second member lacks one of the share, and the balances are not restored. -/
theorem payIn_takeOut_cancel_nine :
    let bs : List UInt32 := [4294967290, 3]
    bs ≠ [] ∧ HasRoom bs 9
      ∧ payIn bs 9 = [4294967295, 7]
      ∧ takeOut [4294967295, 7] 9 = (bs, 9)
      ∧ ¬ CoversShares bs 9
      ∧ payIn (takeOut bs 9).1 9 ≠ bs := by
  intro bs
  have hbs : bs ≠ [] := by decide
  have hroom : HasRoom bs 9 := by decide
  have hpaid : payIn bs 9 = [4294967295, 7] := by decide
  have hlacks : ¬ CoversShares bs 9 := by decide
  obtain ⟨hcancel, hrestored⟩ := payIn_takeOut_cancel bs 9 hbs
  have hback := (hcancel hroom).2.2.2
  rw [hpaid] at hback
  exact ⟨hbs, hroom, hpaid, hback, hlacks, fun h => hlacks (hrestored.1 h)⟩

end TileEvents.Purse
