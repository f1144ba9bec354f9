/-
  TileEvents.Proofs.Party.Sharing
  ───────────────────────────────
  **A SUM IS TAKEN EXACTLY, WHOEVER HAS IT.**

  A sum is taken from the party in two rounds.  In the first everyone pays the
  share as far as the balance reaches; in the second those who stand first and
  have something left make up for what is missing.  Together the rounds take
  the whole sum or all there is, and they can be carried out on words alone:
  no sum and no difference on the way leaves its range, even where the exact
  sum of the balances does.

    • `sharesFrom_all`        — the shares of all members are the whole sum;
    • `held_takeShares`       — the first round, member by member;
    • `swept_eq`, `sweep_earliest` — the second round takes what is missing,
      and takes it from the earliest;
    • `takeOutOnWords?_eq`    — both rounds on words alone;
    • `takeOut_exact`         — what is taken, and from whom.
-/
import TileEvents.Party.Purse

namespace TileEvents.Purse

/-! ## §1. Balances by position. -/

/-- What the member at a position has; behind the last member there is nothing. -/
def held : List UInt32 → Nat → Nat
  | [], _ => 0
  | b :: _, 0 => b.toNat
  | _ :: bs, i + 1 => held bs i

@[simp] theorem total_cons (b : UInt32) (bs : List UInt32) : total (b :: bs) = b.toNat + total bs :=
  rfl

/-- A balance is a word. -/
theorem held_le (bs : List UInt32) (i : Nat) : held bs i ≤ 4294967295 := by
  induction bs generalizing i with
  | nil => exact Nat.zero_le _
  | cons b bs ih =>
      cases i with
      | zero => exact Nat.le_of_lt_succ b.toNat_lt
      | succ i => exact ih i

/-- Balances that are the same at every position are the same. -/
theorem eq_of_held {as bs : List UInt32} (hlength : as.length = bs.length)
    (h : ∀ i < bs.length, held as i = held bs i) : as = bs := by
  induction bs generalizing as with
  | nil => exact List.length_eq_zero_iff.1 hlength
  | cons b bs ih =>
      cases as with
      | nil => cases hlength
      | cons a as =>
          have hfirst : a = b := UInt32.toNat_inj.1 (h 0 (Nat.succ_pos _))
          have hrest : as = bs :=
            ih (Nat.succ.inj hlength) fun i hi => h (i + 1) (Nat.succ_lt_succ hi)
          rw [hfirst, hrest]

/-- To take from a balance what it has takes exactly that. -/
theorem toNat_sub_ofNat {b : UInt32} {taken : Nat} (h : taken ≤ b.toNat) :
    (b - UInt32.ofNat taken).toNat = b.toNat - taken := by
  have hlt := b.toNat_lt
  have htaken : (UInt32.ofNat taken).toNat = taken := by
    rw [UInt32.toNat_ofNat']
    omega
  rw [UInt32.toNat_sub_of_le, htaken]
  rw [UInt32.le_iff_toNat_le, htaken]
  exact h

/-! ## §2. Shares. -/

/-- No share is larger than the sum. -/
theorem share_le {members : Nat} (h : 0 < members) (amount position : Nat) :
    share amount members position ≤ amount := by
  have hsplit := Nat.div_add_mod amount members
  have hdiv : amount / members ≤ members * (amount / members) := Nat.le_mul_of_pos_left _ h
  unfold share
  split <;> omega

/-- Shares differ by at most one, and the earlier is not the smaller. -/
theorem share_antitone (amount members : Nat) {i j : Nat} (h : i ≤ j) :
    share amount members j ≤ share amount members i
      ∧ share amount members i ≤ share amount members j + 1 := by
  unfold share
  split <;> split <;> omega

/-- The shares of `count` members in a row, the first at `position`. -/
def sharesFrom (amount members : Nat) : Nat → Nat → Nat
  | _, 0 => 0
  | position, count + 1 => share amount members position + sharesFrom amount members (position + 1) count

/-- Everyone has the quotient, and those who stand among the first have one more. -/
theorem sharesFrom_eq (amount members position count : Nat) :
    sharesFrom amount members position count
      = count * (amount / members)
        + (min (position + count) (amount % members) - min position (amount % members)) := by
  induction count generalizing position with
  | zero => simp [sharesFrom]
  | succ count ih =>
      rw [sharesFrom, ih, share, Nat.succ_mul]
      split <;> omega

/-- **The shares of all members are the whole sum.** -/
theorem sharesFrom_all (amount : Nat) {members : Nat} (h : 0 < members) :
    sharesFrom amount members 0 members = amount := by
  have hsplit := Nat.div_add_mod amount members
  have hmod := Nat.mod_lt amount h
  rw [sharesFrom_eq]
  omega

/-! ## §3. The first round. -/

section FirstRound

variable (amount members : Nat)

/-- **In the first round everyone pays the share as far as the balance reaches.** -/
theorem held_takeShares (position : Nat) (bs : List UInt32) (i : Nat) :
    held (takeShares amount members position bs).1 i
      = held bs i - min (share amount members (position + i)) (held bs i) := by
  induction bs generalizing position i with
  | nil => exact (Nat.zero_sub _).symm
  | cons b bs ih =>
      cases i with
      | zero => exact toNat_sub_ofNat (Nat.min_le_right _ _)
      | succ i =>
          show held (takeShares amount members (position + 1) bs).1 i = _
          rw [ih, Nat.add_right_comm, Nat.add_assoc]
          rfl

/-- What is paid and what is left are what there was. -/
theorem total_takeShares (position : Nat) (bs : List UInt32) :
    total (takeShares amount members position bs).1 + (takeShares amount members position bs).2
      = total bs := by
  induction bs generalizing position with
  | nil => rfl
  | cons b bs ih =>
      have hfirst := toNat_sub_ofNat (Nat.min_le_right (share amount members position) b.toNat)
      have hrest := ih (position + 1)
      have hle := Nat.min_le_right (share amount members position) b.toNat
      simp only [takeShares, total_cons, hfirst]
      omega

/-- Nobody pays more than the share. -/
theorem paid_le (position : Nat) (bs : List UInt32) :
    (takeShares amount members position bs).2 ≤ sharesFrom amount members position bs.length := by
  induction bs generalizing position with
  | nil => exact Nat.le_refl _
  | cons b bs ih => exact Nat.add_le_add (Nat.min_le_left _ _) (ih (position + 1))

/-- Where everyone has the share, all of it is paid. -/
theorem paid_eq (position : Nat) (bs : List UInt32)
    (h : ∀ i < bs.length, share amount members (position + i) ≤ held bs i) :
    (takeShares amount members position bs).2 = sharesFrom amount members position bs.length := by
  induction bs generalizing position with
  | nil => rfl
  | cons b bs ih =>
      have hfirst : share amount members position ≤ b.toNat := h 0 (Nat.succ_pos _)
      have hrest : (takeShares amount members (position + 1) bs).2
          = sharesFrom amount members (position + 1) bs.length := by
        refine ih (position + 1) fun i hi => ?_
        rw [Nat.add_right_comm, Nat.add_assoc]
        exact h (i + 1) (Nat.succ_lt_succ hi)
      rw [takeShares, List.length_cons, sharesFrom, ← hrest, ← Nat.min_eq_left hfirst]
      simp only [Nat.min_eq_left hfirst]

end FirstRound

/-! ## §4. The second round. -/

/-- Where nothing is missing, nothing is taken. -/
theorem sweep_zero (bs : List UInt32) : sweep 0 bs = (bs, 0) := by
  induction bs with
  | nil => rfl
  | cons b bs ih => simp [sweep, ih]

/-- What is taken and what is left are what there was. -/
theorem total_sweep (missing : Nat) (bs : List UInt32) :
    total (sweep missing bs).1 + (sweep missing bs).2 = total bs := by
  induction bs generalizing missing with
  | nil => rfl
  | cons b bs ih =>
      have hfirst := toNat_sub_ofNat (Nat.min_le_right missing b.toNat)
      have hrest := ih (missing - min missing b.toNat)
      have hle := Nat.min_le_right missing b.toNat
      simp only [sweep, total_cons, hfirst]
      omega

/-- **In the second round what is missing is taken, or all there is.** -/
theorem swept_eq (missing : Nat) (bs : List UInt32) :
    (sweep missing bs).2 = min missing (total bs) := by
  induction bs generalizing missing with
  | nil => exact (Nat.min_zero _).symm
  | cons b bs ih =>
      simp only [sweep, ih, total_cons]
      omega

theorem held_sweep_le (missing : Nat) (bs : List UInt32) (i : Nat) :
    held (sweep missing bs).1 i ≤ held bs i := by
  induction bs generalizing missing i with
  | nil => exact Nat.le_refl _
  | cons b bs ih =>
      cases i with
      | zero =>
          show (b - UInt32.ofNat (min missing b.toNat)).toNat ≤ b.toNat
          rw [toNat_sub_ofNat (Nat.min_le_right _ _)]
          exact Nat.sub_le _ _
      | succ i => exact ih _ i

/-- **It is taken from the earliest**: whoever pays stands behind members who have nothing left. -/
theorem sweep_earliest {missing : Nat} {bs : List UInt32} {i j : Nat} (hij : i < j)
    (hpays : held (sweep missing bs).1 j < held bs j) : held (sweep missing bs).1 i = 0 := by
  induction bs generalizing missing i j with
  | nil => exact absurd hpays (Nat.lt_irrefl _)
  | cons b bs ih =>
      obtain ⟨j, rfl⟩ : ∃ k, j = k + 1 := ⟨j - 1, by omega⟩
      have hpays : held (sweep (missing - min missing b.toNat) bs).1 j < held bs j := hpays
      cases i with
      | zero =>
          -- something is missing behind the first member, so the first has paid everything
          have hmissing : missing - min missing b.toNat ≠ 0 := by
            intro hzero
            rw [hzero, sweep_zero] at hpays
            exact Nat.lt_irrefl _ hpays
          show (b - UInt32.ofNat (min missing b.toNat)).toNat = 0
          rw [toNat_sub_ofNat (Nat.min_le_right _ _)]
          omega
      | succ i => exact ih (Nat.lt_of_succ_lt_succ hij) hpays

/-! ## §5. Both rounds. -/

section BothRounds

variable (bs : List UInt32) (amount : UInt32)

/-- What is due: the sum, or all there is. -/
def due : Nat := min amount.toNat (total bs)

/-- The balances after the first round. -/
def afterShares : List UInt32 := (takeShares (due bs amount) bs.length 0 bs).1

/-- What the first round brought in. -/
def paid : Nat := (takeShares (due bs amount) bs.length 0 bs).2

theorem takeOut_eq :
    takeOut bs amount = ((sweep (due bs amount - paid bs amount) (afterShares bs amount)).1,
      UInt32.ofNat (paid bs amount
        + (sweep (due bs amount - paid bs amount) (afterShares bs amount)).2)) :=
  rfl

/-- The first round brings in no more than is due. -/
theorem paid_le_due : paid bs amount ≤ due bs amount := by
  cases bs with
  | nil => exact Nat.zero_le _
  | cons b bs =>
      have hall := sharesFrom_all (due (b :: bs) amount) (Nat.succ_pos bs.length)
      have hpaid := paid_le (due (b :: bs) amount) (bs.length + 1) 0 (b :: bs)
      exact Nat.le_trans hpaid (Nat.le_of_eq hall)

/-- Together the rounds bring in what is due. -/
theorem paid_add_swept :
    paid bs amount + (sweep (due bs amount - paid bs amount) (afterShares bs amount)).2
      = due bs amount := by
  have hpaid := paid_le_due bs amount
  have hleft : total (afterShares bs amount) + paid bs amount = total bs :=
    total_takeShares (due bs amount) bs.length 0 bs
  have hdue : due bs amount ≤ total bs := Nat.min_le_right _ _
  rw [swept_eq]
  omega

/-- **What is taken is the sum, or all there is.** -/
theorem takeOut_taken : (takeOut bs amount).2.toNat = due bs amount := by
  have hdue : due bs amount ≤ amount.toNat := Nat.min_le_left _ _
  have hlt := amount.toNat_lt
  rw [takeOut_eq, paid_add_swept, UInt32.toNat_ofNat']
  omega

/-- What is taken and what is left are what there was. -/
theorem total_takeOut : total (takeOut bs amount).1 + due bs amount = total bs := by
  have hleft : total (afterShares bs amount) + paid bs amount = total bs :=
    total_takeShares (due bs amount) bs.length 0 bs
  have hswept := total_sweep (due bs amount - paid bs amount) (afterShares bs amount)
  have hboth := paid_add_swept bs amount
  rw [takeOut_eq]
  dsimp only
  omega

/-- After the first round everyone has what the share left. -/
theorem held_afterShares (i : Nat) :
    held (afterShares bs amount) i
      = held bs i - min (share (due bs amount) bs.length i) (held bs i) := by
  have h := held_takeShares (due bs amount) bs.length 0 bs i
  rw [Nat.zero_add] at h
  exact h

theorem held_takeOut_le_afterShares (i : Nat) :
    held (takeOut bs amount).1 i ≤ held (afterShares bs amount) i := by
  rw [takeOut_eq]
  exact held_sweep_le _ _ i

variable {bs amount}

/-- Where nothing is due, nothing changes. -/
theorem takeOut_of_due_zero (h : due bs amount = 0) :
    takeOut bs amount = (bs, 0) := by
  have hshare (i : Nat) : share 0 bs.length i = 0 := by simp [share]
  have hafter : afterShares bs amount = bs := by
    refine eq_of_held (length_takeShares ..) fun i _ => ?_
    rw [held_afterShares, h, hshare, Nat.zero_min, Nat.sub_zero]
  have hpaid := paid_le_due bs amount
  rw [h, Nat.le_zero] at hpaid
  rw [takeOut_eq, hafter, hpaid, h, sweep_zero]
  rfl

/-- **Where everyone has the share, the first round is enough.** -/
theorem takeOut_of_shares (h : ∀ i < bs.length, share (due bs amount) bs.length i ≤ held bs i) :
    (takeOut bs amount).1 = afterShares bs amount := by
  have hpaid : paid bs amount = due bs amount := by
    cases bs with
    | nil => exact (Nat.min_zero _).symm
    | cons b bs =>
        have hall := sharesFrom_all (due (b :: bs) amount) (Nat.succ_pos bs.length)
        have heq := paid_eq (due (b :: bs) amount) (bs.length + 1) 0 (b :: bs) fun i hi => by
          rw [Nat.zero_add]
          exact h i hi
        exact heq.trans hall
  rw [takeOut_eq, hpaid, Nat.sub_self, sweep_zero]

end BothRounds

end TileEvents.Purse

/-! ## §6. Words alone. -/

namespace TileEvents.Word

/-- The sum of two words, if it does not wrap. -/
def sum? (a b : UInt32) : Option UInt32 :=
  if a.toNat + b.toNat ≤ 4294967295 then some (a + b) else none

/-- The difference of two words, if it does not wrap. -/
def difference? (a b : UInt32) : Option UInt32 := if b ≤ a then some (a - b) else none

theorem toNat_ofNat {n : Nat} (h : n ≤ 4294967295) : (UInt32.ofNat n).toNat = n := by
  rw [UInt32.toNat_ofNat']
  omega

theorem sum?_ofNat {m n : Nat} (h : m + n ≤ 4294967295) :
    sum? (UInt32.ofNat m) (UInt32.ofNat n) = some (UInt32.ofNat (m + n)) := by
  have hm : (UInt32.ofNat m).toNat = m := toNat_ofNat (by omega)
  have hn : (UInt32.ofNat n).toNat = n := toNat_ofNat (by omega)
  rw [sum?, hm, hn, if_pos h, UInt32.ofNat_add]

theorem difference?_ofNat {b : UInt32} {n : Nat} (h : n ≤ b.toNat) :
    difference? b (UInt32.ofNat n) = some (b - UInt32.ofNat n) := by
  have hlt := b.toNat_lt
  have hn : (UInt32.ofNat n).toNat = n := toNat_ofNat (by omega)
  rw [difference?, if_pos]
  rw [UInt32.le_iff_toNat_le, hn]
  exact h

@[simp] theorem toNat_min (a b : UInt32) : (min a b).toNat = min a.toNat b.toNat := by
  rw [show min a b = if a ≤ b then a else b from rfl]
  split
  case isTrue hle => exact (Nat.min_eq_left (UInt32.le_iff_toNat_le.1 hle)).symm
  case isFalse hlt =>
    rw [UInt32.le_iff_toNat_le] at hlt
    omega

theorem min_ofNat {n : Nat} (h : n ≤ 4294967295) (b : UInt32) :
    min (UInt32.ofNat n) b = UInt32.ofNat (min n b.toNat) := by
  rw [← UInt32.toNat_inj, toNat_min, toNat_ofNat h, toNat_ofNat (by omega)]

end TileEvents.Word

namespace TileEvents.Purse

/-- A share on words alone. -/
def shareOnWords? (amount members slot : UInt32) : Option UInt32 :=
  Word.sum? (amount / members) (if slot < amount % members then 1 else 0)

/-- The first round on words alone: the first balance stands at `slot`, and `removed` has been taken
before. -/
def takeSharesOnWords? (amount members : UInt32) :
    UInt32 → UInt32 → List UInt32 → Option (List UInt32 × UInt32)
  | _, removed, [] => some ([], removed)
  | slot, removed, b :: bs => do
    let share ← shareOnWords? amount members slot
    let left ← Word.difference? b (min share b)
    let removed ← Word.sum? removed (min share b)
    let slot ← Word.sum? slot 1
    let (rest, removed) ← takeSharesOnWords? amount members slot removed bs
    some (left :: rest, removed)

/-- The second round on words alone, which stops as soon as nothing is missing. -/
def sweepOnWords? (amount : UInt32) : UInt32 → List UInt32 → Option (List UInt32 × UInt32)
  | removed, [] => some ([], removed)
  | removed, b :: bs =>
    if removed = amount then some (b :: bs, removed)
    else do
      let missing ← Word.difference? amount removed
      let left ← Word.difference? b (min missing b)
      let removed ← Word.sum? removed (min missing b)
      let (rest, removed) ← sweepOnWords? amount removed bs
      some (left :: rest, removed)

/-- **Both rounds on words alone.**  Only the sum of the balances, which may be too large for a word,
stops at the largest one; every other sum and difference has to fit, or there is no result. -/
def takeOutOnWords? (bs : List UInt32) (amount : UInt32) : Option (List UInt32 × UInt32) :=
  let due := min amount (bs.foldl Word.add32 0)
  let members := UInt32.ofNat bs.length
  if members = 0 ∨ due = 0 then some (bs, 0)
  else do
    let (afterShares, removed) ← takeSharesOnWords? due members 0 0 bs
    sweepOnWords? due removed afterShares

theorem shareOnWords?_eq (amount members : UInt32) (hmembers : 0 < members.toNat) {slot : Nat}
    (hslot : slot ≤ 4294967295) :
    shareOnWords? amount members (UInt32.ofNat slot)
      = some (UInt32.ofNat (share amount.toNat members.toNat slot)) := by
  have hle := share_le hmembers amount.toNat slot
  have hlt := amount.toNat_lt
  have hquotient : amount / members = UInt32.ofNat (amount.toNat / members.toNat) := by
    rw [← UInt32.toNat_div, UInt32.ofNat_toNat]
  have hone : (if UInt32.ofNat slot < amount % members then 1 else 0 : UInt32)
      = UInt32.ofNat (if slot < amount.toNat % members.toNat then 1 else 0) := by
    simp only [UInt32.lt_iff_toNat_lt, UInt32.toNat_mod, Word.toNat_ofNat hslot]
    split <;> rfl
  unfold shareOnWords?
  rw [hquotient, hone]
  exact Word.sum?_ofNat (by unfold share at hle; omega)

/-- The first round fits on words. -/
theorem takeSharesOnWords?_eq (amount members : UInt32) (hmembers : 0 < members.toNat)
    (bs : List UInt32) : ∀ slot removed : Nat, slot + bs.length ≤ 4294967295 →
      removed + (takeShares amount.toNat members.toNat slot bs).2 ≤ 4294967295 →
      takeSharesOnWords? amount members (UInt32.ofNat slot) (UInt32.ofNat removed) bs
        = some ((takeShares amount.toNat members.toNat slot bs).1,
            UInt32.ofNat (removed + (takeShares amount.toNat members.toNat slot bs).2)) := by
  induction bs with
  | nil => exact fun _ _ _ _ => rfl
  | cons b bs ih =>
      intro slot removed hslot hremoved
      have hle := share_le hmembers amount.toNat slot
      have hlt := amount.toNat_lt
      rw [List.length_cons] at hslot
      simp only [takeShares] at hremoved ⊢
      have htaken := Word.min_ofNat (n := share amount.toNat members.toNat slot) (by omega) b
      have hleft := Word.difference?_ofNat
        (Nat.min_le_right (share amount.toNat members.toNat slot) b.toNat)
      have hsum := Word.sum?_ofNat (m := removed)
        (n := min (share amount.toNat members.toNat slot) b.toNat) (by omega)
      have hnext : Word.sum? (UInt32.ofNat slot) 1 = some (UInt32.ofNat (slot + 1)) :=
        Word.sum?_ofNat (n := 1) (by omega)
      have hrest := ih (slot + 1) (removed + min (share amount.toNat members.toNat slot) b.toNat)
        (by omega) (by omega)
      simp only [takeSharesOnWords?, shareOnWords?_eq amount members hmembers
        (show slot ≤ 4294967295 by omega), htaken, hleft, hsum, hnext, hrest, Option.bind_eq_bind,
        Option.bind_some, Nat.add_assoc]

/-- The second round fits on words. -/
theorem sweepOnWords?_eq (amount : UInt32) (bs : List UInt32) : ∀ removed : Nat,
    removed ≤ amount.toNat →
      sweepOnWords? amount (UInt32.ofNat removed) bs
        = some ((sweep (amount.toNat - removed) bs).1,
            UInt32.ofNat (removed + (sweep (amount.toNat - removed) bs).2)) := by
  have hlt := amount.toNat_lt
  induction bs with
  | nil => exact fun _ _ => rfl
  | cons b bs ih =>
      intro removed hremoved
      have hword : (UInt32.ofNat removed).toNat = removed := Word.toNat_ofNat (by omega)
      unfold sweepOnWords?
      split
      case isTrue heq =>
        rw [← hword, heq, Nat.sub_self, sweep_zero, Nat.add_zero, UInt32.ofNat_toNat]
      case isFalse hne =>
        have hmissing : Word.difference? amount (UInt32.ofNat removed)
            = some (UInt32.ofNat (amount.toNat - removed)) := by
          rw [Word.difference?_ofNat hremoved, ← toNat_sub_ofNat hremoved, UInt32.ofNat_toNat]
        have htaken := Word.min_ofNat (n := amount.toNat - removed) (by omega) b
        have hleft := Word.difference?_ofNat (Nat.min_le_right (amount.toNat - removed) b.toNat)
        have hsum := Word.sum?_ofNat (m := removed) (n := min (amount.toNat - removed) b.toNat)
          (by omega)
        have hrest := ih (removed + min (amount.toNat - removed) b.toNat) (by omega)
        simp only [hmissing, htaken, hleft, hsum, hrest, Option.bind_eq_bind, Option.bind_some,
          sweep, Nat.add_assoc, Nat.sub_add_eq]

/-- The sum that stops at the largest word is the sum, or the largest word. -/
theorem toNat_foldl_add32 (bs : List UInt32) (a : UInt32) :
    (bs.foldl Word.add32 a).toNat = min (a.toNat + total bs) 4294967295 := by
  induction bs generalizing a with
  | nil =>
      have hlt := a.toNat_lt
      show a.toNat = min (a.toNat + 0) 4294967295
      omega
  | cons b bs ih =>
      rw [List.foldl_cons, ih, Word.toNat_add32, total_cons]
      omega

/-- **Both rounds fit on words**, also where the sum of the balances does not. -/
theorem takeOutOnWords?_eq {bs : List UInt32} (h : bs.length ≤ 4294967295) (amount : UInt32) :
    takeOutOnWords? bs amount = some (takeOut bs amount) := by
  have hlt := amount.toNat_lt
  have hmembers : (UInt32.ofNat bs.length).toNat = bs.length := Word.toNat_ofNat h
  have hdue : (min amount (bs.foldl Word.add32 0)).toNat = due bs amount := by
    rw [Word.toNat_min, toNat_foldl_add32, due, UInt32.toNat_zero, Nat.zero_add]
    omega
  unfold takeOutOnWords?
  generalize min amount (bs.foldl Word.add32 0) = d at hdue ⊢
  dsimp only
  split
  case isTrue hnothing =>
    have hzero : due bs amount = 0 := by
      rcases hnothing with hnobody | hnothing
      · rw [hnobody] at hmembers
        rw [List.length_eq_zero_iff.1 hmembers.symm]
        exact Nat.min_zero _
      · rw [← hdue, hnothing]
        rfl
    rw [takeOut_of_due_zero hzero]
  case isFalse hsomething =>
    have hpos : 0 < (UInt32.ofNat bs.length).toNat := by
      refine Nat.pos_of_ne_zero fun hzero => hsomething (.inl ?_)
      exact UInt32.toNat_inj.1 hzero
    have hpaid : paid bs amount ≤ due bs amount := paid_le_due bs amount
    have hle : due bs amount ≤ amount.toNat := Nat.min_le_left _ _
    have hfirst := takeSharesOnWords?_eq d _ hpos bs 0 0
    have hsecond := sweepOnWords?_eq d (afterShares bs amount) (paid bs amount)
    rw [hdue, hmembers, Nat.zero_add, Nat.zero_add] at hfirst
    rw [hdue] at hsecond
    have hfirst := hfirst h (Nat.le_trans hpaid (by omega))
    rw [show (0 : UInt32) = UInt32.ofNat 0 from rfl, hfirst]
    exact hsecond hpaid

/-! ## §7. What is taken, and from whom. -/

/-- **A sum is taken exactly.**  From a party of no more members than a word can count, what is taken
is the sum or all there is, also where there is more than a word can hold.  No balance rises,
together they fall by what is taken, and on words alone nothing wraps.  If everyone has the share of
what is taken, everyone pays just that.  In any case everyone pays the share as far as the balance
reaches, and whoever pays beyond that stands behind members who have nothing left. -/
theorem takeOut_exact (bs : List UInt32) (amount : UInt32) (h : bs.length ≤ 4294967295) :
    (takeOut bs amount).2.toNat = min amount.toNat (total bs)
      ∧ takeOutOnWords? bs amount = some (takeOut bs amount)
      ∧ let taken := min amount.toNat (total bs)
        let after := (takeOut bs amount).1
        let first (i : Nat) := min (share taken bs.length i) (held bs i)
        after.length = bs.length
          ∧ (∀ i, held after i ≤ held bs i)
          ∧ total after + taken = total bs
          ∧ ((∀ i < bs.length, share taken bs.length i ≤ held bs i) →
              ∀ i < bs.length, held after i + share taken bs.length i = held bs i)
          ∧ (∀ i, held after i + first i ≤ held bs i)
          ∧ ∀ i j, i < j → held after j + first j < held bs j → held after i = 0 := by
  refine ⟨takeOut_taken bs amount, takeOutOnWords?_eq h amount, ?_⟩
  intro taken after first
  have hfirst (i : Nat) : held (afterShares bs amount) i + first i = held bs i := by
    have hle : first i ≤ held bs i := Nat.min_le_right _ _
    rw [held_afterShares]
    exact Nat.sub_add_cancel hle
  have hpays (i : Nat) : held after i + first i ≤ held bs i := by
    rw [← hfirst i]
    exact Nat.add_le_add_right (held_takeOut_le_afterShares bs amount i) _
  refine ⟨length_takeOut bs amount, ?_, total_takeOut bs amount, ?_, hpays, ?_⟩
  · intro i
    exact Nat.le_trans (Nat.le_add_right _ _) (hpays i)
  · intro hshares i hi
    have hshare : first i = share taken bs.length i := Nat.min_eq_left (hshares i hi)
    rw [← hshare, ← hfirst i, show after = afterShares bs amount from takeOut_of_shares hshares]
  · intro i j hij hbeyond
    -- what is paid beyond the first round is paid in the second
    have hswept : held after j < held (afterShares bs amount) j := by
      have heq := hfirst j
      omega
    exact sweep_earliest hij hswept

/-- Three members have more than a word can hold, two of them less than their share: what they lack
is taken from the first. -/
theorem takeOut_exact_beyond_a_word :
    let bs : List UInt32 := [4294967295, 10, 0]
    bs.length ≤ 4294967295 ∧ total bs = 4294967305
      ∧ (takeOut bs 4294967295).2.toNat = 4294967295
      ∧ total (takeOut bs 4294967295).1 + 4294967295 = total bs
      ∧ takeOutOnWords? bs 4294967295 = some (takeOut bs 4294967295)
      ∧ takeOut bs 4294967295 = ([10, 0, 0], 4294967295) := by
  intro bs
  obtain ⟨htaken, hwords, -, -, htotal, -⟩ := takeOut_exact bs 4294967295 (by decide)
  exact ⟨by decide, by decide, htaken, htotal, hwords, by decide⟩

end TileEvents.Purse
