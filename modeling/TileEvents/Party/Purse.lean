/-
  TileEvents.Party.Purse
  ──────────────────────
  **SHARING A SUM AMONG THE PARTY.**

  Gold and food are taken from and paid to the whole party.  Of `n` members
  the one at position i has the share

      amount / n  +  (1  if  i < amount % n)

  so the shares differ by at most one and the remainder goes to the first.
  Paying in adds to every balance its share.  Taking out first takes from
  every balance its share as far as it reaches, then takes what is still
  missing from the first members that have something left.  All amounts are
  counted exactly; only a balance that would leave its range is clamped.
-/
import TileEvents.Word
import TileEvents.Word.Total

namespace TileEvents.Purse

/-! ## §1. Shares. -/

/-- The share of the member at `position` in `amount` among `members`. -/
def share (amount members position : Nat) : Nat :=
  amount / members + if position < amount % members then 1 else 0

/-- The exact sum of the balances. -/
def total (balances : List UInt32) : Nat := Word.total (balances.map UInt32.toNat)

/-! ## §2. Taking out. -/

/-- Take its share of `amount` from every balance as far as it reaches, the first balance
standing at `position`; also the sum of what was taken. -/
def takeShares (amount members : Nat) : Nat → List UInt32 → List UInt32 × Nat
  | _, [] => ([], 0)
  | position, b :: bs =>
    let taken := min (share amount members position) b.toNat
    let (rest, sum) := takeShares amount members (position + 1) bs
    ((b - UInt32.ofNat taken) :: rest, taken + sum)

/-- Take `missing` from the first balances that have something left. -/
def sweep : Nat → List UInt32 → List UInt32 × Nat
  | _, [] => ([], 0)
  | missing, b :: bs =>
    let taken := min missing b.toNat
    let (rest, sum) := sweep (missing - taken) bs
    ((b - UInt32.ofNat taken) :: rest, taken + sum)

/-- **Take `amount` from the party**, or all there is; also what was really taken. -/
def takeOut (balances : List UInt32) (amount : UInt32) : List UInt32 × UInt32 :=
  let due := min amount.toNat (total balances)
  let (afterShares, paid) := takeShares due balances.length 0 balances
  let (afterSweep, swept) := sweep (due - paid) afterShares
  (afterSweep, UInt32.ofNat (paid + swept))

/-! ## §3. Paying in. -/

/-- Add its share of `amount` to every balance, the first standing at `position`. -/
def addShares (amount members : Nat) : Nat → List UInt32 → List UInt32
  | _, [] => []
  | position, b :: bs =>
    Word.clamp32 (b.toNat + share amount members position)
      :: addShares amount members (position + 1) bs

/-- **Pay `amount` to the party.** -/
def payIn (balances : List UInt32) (amount : UInt32) : List UInt32 :=
  addShares amount.toNat balances.length 0 balances

/-! ## §4. Lengths. -/

@[simp] theorem length_takeShares (amount members position : Nat) (bs : List UInt32) :
    (takeShares amount members position bs).1.length = bs.length := by
  induction bs generalizing position with
  | nil => rfl
  | cons b bs ih => simp [takeShares, ih]

@[simp] theorem length_sweep (missing : Nat) (bs : List UInt32) :
    (sweep missing bs).1.length = bs.length := by
  induction bs generalizing missing with
  | nil => rfl
  | cons b bs ih => simp [sweep, ih]

@[simp] theorem length_takeOut (bs : List UInt32) (amount : UInt32) :
    (takeOut bs amount).1.length = bs.length := by
  simp [takeOut]

@[simp] theorem length_addShares (amount members position : Nat) (bs : List UInt32) :
    (addShares amount members position bs).length = bs.length := by
  induction bs generalizing position with
  | nil => rfl
  | cons b bs ih => simp [addShares, ih]

@[simp] theorem length_payIn (bs : List UInt32) (amount : UInt32) :
    (payIn bs amount).length = bs.length := by
  simp [payIn]

end TileEvents.Purse
