/-
  TileEvents.Dice.ChaCha
  ──────────────────────
  **A SEEDED STREAM OF WORDS.**

  The words come from the ChaCha block function with twelve rounds, a 64-bit
  block counter and an empty nonce.  A 64-bit seed is stretched to the eight
  key words by a linear congruential state whose output is permuted by a shift
  and a rotation.  The stream is a function of the key and the position, so a
  stream is no more than a key and how many words were drawn.
-/

namespace TileEvents.ChaCha

/-! ## §1. The key. -/

/-- The successor of the stretching state. -/
def nextState (s : UInt64) : UInt64 := s * 6364136223846793005 + 11634580027462260723

/-- `x` rotated left by `n` bits, for `n` from 1 to 31. -/
def rotateLeft (x n : UInt32) : UInt32 := (x <<< n) ||| (x >>> (32 - n))

/-- `x` rotated right by `n` bits. -/
def rotateRight (x n : UInt32) : UInt32 :=
  if n % 32 == 0 then x else rotateLeft x (32 - n % 32)

/-- The word that a stretching state gives. -/
def stateWord (s : UInt64) : UInt32 :=
  rotateRight (((s >>> 18) ^^^ s) >>> 27).toUInt32 (s >>> 59).toUInt32

/-- The next `n` words from a stretching state. -/
def stretch : Nat → UInt64 → List UInt32
  | 0, _ => []
  | n + 1, s => stateWord (nextState s) :: stretch n (nextState s)

/-- The eight key words of a seed. -/
def keyOfSeed (seed : UInt64) : List UInt32 := stretch 8 seed

/-! ## §2. The block function. -/

/-- The sixteen words a block is computed from. -/
def initial (key : List UInt32) (counter : Nat) : Array UInt32 :=
  (([0x61707865, 0x3320646e, 0x79622d32, 0x6b206574] : List UInt32) ++ key
    ++ [UInt32.ofNat counter, UInt32.ofNat (counter / 4294967296), 0, 0]).toArray

/-- One quarter round on the words at four positions. -/
def quarterRound (w : Array UInt32) (i j k l : Nat) : Array UInt32 :=
  let a := w.getD i 0 + w.getD j 0
  let d := rotateLeft (w.getD l 0 ^^^ a) 16
  let c := w.getD k 0 + d
  let b := rotateLeft (w.getD j 0 ^^^ c) 12
  let a := a + b
  let d := rotateLeft (d ^^^ a) 8
  let c := c + d
  let b := rotateLeft (b ^^^ c) 7
  (((w.setIfInBounds i a).setIfInBounds j b).setIfInBounds k c).setIfInBounds l d

/-- One round on the columns and one on the diagonals. -/
def doubleRound (w : Array UInt32) : Array UInt32 :=
  let w := quarterRound w 0 4 8 12
  let w := quarterRound w 1 5 9 13
  let w := quarterRound w 2 6 10 14
  let w := quarterRound w 3 7 11 15
  let w := quarterRound w 0 5 10 15
  let w := quarterRound w 1 6 11 12
  let w := quarterRound w 2 7 8 13
  quarterRound w 3 4 9 14

/-- The block with this counter: twelve rounds, then the start added word by word. -/
def block (key : List UInt32) (counter : Nat) : Array UInt32 :=
  let start := initial key counter
  Array.zipWith (· + ·) (Nat.repeat doubleRound 6 start) start

/-! ## §3. The stream. -/

/-- A key and how many words were drawn with it. -/
structure Stream where
  key : List UInt32
  drawn : Nat
  deriving DecidableEq

/-- The stream of a seed. -/
def Stream.ofSeed (seed : UInt64) : Stream := ⟨keyOfSeed seed, 0⟩

/-- The next word and the stream after it. -/
def Stream.next (s : Stream) : UInt32 × Stream :=
  ((block s.key (s.drawn / 16)).getD (s.drawn % 16) 0, { s with drawn := s.drawn + 1 })

end TileEvents.ChaCha
