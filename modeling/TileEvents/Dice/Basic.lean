/-
  TileEvents.Dice.Basic
  ─────────────────────
  **DICE.**

  A game throws seeded dice or plays back a script of values.  A throw asks
  for a number between two bounds, both included; without room between them
  the lower bound is the answer.
-/
import TileEvents.Dice.ChaCha

namespace TileEvents

/-- Where the dice stand. -/
inductive Dice where
  | seeded (stream : ChaCha.Stream)
  /-- Values played back from the first to the last and then again, with the number of throws so
  far. -/
  | scripted (values : Array UInt32) (thrown : Nat)
  deriving DecidableEq

namespace Dice

/-! ## §1. Throws. -/

/-- Dice with a seed. -/
def ofSeed (seed : UInt64) : Dice := .seeded (.ofSeed seed)

/-- Dice that play back `values`. -/
def ofScript (values : List UInt32) : Dice := .scripted values.toArray 0

/-- A number below `range`, or any word if `range` is zero, from a stream: the high half of word
times range, with a carry from the next word where the low half leaves one in doubt. -/
def below (range : UInt32) (stream : ChaCha.Stream) : UInt32 × ChaCha.Stream :=
  let (word, stream) := stream.next
  if range == 0 then (word, stream)
  else
    let product := word.toNat * range.toNat
    let high := product / 4294967296
    let low := product % 4294967296
    if 4294967296 - range.toNat < low then
      let (word', stream) := stream.next
      let carry := if 4294967296 ≤ low + word'.toNat * range.toNat / 4294967296 then 1 else 0
      (UInt32.ofNat (high + carry), stream)
    else (UInt32.ofNat high, stream)

/-- The value nearest to `v` from `lo` to `hi`. -/
def clampTo (lo hi v : UInt32) : UInt32 := if v < lo then lo else if hi < v then hi else v

/-- **A throw between `lo` and `hi`.** -/
def between (lo hi : UInt32) : Dice → UInt32 × Dice
  | seeded stream =>
    if hi ≤ lo then (lo, seeded stream)
    else
      let (offset, stream) := below (hi - lo + 1) stream
      (lo + offset, seeded stream)
  | scripted values thrown =>
    if values.isEmpty then (lo, scripted values thrown)
    else
      let hi := if hi < lo then lo else hi
      (clampTo lo hi (values.getD (thrown % values.size) 0), scripted values (thrown + 1))

/-- A percentile throw: 0 to 99. -/
def percentile (d : Dice) : UInt32 × Dice := d.between 0 99

end Dice

end TileEvents
