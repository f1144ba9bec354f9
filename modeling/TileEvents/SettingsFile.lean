/-
  TileEvents.SettingsFile
  ───────────────────────
  **THE TUNING OF A GAME IN A FILE.**

  A settings file names the values that differ from the built-in ones; keys it
  should not have are passed over.  A file that is missing, that is no
  settings file or that has a value of the wrong kind counts as no file, and
  so does one that would let walks visit no node at all.
-/
import TileEvents.Disk.Basic
import TileEvents.Settings
import TileEvents.Toml.Document

namespace TileEvents

open Toml

/-! ## §1. Values. -/

/-- A text, or `missing` if the key is. -/
def textOr (missing : String) : Option Value → Option String
  | none => some missing
  | some (.text s) => some s
  | some _ => none

/-- A number from zero to `bound`. -/
def natUpTo? (bound : Nat) : Value → Option Nat
  | .integer n => if 0 ≤ n ∧ n ≤ bound then some n.toNat else none
  | _ => none

/-- A number from zero to `bound`, or `missing` if the key is. -/
def natOr (bound missing : Nat) : Option Value → Option Nat
  | none => some missing
  | some v => natUpTo? bound v

/-- A number from zero to `bound`, or nothing if the key is missing. -/
def natIfAny (bound : Nat) : Option Value → Option (Option Nat)
  | none => some none
  | some v => (natUpTo? bound v).map some

/-! ## §2. Settings. -/

/-- The messages, from the values of their fields. -/
def Messages.ofValues? (spinner trap search place : Option Value) : Option Messages := do
  let spinnerSeen ← textOr Messages.builtin.spinnerSeen spinner
  let trapSeen ← textOr Messages.builtin.trapSeen trap
  let searchFailed ← textOr Messages.builtin.searchFailed search
  let placeRefused ← textOr Messages.builtin.placeRefused place
  some { spinnerSeen, trapSeen, searchFailed, placeRefused }

/-- The messages of a table, or of a list that gives them in order; a moment counts as a table without
any of them. -/
def Messages.ofValue? : Option Value → Option Messages
  | none => some .builtin
  | some (.table _ t) =>
    ofValues? (Table.find? t "spinner_seen") (Table.find? t "trap_seen")
      (Table.find? t "search_failed") (Table.find? t "place_refused")
  | some (.list items) => ofValues? items[0]? items[1]? items[2]? items[3]?
  | some .moment => some .builtin
  | some _ => none

/-- The settings of a table. -/
def Settings.ofTable? (t : Table) : Option Settings := do
  let goldWeight ← natOr 4294967295 Settings.builtin.goldWeight.toNat (t.find? "gold_weight")
  let foodWeight ← natOr 4294967295 Settings.builtin.foodWeight.toNat (t.find? "food_weight")
  let searchingSkill ←
    natOr 18446744073709551615 Settings.builtin.searchingSkill (t.find? "searching_skill")
  let maxChainSteps ←
    natOr 18446744073709551615 Settings.builtin.maxChainSteps (t.find? "max_chain_steps")
  let seed ← natIfAny 18446744073709551615 (t.find? "rng_seed")
  let messages ← Messages.ofValue? (t.find? "messages")
  if maxChainSteps = 0 then none
  else
    some { goldWeight := UInt32.ofNat goldWeight, foodWeight := UInt32.ofNat foodWeight
           searchingSkill, maxChainSteps, seed := seed.map UInt64.ofNat, messages }

/-- **The settings of a file**, whose text is given as the disk gave it. -/
def Settings.load : Except DiskError String → Settings
  | .ok text => ((Toml.read? text).bind Settings.ofTable?).getD .builtin
  | .error _ => .builtin

end TileEvents
