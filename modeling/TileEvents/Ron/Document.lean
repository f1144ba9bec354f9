/-
  TileEvents.Ron.Document
  ───────────────────────
  **DOCUMENTS AND THE DECODING OF THEIR VALUES.**

  A document is one value, with switches before it that relax or tighten how
  it is decoded.  A decoder takes a value to what it stands for, or to nothing
  when it does not have the right shape.  Records are decoded field by field:
  the order of the fields does not matter, fields that are not known are
  passed over, and a known field may not stand twice.
-/
import TileEvents.Ron.Glance
import TileEvents.Ron.Value

namespace TileEvents.Ron

/-! ## §1. Documents. -/

/-- A document. -/
structure Document where
  dialect : Dialect
  value : Value

/-- The dialect with a switch turned on; one of the switches concerns records with a single field
without a name, which the formats here do not have. -/
def Dialect.enable? (d : Dialect) : List Tree → Option Dialect
  | [.leaf (.word "implicit_some")] => some { d with implicitSome := true }
  | [.leaf (.word "explicit_struct_names")] => some { d with explicitNames := true }
  | [.leaf (.word "unwrap_newtypes")] => some d
  | [.leaf (.word "unwrap_variant_newtypes")] => some { d with sharedBrackets := true }
  | _ => none

/-- The dialect with the switches of one attribute turned on; an attribute without any is refused. -/
def Dialect.enableAll? (d : Dialect) (inside : List Tree) : Option Dialect :=
  match items? inside with
  | none | some [] => none
  | some (i :: is) => (i :: is).foldlM Dialect.enable? d

/-- The dialect after the attributes at the head of `ts`, and the trees behind them. -/
def readAttributes? (d : Dialect) : List Tree → Option (Dialect × List Tree)
  | .leaf .hash :: .leaf .bang
      :: .group .square [.leaf (.word "enable"), .group .round inside] :: rest =>
    match d.enableAll? inside with
    | some d => readAttributes? d rest
    | none => none
  | ts => some (d, ts)

/-- **The document that a text is.** -/
def Document.read? (text : String) : Option Document := do
  let tokens ← scan text.toList
  let trees ← forest? tokens
  let (dialect, trees) ← readAttributes? .plain trees
  let value ← Value.ofTrees? dialect Value.maxLevels trees
  if Value.maxLevels < value.levels then none
  else if dialect.sharedBrackets && !glancesHold text.toList then none
  else some ⟨dialect, value⟩

/-! ## §2. Values of single things. -/

namespace Value

/-- A number as a value. -/
def nat (n : Nat) : Value := .number (.integer n none)

/-- An 8-bit word as a value. -/
def word8 (w : UInt8) : Value := .nat w.toNat

/-- A 16-bit word as a value. -/
def word16 (w : UInt16) : Value := .nat w.toNat

/-- A 32-bit word as a value. -/
def word32 (w : UInt32) : Value := .nat w.toNat

/-- A 64-bit word as a value. -/
def word64 (w : UInt64) : Value := .nat w.toNat

/-- A truth value as a value. -/
def flag (b : Bool) : Value := .word (if b then "true" else "false")

/-- An optional value. -/
def optional {α : Type} (value : α → Value) : Option α → Value
  | none => .word "None"
  | some a => .given (value a)

end Value

/-! ## §3. Decoders of single values. -/

/-- What a value stands for in a dialect. -/
abbrev Decoder (α : Type) := Dialect → Value → Option α

namespace Decode

/-- A number of a width. -/
def whole (w : Width) : Decoder Nat
  | _, .number n => (n.valueWithin? w).map Int.toNat
  | _, _ => none

/-- An 8-bit word. -/
def word8 : Decoder UInt8 := fun d v => (whole (.unsigned 8) d v).map UInt8.ofNat

/-- A 16-bit word. -/
def word16 : Decoder UInt16 := fun d v => (whole (.unsigned 16) d v).map UInt16.ofNat

/-- A 32-bit word. -/
def word32 : Decoder UInt32 := fun d v => (whole (.unsigned 32) d v).map UInt32.ofNat

/-- A 64-bit word. -/
def word64 : Decoder UInt64 := fun d v => (whole (.unsigned 64) d v).map UInt64.ofNat

/-- A truth value. -/
def flag : Decoder Bool
  | _, .word "true" => some true
  | _, .word "false" => some false
  | _, _ => none

/-- A text. -/
def text : Decoder String
  | _, .text s => some s
  | _, _ => none

/-- An optional value. -/
def optional {α : Type} (decode : Decoder α) : Decoder (Option α)
  | _, .word "None" => some none
  | d, .given v => (decode d v).map some
  | d, v => if d.implicitSome then (decode d v).map some else none

/-- A list. -/
def list {α : Type} (decode : Decoder α) : Decoder (List α)
  | d, .list items => items.mapM (decode d)
  | _, _ => none

/-- A pair. -/
def pair {α β : Type} (first : Decoder α) (second : Decoder β) : Decoder (α × β)
  | d, .tuple none [a, b] =>
    match first d a, second d b with
    | some a, some b => some (a, b)
    | _, _ => none
  | _, _ => none

/-! ## §4. Records. -/

/-- The fields of a record. -/
abbrev Fields := List (String × Value)

/-- Whether a record may carry this name, or none, where it is called `expected`. -/
def nameFits (d : Dialect) (expected : String) : Option String → Bool
  | none => !d.explicitNames
  | some name => name == expected

/-- Whether the fields that are not known can be passed over. -/
def othersPassable (known : List String) (fs : Fields) : Bool :=
  fs.all fun f => known.contains f.1 || f.2.isPassable

/-- The fields of a record; brackets with nothing between them are a record without fields. -/
def fields (expected : String) (known : List String) : Decoder Fields
  | d, .record name fs =>
    if nameFits d expected name && othersPassable known fs then some fs else none
  | d, .tuple name [] => if nameFits d expected name then some [] else none
  | d, .unit => if nameFits d expected none then some [] else none
  | _, _ => none

/-- The fields of a named choice with its name. -/
def choice (known : String → List String) : Decoder (String × Fields)
  | _, .record (some name) fs => if othersPassable (known name) fs then some (name, fs) else none
  | _, .tuple (some name) [] => some (name, [])
  | _, _ => none

/-- The values of every field of this name. -/
def valuesOf (name : String) (fs : Fields) : List Value :=
  (fs.filter fun f => f.1 == name).map Prod.snd

/-- A field that has to be there. -/
def required {α : Type} (d : Dialect) (fs : Fields) (name : String) (decode : Decoder α) :
    Option α :=
  match valuesOf name fs with
  | [v] => decode d v
  | _ => none

/-- A field with a value for when it is missing. -/
def defaulted {α : Type} (d : Dialect) (fs : Fields) (name : String) (missing : α)
    (decode : Decoder α) : Option α :=
  match valuesOf name fs with
  | [] => some missing
  | [v] => decode d v
  | _ => none

end Decode

end TileEvents.Ron
