/-
  TileEvents.Ron.Value
  ────────────────────
  **THE VALUES OF DOCUMENTS.**

  The brackets of a document make its tokens a forest of trees.  Within a pair
  of brackets commas separate items, and one comma may stand behind the last.
  An item is a value:

      word  12  "text"  'c'  ()      alone
      Some(a)                        a value that is given, where there may be none
      [a, b]                         a list
      (a, b)   name(a, b)            a tuple
      (f: a)   name(f: a)            a record
      {k: a}                         a table

  Reading goes from tokens to trees to values and writing goes back, so each
  step can be undone on its own.  How a value may be written depends on the
  switches of its document, and how deep it may nest is counted in levels.
-/
import TileEvents.Ron.Token

namespace TileEvents.Ron

/-! ## §1. Trees. -/

/-- A token, or what stands between brackets. -/
inductive Tree where
  | leaf (l : Leaf)
  | group (b : Bracket) (inside : List Tree)

/-- The trees of tokens; the stack holds the brackets that are open, each with the trees before it, and
`done` the trees since the last of them, in reverse. -/
def forestWithin? : List (Bracket × List Tree) → List Tree → List Token → Option (List Tree)
  | [], done, [] => some done.reverse
  | _ :: _, _, [] => none
  | stack, done, .leaf l :: ts => forestWithin? stack (.leaf l :: done) ts
  | stack, done, .opening b :: ts => forestWithin? ((b, done) :: stack) [] ts
  | [], _, .closing _ :: _ => none
  | (b, before) :: stack, done, .closing b' :: ts =>
    if b = b' then forestWithin? stack (.group b done.reverse :: before) ts else none

/-- **The trees of tokens**, if every bracket has its partner. -/
def forest? (ts : List Token) : Option (List Tree) := forestWithin? [] [] ts

mutual

/-- The tokens of a tree. -/
def Tree.tokens : Tree → List Token
  | .leaf l => [.leaf l]
  | .group b inside => .opening b :: treesTokens inside ++ [.closing b]

/-- The tokens of trees. -/
def treesTokens : List Tree → List Token
  | [] => []
  | t :: ts => t.tokens ++ treesTokens ts

end

/-! ## §2. Items. -/

/-- Trees cut at their commas. -/
def cutAtCommas : List Tree → List (List Tree)
  | [] => [[]]
  | .leaf .comma :: ts => [] :: cutAtCommas ts
  | t :: ts =>
    match cutAtCommas ts with
    | [] => [[t]]
    | item :: items => (t :: item) :: items

/-- The items before the last, and the last unless it is nothing. -/
def dropLastEmpty : List (List Tree) → List (List Tree)
  | [] => []
  | [last] => if last.isEmpty then [] else [last]
  | item :: items => item :: dropLastEmpty items

/-- The items between brackets; none may be empty. -/
def items? (ts : List Tree) : Option (List (List Tree)) :=
  let items := dropLastEmpty (cutAtCommas ts)
  if items.any List.isEmpty then none else some items

/-- Items with commas between them. -/
def joinWithCommas : List (List Tree) → List Tree
  | [] => []
  | [item] => item
  | item :: items => item ++ .leaf .comma :: joinWithCommas items

/-- Trees cut at the first colon. -/
def cutAtColon? : List Tree → Option (List Tree × List Tree)
  | [] => none
  | .leaf .colon :: ts => some ([], ts)
  | t :: ts => (cutAtColon? ts).map fun (before, behind) => (t :: before, behind)

/-! ## §3. Values. -/

/-- The switches of a document. -/
structure Dialect where
  /-- Whether a value that is given may be written without the brackets of Some, or without Some. -/
  implicitSome : Bool
  /-- Whether the brackets of Some may be those of the unit, tuple or record that is given. -/
  sharedBrackets : Bool
  /-- Whether a record needs its name. -/
  explicitNames : Bool
  deriving DecidableEq

/-- A document without switches. -/
def Dialect.plain : Dialect := ⟨false, false, false⟩

/-- A value. -/
inductive Value where
  | unit
  | word (name : String)
  | number (n : Numeral)
  | text (s : String)
  | character (c : Char)
  | bytes (bs : List UInt8)
  /-- What Some says is there. -/
  | given (v : Value)
  | list (items : List Value)
  | tuple (name : Option String) (items : List Value)
  | record (name : Option String) (fields : List (String × Value))
  | table (entries : List (Value × Value))

instance : Inhabited Value := ⟨.unit⟩

namespace Value

/-- The value that is a single token; Some is none by itself. -/
def ofLeaf? : Leaf → Option Value
  | .unit => some .unit
  | .word name => if name = "Some" then none else some (.word name)
  | .number n => some (.number n)
  | .text s => some (.text s)
  | .character c => some (.character c)
  | .bytes bs => some (.bytes bs)
  | _ => none

/-- Whether trees begin with a name and a colon. -/
def beginsField : List Tree → Bool
  | .leaf (.word _) :: .leaf .colon :: _ => true
  | _ => false

/-- A field: its name, a colon and its value, read by `read`. -/
def field? (read : List Tree → Option Value) : List Tree → Option (String × Value)
  | .leaf (.word name) :: .leaf .colon :: ts => (read ts).map (name, ·)
  | _ => none

/-- An entry of a table: a value, a colon and a value. -/
def keyed? (read : List Tree → Option Value) (ts : List Tree) : Option (Value × Value) :=
  match cutAtColon? ts with
  | none => none
  | some (key, value) =>
    match read key, read value with
    | some k, some v => some (k, v)
    | _, _ => none

/-- A tuple or a record by what stands between its brackets; if the first item is a field and another
has a key that is no name, it is a table. -/
def round? (read : List Tree → Option Value) (name : Option String) (inside : List Tree) :
    Option Value :=
  match items? inside with
  | none => none
  | some items =>
    if !beginsField inside then (items.mapM read).map (.tuple name)
    else if items.all beginsField then (items.mapM (field? read)).map (.record name)
    else (items.mapM (keyed? read)).map .table

/-- What the brackets of Some hold: one value, or what shares the brackets with it. -/
def given? (d : Dialect) (read : List Tree → Option Value) (inside : List Tree) : Option Value :=
  match round? read none inside with
  | some (.tuple _ [v]) => some (.given v)
  | some (.tuple _ []) => if d.sharedBrackets then some (.given .unit) else none
  | some v => if d.sharedBrackets then some (.given v) else none
  | none => none

/-- A tuple or a record by its name and what stands between its brackets; of the reserved words only
Some has brackets behind it. -/
def named? (d : Dialect) (read : List Tree → Option Value) (name : String) (inside : List Tree) :
    Option Value :=
  if name = "Some" then given? d read inside
  else if name ∈ reservedWords then none
  else round? read (some name) inside

/-- **The value that trees are**, nesting at most `depth` deep. -/
def ofTrees? (d : Dialect) : Nat → List Tree → Option Value
  | _, [.leaf l] => ofLeaf? l
  | depth + 1, [.leaf (.word name), .leaf .unit] => named? d (ofTrees? d depth) name []
  | depth + 1, [.leaf (.word name), .group .round inside] => named? d (ofTrees? d depth) name inside
  | depth + 1, .leaf (.word "Some") :: ts =>
    if d.implicitSome then (ofTrees? d depth ts).map .given else none
  | depth + 1, [.group .round inside] => round? (ofTrees? d depth) none inside
  | depth + 1, [.group .square inside] =>
    (items? inside).bind fun is => (is.mapM (ofTrees? d depth)).map .list
  | depth + 1, [.group .curly inside] =>
    (items? inside).bind fun is => (is.mapM (keyed? (ofTrees? d depth))).map .table
  | _, _ => none

/-! ## §4. Levels. -/

mutual

/-- **How many levels a value takes**: one for Some and for a pair of brackets, and one more for what
stands between those. -/
def levels : Value → Nat
  | given v => 1 + v.levels
  | list items => 1 + itemsLevels items
  | tuple _ items => 1 + itemsLevels items
  | record _ fields => 1 + fieldsLevels fields
  | table entries => 1 + entriesLevels entries
  | _ => 0

/-- The levels of items. -/
def itemsLevels : List Value → Nat
  | [] => 0
  | v :: vs => max (1 + v.levels) (itemsLevels vs)

/-- The levels of fields. -/
def fieldsLevels : List (String × Value) → Nat
  | [] => 0
  | (_, v) :: fs => max (1 + v.levels) (fieldsLevels fs)

/-- The levels of entries. -/
def entriesLevels : List (Value × Value) → Nat
  | [] => 0
  | (k, v) :: es => max (max (1 + k.levels) (1 + v.levels)) (entriesLevels es)

end

/-- How many levels a document may have. -/
def maxLevels : Nat := 128

/-! ## §5. Passing over values. -/

mutual

/-- **Whether a value that nobody asks for can be passed over**: the keys of its records are taken for
values, and Some by itself is none. -/
def isPassable : Value → Bool
  | given v => v.isPassable
  | list items => itemsPassable items
  | tuple _ items => itemsPassable items
  | record _ fields => fieldsPassable fields
  | table entries => entriesPassable entries
  | _ => true

/-- Whether items can be passed over. -/
def itemsPassable : List Value → Bool
  | [] => true
  | v :: vs => v.isPassable && itemsPassable vs

/-- Whether fields can be passed over. -/
def fieldsPassable : List (String × Value) → Bool
  | [] => true
  | (name, v) :: fs => name != "Some" && v.isPassable && fieldsPassable fs

/-- Whether entries can be passed over. -/
def entriesPassable : List (Value × Value) → Bool
  | [] => true
  | (k, v) :: es => k.isPassable && v.isPassable && entriesPassable es

end

/-! ## §6. Writing. -/

/-- The word before a bracket, if there is one. -/
def nameTrees : Option String → List Tree
  | none => []
  | some name => [.leaf (.word name)]

mutual

/-- **The trees of a value.** -/
def trees : Value → List Tree
  | unit => [.leaf .unit]
  | word name => [.leaf (.word name)]
  | number n => [.leaf (.number n)]
  | text s => [.leaf (.text s)]
  | character c => [.leaf (.character c)]
  | bytes bs => [.leaf (.bytes bs)]
  | given v => [.leaf (.word "Some"), .group .round v.trees]
  | list items => [.group .square (joinWithCommas (itemsTrees items))]
  | tuple name items => nameTrees name ++ [.group .round (joinWithCommas (itemsTrees items))]
  | record name fields => nameTrees name ++ [.group .round (joinWithCommas (fieldsTrees fields))]
  | table entries => [.group .curly (joinWithCommas (entriesTrees entries))]

/-- The trees of every item. -/
def itemsTrees : List Value → List (List Tree)
  | [] => []
  | v :: vs => v.trees :: itemsTrees vs

/-- The trees of every field. -/
def fieldsTrees : List (String × Value) → List (List Tree)
  | [] => []
  | (name, v) :: fs => (.leaf (.word name) :: .leaf .colon :: v.trees) :: fieldsTrees fs

/-- The trees of every entry. -/
def entriesTrees : List (Value × Value) → List (List Tree)
  | [] => []
  | (k, v) :: es => (k.trees ++ .leaf .colon :: v.trees) :: entriesTrees es

end

/-- **The text of a value**, without blanks. -/
def write (v : Value) : String := spellAll (treesTokens v.trees)

end Value

end TileEvents.Ron
