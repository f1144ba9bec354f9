/-
  TileEvents.Toml.Table
  ─────────────────────
  **TABLES AND HOW THEY GROW.**

  A settings file is a table of keys and values.  Statement by statement the
  table grows: a key is set once, a header opens a table once, and a dotted
  key opens the tables on its way.  How a table came to be decides what may
  still be added to it:

      closed     written in braces          nothing
      header     opened by its header       keys, and tables with headers
      implicit   lies on a header's way     its own header
      dotted     lies on a dotted key's way further dotted keys
-/

namespace TileEvents.Toml

/-! ## §1. Values. -/

/-- How a table came to be. -/
inductive Origin where
  | closed
  | header
  | implicit
  | dotted
  deriving DecidableEq

/-- A value.  Of numbers with a point and of moments nothing is kept. -/
inductive Value where
  | text (s : String)
  | integer (n : Int)
  | flag (b : Bool)
  | float
  | moment
  | list (items : List Value)
  | table (origin : Origin) (entries : List (String × Value))
  /-- Tables opened one after the other by headers in double brackets. -/
  | rows (rows : List (List (String × Value)))

/-- Keys and their values. -/
abbrev Table := List (String × Value)

namespace Table

/-! ## §2. Growing. -/

/-- The table with the value of a key revised; `f` is given the old value, if there is one. -/
def revise (key : String) (f : Option Value → Option Value) : Table → Option Table
  | [] => (f none).map fun v => [(key, v)]
  | (k, v) :: rest =>
    if k = key then (f (some v)).map fun v => (k, v) :: rest
    else (revise key f rest).map ((k, v) :: ·)

/-- The rows with the last one revised. -/
def reviseLast (f : Table → Option Table) : List Table → Option (List Table)
  | [] => none
  | [row] => (f row).map ([·])
  | row :: rows => (reviseLast f rows).map (row :: ·)

/-- The table with the table at the end of `path` revised by `f`, which is told how that one came
to be; tables missing on the way are opened.  A dotted key may not pass a table with a header. -/
def within (dotted : Bool) : List String → (Origin → Table → Option Table) → Origin → Table →
    Option Table
  | [], f, origin, t => f origin t
  | key :: path, f, _, t =>
    t.revise key fun
      | none =>
        let origin := if dotted then .dotted else .implicit
        (within dotted path f origin []).map (.table origin)
      | some (.table .closed _) => none
      | some (.table origin inner) =>
        if dotted && origin == .header then none
        else (within dotted path f origin inner).map (.table origin)
      | some (.rows rows) => (reviseLast (within dotted path f .header) rows).map .rows
      | some _ => none

/-- The table with a new key; a key that is there already may not be set again. -/
def add (key : String) (v : Value) (t : Table) : Option Table :=
  t.revise key fun
    | none => some v
    | some _ => none

/-- A key with dots as the keys on its way and its last one. -/
def splitKey (keys : List String) : Option (List String × String) :=
  keys.getLast?.map fun last => (keys.dropLast, last)

/-- The table with a dotted key set; the tables on its way have to come from dotted keys. -/
def set (keys : List String) (v : Value) (t : Table) : Option Table :=
  match splitKey keys with
  | none => none
  | some ([], key) => t.add key v
  | some (path, key) =>
    within true path (fun origin t => if origin = .dotted then t.add key v else none) .header t

/-- The table with the table of a header opened. -/
def openTable (keys : List String) (t : Table) : Option Table :=
  match splitKey keys with
  | none => none
  | some (path, key) =>
    within false path (fun _ t => t.revise key fun
      | none => some (.table .header [])
      | some (.table .implicit inner) => some (.table .header inner)
      | some _ => none) .header t

/-- The table with a row of a header in double brackets opened. -/
def openRow (keys : List String) (t : Table) : Option Table :=
  match splitKey keys with
  | none => none
  | some (path, key) =>
    within false path (fun _ t => t.revise key fun
      | none => some (.rows [[]])
      | some (.rows rows) => some (.rows (rows ++ [[]]))
      | some _ => none) .header t

/-- The table with a key set in the table that was opened last. -/
def setWithin (opened keys : List String) (v : Value) (t : Table) : Option Table :=
  within false opened (fun _ t => t.set keys v) .header t

/-- The value of a key. -/
def find? (t : Table) (key : String) : Option Value := t.lookup key

end Table

end TileEvents.Toml
