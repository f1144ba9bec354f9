/-
  TileEvents.Toml.Document
  ────────────────────────
  **READING A SETTINGS FILE.**

  A settings file is read line by line.  A line is empty, a comment, a header
  in brackets that opens a table, or a key with its value, which may reach
  over several lines.  The result is the table of all that was set.
-/
import TileEvents.Toml.Scalar

namespace TileEvents.Toml

/-! ## §1. Keys. -/

/-- Whether `c` may stand in a key without quotes. -/
def isKeyMark (c : Char) : Bool := c.isAlphanum || c == '_' || c == '-'

/-- One key, up to its end. -/
def simpleKey? (s : List Char) : Option (String × List Char) :=
  match s with
  | '"' :: rest => (quoted? rest).map fun (cs, rest) => (String.ofList cs, rest)
  | '\'' :: rest => (literal? rest).map fun (cs, rest) => (String.ofList cs, rest)
  | s =>
    let name := s.takeWhile isKeyMark
    if name.isEmpty then none else some (String.ofList name, s.dropWhile isKeyMark)

/-- A key of at most `fuel` parts with dots between them, and what stands behind it and its
blanks. -/
def keyWithin? : Nat → List Char → Option (List String × List Char)
  | 0, _ => none
  | fuel + 1, s =>
    match simpleKey? (skipBlanks s) with
    | none => none
    | some (key, rest) =>
      match skipBlanks rest with
      | '.' :: rest => (keyWithin? fuel rest).map fun (keys, rest) => (key :: keys, rest)
      | rest => some ([key], rest)

/-- How many parts a key may have, and how deep values may nest. -/
def maxDepth : Nat := 79

/-- A key with dots. -/
def key? (s : List Char) : Option (List String × List Char) := keyWithin? maxDepth s

/-! ## §2. Values. -/

/-- What is left without blanks, line breaks and comments in front; within a comment if
`commented`. -/
def skipFill (commented : Bool) : List Char → List Char
  | [] => []
  | '\n' :: rest => skipFill false rest
  | '\r' :: '\n' :: rest => skipFill false rest
  | c :: rest =>
    if commented then if isLineMark c then skipFill true rest else c :: rest
    else if isBlank c then skipFill false rest
    else if c = '#' then skipFill true rest
    else c :: rest

/-- The table of the keys and values between braces. -/
def tableOf? (pairs : List (List String × Value)) : Option Table :=
  pairs.foldlM (fun t (keys, v) => t.set keys v) []

mutual

/-- A value that nests at most `depth` deep. -/
def valueWithin? : Nat → Nat → List Char → Option (Value × List Char)
  | 0, _, _ => none
  | fuel + 1, depth, s =>
    match s, depth with
    | '[' :: _, 0 => none
    | '\x7b' :: _, 0 => none
    | '[' :: rest, depth + 1 =>
      (itemsWithin? fuel depth rest).map fun (items, rest) => (.list items, rest)
    | '\x7b' :: rest, depth + 1 =>
      match skipBlanks rest with
      | '\x7d' :: rest => some (.table .closed [], rest)
      | rest =>
        match pairsWithin? fuel depth rest with
        | none => none
        | some (pairs, rest) => (tableOf? pairs).map fun t => (.table .closed t, rest)
    | '"' :: _, _ => (text? s).map fun (cs, rest) => (.text (String.ofList cs), rest)
    | '\'' :: _, _ => (text? s).map fun (cs, rest) => (.text (String.ofList cs), rest)
    | s, _ =>
      let n := scalarLength s
      (scalar? (s.take n)).map fun v => (v, s.drop n)

/-- Items up to the bracket that closes them; one comma may stand behind the last. -/
def itemsWithin? : Nat → Nat → List Char → Option (List Value × List Char)
  | 0, _, _ => none
  | fuel + 1, depth, s =>
    match skipFill false s with
    | ']' :: rest => some ([], rest)
    | s =>
      match valueWithin? fuel depth s with
      | none => none
      | some (v, rest) =>
        match skipFill false rest with
        | ']' :: rest => some ([v], rest)
        | ',' :: rest => (itemsWithin? fuel depth rest).map fun (vs, rest) => (v :: vs, rest)
        | _ => none

/-- Keys and values up to the brace that closes them, on one line. -/
def pairsWithin? : Nat → Nat → List Char → Option (List (List String × Value) × List Char)
  | 0, _, _ => none
  | fuel + 1, depth, s =>
    match key? s with
    | some (keys, '=' :: rest) =>
      match valueWithin? fuel depth (skipBlanks rest) with
      | none => none
      | some (v, rest) =>
        match skipBlanks rest with
        | '\x7d' :: rest => some ([(keys, v)], rest)
        | ',' :: rest =>
          (pairsWithin? fuel depth rest).map fun (ps, rest) => ((keys, v) :: ps, rest)
        | _ => none
    | _ => none

end

/-- **A value.**  Every step takes a character or opens the next, so twice the length is enough. -/
def value? (s : List Char) : Option (Value × List Char) :=
  valueWithin? (2 * s.length + 2) maxDepth s

/-! ## §3. Lines. -/

/-- What stands behind the end of a line: blanks, a comment and a line break, or nothing at all. -/
def afterLine? (s : List Char) : Option (List Char) :=
  let rest :=
    match skipBlanks s with
    | '#' :: rest => rest.dropWhile isLineMark
    | rest => rest
  if rest.isEmpty then some [] else afterBreak? rest

/-- The state of reading: the table so far and the table that is open. -/
structure Progress where
  table : Table
  opened : List String

/-- A key and its value. -/
def setting? (p : Progress) (s : List Char) : Option (Progress × List Char) :=
  match key? s with
  | some (keys, '=' :: rest) =>
    match value? (skipBlanks rest) with
    | none => none
    | some (v, rest) =>
      (p.table.setWithin p.opened keys v).map fun t => ({ p with table := t }, rest)
  | _ => none

/-- A line without its end. -/
def line? (p : Progress) (s : List Char) : Option (Progress × List Char) :=
  match s with
  | [] => some (p, [])
  | '\n' :: _ => some (p, s)
  | '\r' :: _ => some (p, s)
  | '#' :: _ => some (p, s)
  | '[' :: '[' :: rest =>
    match key? rest with
    | some (keys, ']' :: ']' :: rest) =>
      (p.table.openRow keys).map fun t => (⟨t, keys⟩, rest)
    | _ => none
  | '[' :: rest =>
    match key? rest with
    | some (keys, ']' :: rest) => (p.table.openTable keys).map fun t => (⟨t, keys⟩, rest)
    | _ => none
  | s => setting? p s

/-- The table after a text of at most `fuel` lines. -/
def readWithin? : Nat → Progress → List Char → Option Table
  | 0, p, s => if s.isEmpty then some p.table else none
  | fuel + 1, p, s =>
    match line? p (skipBlanks s) with
    | none => none
    | some (p, rest) =>
      match afterLine? rest with
      | none => none
      | some [] => some p.table
      | some rest => readWithin? fuel p rest

/-- **The table of a settings file.**  A mark of the byte order may stand in front. -/
def read? (text : String) : Option Table :=
  let s :=
    match text.toList with
    | '\ufeff' :: rest => rest
    | s => s
  readWithin? (s.length + 1) ⟨[], []⟩ s

end TileEvents.Toml
