/-
  TileEvents.Text.Quoted
  ──────────────────────
  **READING TEXT BETWEEN QUOTES.**

  Text between double quotes may hold escapes, each a backslash and what
  follows it.  Which escapes there are, and which characters may stand for
  themselves, is up to the format; the reader of the text between the quotes
  is the same for all of them.
-/

namespace TileEvents.Text

/-- A reader of what stands behind a backslash; it always takes something off the text. -/
structure EscapeReader (α : Type) where
  read : List Char → Option (α × List Char)
  shorter : ∀ {s a rest}, read s = some (a, rest) → rest.length < s.length

/-- What stands before the closing quote, escapes read by `escape` and other characters by `plain`,
and what stands behind it. -/
def quotedBody? {α : Type} (escape : EscapeReader α) (plain : Char → Option α) (s : List Char) :
    Option (List α × List Char) :=
  match s with
  | [] => none
  | '"' :: rest => some ([], rest)
  | '\\' :: rest =>
    match _h : escape.read rest with
    | none => none
    | some (a, after) =>
      (quotedBody? escape plain after).map fun (as, rest) => (a :: as, rest)
  | c :: rest =>
    match plain c with
    | none => none
    | some a => (quotedBody? escape plain rest).map fun (as, rest) => (a :: as, rest)
termination_by s.length
decreasing_by
  · have := escape.shorter ‹_›
    simp only [List.length_cons]
    omega
  · simp

/-- The value of a hexadecimal digit. -/
def hexValue? (c : Char) : Option Nat :=
  if c.isDigit then some (c.toNat - 48)
  else if 'a' ≤ c ∧ c ≤ 'f' then some (c.toNat - 87)
  else if 'A' ≤ c ∧ c ≤ 'F' then some (c.toNat - 55)
  else none

/-- The character whose code has these hexadecimal digits, if there is one. -/
def ofHex? (digits : List Char) : Option Char :=
  match digits.mapM hexValue? with
  | none | some [] => none
  | some values =>
    let code := values.foldl (fun n d => 16 * n + d) 0
    if h : code.isValidChar then some (Char.ofNatAux code h) else none

end TileEvents.Text
