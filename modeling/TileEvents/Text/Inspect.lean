/-
  TileEvents.Text.Inspect
  ───────────────────────
  **THE INSPECTION FORM OF A VALUE.**

  Logs, status listings and some messages show a value in full: a choice by
  its name, an optional value as None or Some(3), a list as [1, 2], a set as
  {1, 2}, a record as Name { field: 1, other: 2 } and a text in double
  quotes.  Inside quotes the quote and the backslash are escaped, line feed,
  return, tab and NUL have short escapes, and any other hidden character is
  written by its code in hexadecimal.
-/
import TileEvents.Text.Printable

namespace TileEvents.Text

/-! ## §1. Escaped text. -/

/-- The lower-case hexadecimal numeral of `n`. -/
def hexadecimal (n : Nat) : String := String.ofList (Nat.toDigits 16 n)

/-- The escape by code: a backslash, a u and the code in braces. -/
def codeEscape (c : Char) : String := "\\u\x7b" ++ hexadecimal c.toNat ++ "\x7d"

/-- How `c` is written inside quotes when the characters of `marks` need a backslash. -/
def escaped (marks : List Char) (c : Char) : String :=
  if c == '\n' then "\\n"
  else if c == '\r' then "\\r"
  else if c == '\t' then "\\t"
  else if c == '\x00' then "\\0"
  else if c ∈ marks then String.ofList ['\\', c]
  else if isHidden c then codeEscape c
  else String.singleton c

/-- `s` in double quotes. -/
def quoted (marks : List Char) (s : String) : String :=
  "\"" ++ String.join (s.toList.map (escaped marks)) ++ "\""

/-! ## §2. Composite values. -/

/-- A text: only the double quote and the backslash carry a backslash. -/
def inspectString (s : String) : String := quoted ['"', '\\'] s

/-- A truth value. -/
def inspectBool (b : Bool) : String := if b then "true" else "false"

/-- A named value with one unnamed part. -/
def inspectApplied (name part : String) : String := name ++ "(" ++ part ++ ")"

/-- An optional value. -/
def inspectOption {α : Type} (inspect : α → String) : Option α → String
  | none => "None"
  | some a => inspectApplied "Some" (inspect a)

/-- A pair. -/
def inspectPair (a b : String) : String := "(" ++ a ++ ", " ++ b ++ ")"

/-- A list. -/
def inspectList (items : List String) : String := "[" ++ String.intercalate ", " items ++ "]"

/-- A set. -/
def inspectSet (items : List String) : String :=
  "\x7b" ++ String.intercalate ", " items ++ "\x7d"

/-- A record with named fields, in the order given. -/
def inspectRecord (name : String) (fields : List (String × String)) : String :=
  name ++ " \x7b " ++ String.intercalate ", " (fields.map fun f => f.1 ++ ": " ++ f.2) ++ " \x7d"

/-- `s` with spaces after it up to a width counted in characters. -/
def padEnd (width : Nat) (s : String) : String :=
  s ++ String.ofList (List.replicate (width - s.length) ' ')

/-- `s` with copies of `fill` before it up to a width counted in characters. -/
def padStart (fill : Char) (width : Nat) (s : String) : String :=
  String.ofList (List.replicate (width - s.length) fill) ++ s

end TileEvents.Text
