/-
  TileEvents.Record
  ─────────────────
  **LOG RECORDS.**

  Walks and consoles keep a log of what they do.  A record is a line of text
  with a level.
-/

namespace TileEvents

/-- How much a log record matters. -/
inductive Level where
  | error
  | warn
  | info
  | debug
  deriving DecidableEq

/-- The name of a level. -/
def Level.name : Level → String
  | error => "ERROR"
  | warn => "WARN"
  | info => "INFO"
  | debug => "DEBUG"

/-- A line of the log. -/
structure Record where
  level : Level
  text : String
  deriving DecidableEq

/-- The record with its level in front. -/
def Record.line (r : Record) : String := r.level.name ++ " " ++ r.text

end TileEvents
