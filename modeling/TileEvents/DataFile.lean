/-
  TileEvents.DataFile
  ───────────────────
  **THE FILES OF A GAME.**

  Maps, savegames and dictionaries are kept as documents in files.  Loading a
  file reads it and takes it for a document of its kind; a map is validated
  and built as well.  Each of these steps can fail, and the error says which
  one did and for which file.
-/
import TileEvents.Definition.Build
import TileEvents.Definition.Document
import TileEvents.Definition.Validation
import TileEvents.Disk.Errand
import TileEvents.Savegame.Document

namespace TileEvents

/-! ## §1. Errors. -/

/-- The kinds of files. -/
inductive DataKind where
  | mapEvents
  | savegame
  | dictionary
  deriving DecidableEq

/-- What a kind of file is called. -/
def DataKind.name : DataKind → String
  | mapEvents => "map events"
  | savegame => "savegame"
  | dictionary => "dictionary"

/-- Why a file could not be loaded. -/
inductive LoadError where
  | unreadable (kind : DataKind) (path : String) (cause : DiskError)
  /-- The text is no document of this kind. -/
  | malformed (kind : DataKind) (path : String)
  | invalid (path : String) (map : UInt16) (problems : List DefinitionError)
  | corrupt (map : UInt16) (cause : ChainError)
  deriving DecidableEq

namespace LoadError

/-- The step that failed. -/
def context : LoadError → String
  | unreadable kind path _ => s!"reading {kind.name} from '{path}'"
  | malformed kind path => s!"parsing {kind.name} RON from '{path}'"
  | invalid path _ _ => s!"validating map events in '{path}'"
  | corrupt map _ => s!"building map {map} from definition"

/-- Why it failed. -/
def cause : LoadError → String
  | unreadable _ _ cause => cause.message
  | malformed kind _ => s!"the text is no {kind.name} document"
  | invalid _ map problems =>
    s!"map {map} validation failed:\n"
      ++ String.intercalate "\n" (problems.map fun p => "- " ++ p.message)
  | corrupt _ cause => cause.message

/-- The step and the reason. -/
def message (e : LoadError) : String := e.context ++ ": " ++ e.cause

end LoadError

/-- The step that failed and the reason. -/
def WriteError.message : WriteError → String
  | folder path cause => s!"creating save folder '{path}': {cause.message}"
  | file path cause => s!"writing savegame to '{path}': {cause.message}"

/-! ## §2. Loading. -/

/-- The value of a file's text, which is given as the disk gave it. -/
def loadDocument {α : Type} (kind : DataKind) (parse : String → Option α) (path : String) :
    Except DiskError String → Except LoadError α
  | .error e => .error (.unreadable kind path e)
  | .ok text =>
    match parse text with
    | some a => .ok a
    | none => .error (.malformed kind path)

/-- A savegame by the text of its file. -/
def Savegame.load (path : String) (text : Except DiskError String) : Except LoadError Savegame :=
  loadDocument .savegame Savegame.read? path text

/-- A dictionary by the text of its file. -/
def Dictionary.load (path : String) (text : Except DiskError String) :
    Except LoadError Dictionary :=
  loadDocument .dictionary Dictionary.read? path text

/-- A map definition by the text of its file. -/
def MapDefinition.load (path : String) (text : Except DiskError String) :
    Except LoadError MapDefinition :=
  loadDocument .mapEvents MapDefinition.read? path text

/-- The map of a definition from a file. -/
def MapDefinition.admit (path : String) (d : MapDefinition) : Except LoadError GameMap :=
  match d.problems with
  | [] =>
    match d.build with
    | .ok m => .ok m
    | .error e => .error (.corrupt d.index e)
  | problems => .error (.invalid path d.index problems)

/-- **A map by the text of its file.** -/
def GameMap.load (path : String) (text : Except DiskError String) : Except LoadError GameMap :=
  match MapDefinition.load path text with
  | .ok d => d.admit path
  | .error e => .error e

end TileEvents
