/-
  TileEvents.CommandLine
  ──────────────────────
  **STARTING FROM A FOLDER OF DATA.**

  The files of a game lie in one folder: the settings, the savegame, the
  dictionary and, unless the command line names another, the map.  The folder
  is the one the environment names, or else the first usual one that exists.
  A settings file that cannot be used counts as none; any other file that
  cannot be loaded keeps the program from starting.
-/
import TileEvents.Console.Dialogue
import TileEvents.SettingsFile

namespace TileEvents

open Console

/-! ## §1. Where the files are. -/

/-- The folders that are looked for, the first one that exists first. -/
def usualFolders : List String := ["mapscript_engine/data", "data"]

/-- The folder that is taken if none exists. -/
def lastResortFolder : String := "mapscript_engine/data"

/-- The folder of the data: the one `named`, or the first usual one that exists. -/
def dataFolder (named : Option String) (isFolder : String → Bool) : String :=
  named.getD ((usualFolders.find? isFolder).getD lastResortFolder)

/-- The paths of a game's files. -/
structure GamePaths where
  settings : String
  map : String
  savegame : String
  dictionary : String
  deriving DecidableEq

/-- The paths within a folder; the command line may name another map. -/
def GamePaths.within (folder : String) (arguments : List String) : GamePaths where
  settings := Path.join folder "engine.toml"
  map := arguments.head?.getD (Path.join folder "maps/village.ron")
  savegame := Path.join folder "savegame.ron"
  dictionary := Path.join folder "dictionary.ron"

/-! ## §2. Loading. -/

/-- The texts of a game's files, as the disk gave them. -/
structure GameTexts where
  settings : Except DiskError String
  map : Except DiskError String
  savegame : Except DiskError String
  dictionary : Except DiskError String

/-- The texts on a disk. -/
def GamePaths.read (p : GamePaths) (d : Disk) : GameTexts where
  settings := d.read p.settings
  map := d.read p.map
  savegame := d.read p.savegame
  dictionary := d.read p.dictionary

/-- All that a game starts from. -/
structure Game where
  settings : Settings
  map : GameMap
  save : Savegame
  dictionary : Dictionary

/-- Why a game cannot start. -/
inductive StartError where
  | map (path : String) (cause : LoadError)
  | savegame (cause : LoadError)
  | dictionary (cause : LoadError)
  deriving DecidableEq

namespace StartError

/-- What was being loaded. -/
def context : StartError → String
  | map path _ => s!"while loading map '{path}'"
  | savegame _ => "while loading the starting savegame"
  | dictionary _ => "while loading the dictionary"

/-- What went wrong with it. -/
def cause : StartError → LoadError
  | map _ cause | savegame cause | dictionary cause => cause

/-- `text` with its further lines indented to stand below a numbered reason. -/
def indented (text : String) : String := String.intercalate "\n       " (text.splitOn "\n")

/-- The report on an error: what was being loaded, and the reasons from the outermost on. -/
def report (e : StartError) : String :=
  "Error: " ++ e.context ++ "\n\nCaused by:\n    0: " ++ indented e.cause.context
    ++ "\n    1: " ++ indented e.cause.cause

/-- The first line of the report. -/
def headline (e : StartError) : String := (e.report.splitOn "\n").headD ""

end StartError

/-- **Load a game.**  Of several files that cannot be loaded the first one is reported: the map,
the savegame, the dictionary. -/
def Game.load (p : GamePaths) (t : GameTexts) : Except StartError Game := do
  let map ← (GameMap.load p.map t.map).mapError (.map p.map)
  let save ← (Savegame.load p.savegame t.savegame).mapError .savegame
  let dictionary ← (Dictionary.load p.dictionary t.dictionary).mapError .dictionary
  .ok { settings := .load t.settings, map, save, dictionary }

/-! ## §3. Playing. -/

/-- The dice of a game, with a seed for games whose settings give none. -/
def Game.dice (g : Game) (seed : UInt64) : Dice := .ofSeed (g.settings.seed.getD seed)

/-- The console of a game. -/
def Game.console (g : Game) (p : GamePaths) (seed : UInt64) : Console :=
  .fresh g.map g.save ⟨g.settings, g.dictionary, true⟩ (g.dice seed) p.savegame

/-- What is printed before the dialogue. -/
def greeting : List Span :=
  [.styled .title "MAPSCRIPT EVENT CONSOLE", .plain "\nType 'help' for a list of commands.\n"]

/-- **Run the program** on a disk. -/
def runOnDisk (colored : Bool) (named : Option String) (arguments : List String) (seed : UInt64)
    (d : Disk) (input : List UInt8) : Except StartError Ending :=
  let paths := GamePaths.within (dataFolder named d.isFolder) arguments
  match Game.load paths (paths.read d) with
  | .error e => .error e
  | .ok game =>
    .ok (((game.console paths seed).play colored d input).after (Span.renderAll colored greeting))

/-! ## §4. Colors. -/

/-- Whether a variable of the environment is switched on: it is set, and not to zero. -/
def isSwitchedOn (value : Option String) : Bool :=
  match value with
  | some text => text != "0"
  | none => false

/-- Whether colors are wanted: they can be forced, refused or switched off, and are else shown on a
terminal. -/
def wantsColor (forced refused allowed : Option String) (terminal : Bool) : Bool :=
  isSwitchedOn forced || (refused.isNone && (allowed.isNone || isSwitchedOn allowed) && terminal)

end TileEvents
