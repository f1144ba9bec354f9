/-
  TileEvents.Main
  ───────────────
  **THE PROGRAM.**

  The outermost layer: it asks the environment where the data are, reads the
  files, reads lines from standard input one at a time and prints what the
  console shows.  All decisions are made by `CommandLine` and `Console`.
-/
import TileEvents.CommandLine

namespace TileEvents

open Console

/-! ## §1. The real disk. -/

/-- The reason of the disk in an error of the system. -/
def diskError (e : IO.Error) : DiskError :=
  match e with
  | .noFileOrDirectory .. => .notFound
  | .alreadyExists .. => .alreadyExists
  | .permissionDenied .. => .noPermission
  | .inappropriateType _ code _ =>
    if code = 20 then .notAFolder else if code = 21 then .isAFolder else .other (toString e)
  | _ => .other (toString e)

/-- The text of a file. -/
def readText (path : String) : IO (Except DiskError String) := do
  match ← (IO.FS.readBinFile path).toBaseIO with
  | .error e => return .error (diskError e)
  | .ok bytes =>
    match Text.Utf8.decode? bytes.toList with
    | some text => return .ok text
    | none => return .error .notText

/-- Make a folder and the folders around it. -/
def makeFolders (folder : String) : IO (Except DiskError Unit) := do
  if folder.isEmpty then return .ok ()
  match ← (IO.FS.createDirAll folder).toBaseIO with
  | .error e => return .error (diskError e)
  | .ok () => return .ok ()

/-- Write a file and the folders around it. -/
def writeText (path text : String) : IO (Except WriteError Unit) := do
  match ← makeFolders (Path.folder path) with
  | .error e => return .error (.folder (Path.folder path) e)
  | .ok () =>
    match ← (IO.FS.writeBinFile path text.toUTF8).toBaseIO with
    | .error e => return .error (.file path (diskError e))
    | .ok () => return .ok ()

/-- Run an errand on the real disk. -/
def perform {α : Type} : Errand α → IO α
  | .done a => return a
  | .read path next => return next (← readText path)
  | .write path text next => return next (← writeText path text)

/-- Whether a path leads to a folder. -/
def isRealFolder (path : String) : IO Bool := do
  match ← (IO.FS.realPath (path ++ "/.")).toBaseIO with
  | .error _ => return false
  | .ok _ => return true

/-! ## §2. Input and output. -/

/-- The next line of the input after `line`, whose last byte comes first; nothing at the end. -/
partial def readLine (input : IO.FS.Stream) (line : List UInt8) : IO (Option (List UInt8)) := do
  match (← input.read 1).toList with
  | [] => return if line.isEmpty then none else some line.reverse
  | b :: _ => if b = 10 then return some line.reverse else readLine input (b :: line)

/-- The dialogue over the lines of the input. -/
partial def converseLive (colored : Bool) (input output : IO.FS.Stream) (c : Console) : IO Unit := do
  output.putStr (c.callSpan.render colored)
  output.flush
  match ← readLine input [] with
  | none => return ()
  | some line =>
    let turn ← perform (c.hear line)
    for record in turn.log do
      if record.level = .error then IO.eprintln record.line
    output.putStr (Notice.renderAll colored turn.notices)
    output.flush
    if turn.quits then return () else converseLive colored input output turn.console

/-- Whether colors are wanted. -/
def readColorWish (output : IO.FS.Stream) : IO Bool := do
  let forced ← IO.getEnv "CLICOLOR_FORCE"
  let refused ← IO.getEnv "NO_COLOR"
  let allowed ← IO.getEnv "CLICOLOR"
  return wantsColor forced refused allowed (← output.isTty)

/-- A seed for games that have none. -/
def randomSeed : IO UInt64 := do
  let bytes ← IO.getRandomBytes 8
  return UInt64.ofNat (bytes.toList.foldl (fun n b => 256 * n + b.toNat) 0)

/-- The texts of a game's files. -/
def GamePaths.readReal (p : GamePaths) : IO GameTexts := do
  return { settings := ← readText p.settings
           map := ← readText p.map
           savegame := ← readText p.savegame
           dictionary := ← readText p.dictionary }

/-! ## §3. The program. -/

/-- Run the program.  It ends with 1 if a game cannot start. -/
def runProgram (arguments : List String) : IO UInt32 := do
  let output ← IO.getStdout
  let colored ← readColorWish output
  let existing ← usualFolders.filterM fun folder => isRealFolder folder
  let folder := dataFolder (← IO.getEnv "MAPSCRIPT_DATA") fun folder => existing.contains folder
  let paths := GamePaths.within folder arguments
  match Game.load paths (← paths.readReal) with
  | .error e =>
    IO.eprintln e.report
    return 1
  | .ok game =>
    let console := game.console paths (← randomSeed)
    output.putStr (Span.renderAll colored (greeting ++ console.titleSpans))
    converseLive colored (← IO.getStdin) output console
    return 0

end TileEvents

/-- The program. -/
def main (arguments : List String) : IO UInt32 := TileEvents.runProgram arguments
