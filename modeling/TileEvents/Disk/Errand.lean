/-
  TileEvents.Disk.Errand
  ──────────────────────
  **WHAT IS WANTED OF A DISK.**

  A step of the console may want one file read or written before it is done.
  It says so instead of doing it, and says how it goes on from the answer; the
  errand can then be run on a disk in memory or on a real one.  A file is
  written together with the folders around it.
-/
import TileEvents.Disk.Basic

namespace TileEvents

/-- Why a file could not be written. -/
inductive WriteError where
  /-- The folder around it could not be made. -/
  | folder (folder : String) (cause : DiskError)
  | file (path : String) (cause : DiskError)
  deriving DecidableEq

/-- A result, or what it takes of the disk to come to one. -/
inductive Errand (α : Type) where
  | done (a : α)
  | read (path : String) (next : Except DiskError String → α)
  | write (path text : String) (next : Except WriteError Unit → α)

/-- Write a file after making the folders around it. -/
def Disk.store (d : Disk) (path text : String) : Except WriteError Unit × Disk :=
  match d.makeFolderOf path with
  | (.error e, d) => (.error (.folder (Path.folder path) e), d)
  | (.ok (), d) =>
    match d.write path text with
    | .error e => (.error (.file path e), d)
    | .ok d => (.ok (), d)

/-- **Run an errand on a disk.** -/
def Errand.run {α : Type} (d : Disk) : Errand α → α × Disk
  | done a => (a, d)
  | read path next => (next (d.read path), d)
  | write path text next =>
    let (result, d) := d.store path text
    (next result, d)

/-- What was stored is read back. -/
theorem Disk.read_store {d d' : Disk} {path text : String} (h : d.store path text = (.ok (), d')) :
    d'.read path = .ok text := by
  unfold store at h
  split at h
  next => simp at h
  next =>
    split at h
    next => simp at h
    next hw =>
      simp only [Prod.mk.injEq, true_and] at h
      exact read_write (h ▸ hw)

end TileEvents
