/-
  TileEvents.Proofs.Console.Saving
  ────────────────────────────────
  **WHAT WAS SAVED IS LOADED.**

  To save changes nothing at the console, and to load replaces the savegame,
  gives up the walk that waits and clears the guard, all at once.  Whatever is
  played in between, other files may be saved as well: as long as no command
  writes the file itself, it is read with the text it was written with, and
  that is the text of the savegame.  If the disk refuses, or if what it gives
  is no savegame, nothing changes at all.

    • `written`, `allWritten`     — the files that commands write;
    • `execute_keeps`             — a command keeps all other files;
    • `executeAll_keeps_files`    — so do commands, one after the other;
    • `saved_game_is_loaded`      — what was saved is loaded, or nothing changes.
-/
import TileEvents.Proofs.Console.Executing
import TileEvents.Proofs.Disk.Files
import TileEvents.Proofs.Savegame.RoundTrip
import TileEvents.Proofs.Sample

namespace TileEvents

namespace Console

/-! ## §1. The files that commands write. -/

/-- The location of the file that a command writes, if it writes one. -/
def written (c : Console) (d : Disk) : Command → Option Location
  | .save path =>
    match (d.store (c.targetPath path) c.save.write).1 with
    | .ok () => Path.location? (c.targetPath path)
    | .error _ => none
  | _ => none

/-- **The locations of the files that commands write**, executed one after the other. -/
def allWritten (c : Console) (d : Disk) : List Command → List Location
  | [] => []
  | command :: rest =>
    let (turn, d') := (c.execute command).run d
    (c.written d command).toList ++ turn.console.allWritten d' rest

/-- **A command keeps all files but the one it writes.** -/
theorem execute_keeps (c : Console) (d : Disk) (command : Command) :
    d.Keeps ((c.execute command).run d).2 fun l => c.written d command = some l := by
  cases command with
  | save path =>
      refine (d.store_keeps (c.targetPath path) c.save.write).mono ?_
      rintro l ⟨hstored, hl⟩
      simp only [written, hstored, hl]
  | _ => exact .refl d _

/-- **Commands keep all files but those they write.** -/
theorem executeAll_keeps_files (commands : List Command) :
    ∀ (c : Console) (d : Disk),
      d.Keeps (c.executeAll d commands).2 fun l => l ∈ c.allWritten d commands := by
  -- on the commands; each keeps what the next one finds
  induction commands with
  | nil => exact fun _ d => .refl d _
  | cons command rest ih =>
      intro c d
      have hfirst := c.execute_keeps d command
      have hrest := ih ((c.execute command).run d).1.console ((c.execute command).run d).2
      refine (hfirst.mono ?_).trans (hrest.mono ?_)
      · intro l hl
        exact List.mem_append_left _ (Option.mem_toList.2 hl)
      · exact fun l hl => List.mem_append_right _ hl

/-! ## §2. Saving and loading. -/

theorem run_save (c : Console) (d : Disk) (path : Option String) :
    (c.execute (.save path)).run d
      = (c.afterWrite (c.targetPath path) (d.store (c.targetPath path) c.save.write).1,
        (d.store (c.targetPath path) c.save.write).2) := rfl

/-- To save changes nothing at the console, whether it succeeds or not. -/
theorem console_save (c : Console) (d : Disk) (path : Option String) :
    ((c.execute (.save path)).run d).1.console = c := by
  rw [run_save]
  cases (d.store (c.targetPath path) c.save.write).1 <;> rfl

theorem run_load (c : Console) (d : Disk) (path : Option String) :
    (c.execute (.load path)).run d
      = (c.afterLoad (c.targetPath path)
          (Savegame.load (c.targetPath path) (d.read (c.targetPath path))), d) := rfl

/-- The path of the savegame is never changed. -/
theorem executeAll_targetPath (c : Console) (d : Disk) (commands : List Command)
    (path : Option String) : (c.executeAll d commands).1.targetPath path = c.targetPath path := by
  have hgame := c.executeAll_game d commands
  have hpath : (c.executeAll d commands).1.savePath = c.savePath := congrArg (·.2.2) hgame
  rw [targetPath, targetPath, hpath]

/-- **What was saved is loaded.**  A console saves its game, and that succeeds, which changes
nothing at the console; it executes any commands that do not write that file, by whatever path; and
it loads the same path.  Then this succeeds as well.  The console has the savegame it had when it
saved, no walk waits, and the guard remembers neither a map nor an event; everything else is as the
commands left it.  A save or a load that fails, whatever the disk has answered, says so and changes
nothing. -/
theorem saved_game_is_loaded :
    (∀ (c : Console) (d : Disk) (saved loaded : Option String) (between : List Command),
      let path := c.targetPath saved
      let first := (c.execute (.save saved)).run d
      let played := first.1.console.executeAll first.2 between
      let last := (played.1.execute (.load loaded)).run played.2
      (d.store path c.save.write).1 = .ok () →
      (∀ l, Path.location? path = some l → l ∉ first.1.console.allWritten first.2 between) →
      c.targetPath loaded = path →
        first.1.console = c
          ∧ last.1.console
            = { played.1 with
                save := c.save
                pending := none
                session := { played.1.session with guard := ⟨none, none⟩ } }
          ∧ last.1.notices = [.outcome s!"Loaded '{path}'."]
          ∧ last.2 = played.2)
    ∧ (∀ (c : Console) (path : Option String), ∃ next : Except WriteError Unit → Turn,
        c.execute (.save path) = .write (c.targetPath path) c.save.write next
          ∧ ∀ e, (next (.error e)).console = c
              ∧ (next (.error e)).notices = [.error s!"Save failed: {e.message}"])
    ∧ ∀ (c : Console) (path : Option String), ∃ next : Except DiskError String → Turn,
        c.execute (.load path) = .read (c.targetPath path) next
          ∧ ∀ answer e, Savegame.load (c.targetPath path) answer = .error e →
              (next answer).console = c
                ∧ (next answer).notices = [.error s!"Load failed: {e.message}"] := by
  refine ⟨?_, fun c path => ⟨c.afterWrite (c.targetPath path), rfl, fun e => ⟨rfl, rfl⟩⟩, ?_⟩
  · intro c d saved loaded between path first played last hsaved hspared hpath
    have hconsole : first.1.console = c := c.console_save d saved
    have hstored : first.2.read path = .ok c.save.write := Disk.read_store (Prod.ext hsaved rfl)
    -- no command in between writes that file, so it is read as it was written
    have hread : played.2.read path = .ok c.save.write :=
      (executeAll_keeps_files between first.1.console first.2).read hstored hspared
    have hsame : played.1.targetPath loaded = path := by
      rw [executeAll_targetPath, hconsole, hpath]
    have hload : Savegame.load path (played.2.read path) = .ok c.save := by
      rw [hread]
      exact (savegame_survives_disk c.save path).1
    have hlast : last = (played.1.afterLoad path (.ok c.save), played.2) := by
      rw [← hload, ← hsame]
      exact played.1.run_load played.2 loaded
    rw [hlast]
    exact ⟨hconsole, rfl, rfl, rfl⟩
  · intro c path
    refine ⟨fun answer => c.afterLoad (c.targetPath path)
      (Savegame.load (c.targetPath path) answer), rfl, ?_⟩
    intro answer e he
    dsimp only
    rw [he]
    exact ⟨rfl, rfl⟩

/-! ### A game saved beside another one. -/

private theorem store_a (text : String) :
    Disk.blank.store "a" text = (.ok (), ⟨[(["a"], .file text)]⟩) := by
  cbv

private theorem store_b (text text' : String) :
    (⟨[(["a"], .file text)]⟩ : Disk).store "b" text'
      = (.ok (), ⟨[(["b"], .file text'), (["a"], .file text)]⟩) := by
  cbv

private theorem location_a : Path.location? "a" = some ["a"] := by cbv

private theorem location_b : Path.location? "b" = some ["b"] := by cbv

private theorem written_b (c : Console) (text : String) :
    c.written ⟨[(["a"], .file text)]⟩ (.save (some "b")) = some ["b"] := by
  simp only [written, targetPath, Option.getD_some, store_b, location_b]

/-- A console beside a riddlemouth that waits for the word `echo`. -/
def besideRiddle : Console :=
  fresh (GameMap.ofNodes [⟨⟨0⟩, .riddlemouth, none, .riddlemouth 4 5 [0]⟩] [⟨0⟩])
    .blank (.plain ["echo"]) (.ofScript []) "a"

/-- The riddlemouth is spoken to, the hour is changed and another file is saved before the game is
loaded from the file it was saved in: the walk that waits is given up and the tick stays. -/
theorem saved_game_is_loaded_beside :
    let between : List Command := [.character 1 0 0, .endTick, .setHour 5, .save (some "b")]
    let first := (besideRiddle.execute (.save none)).run .blank
    let played := first.1.console.executeAll first.2 between
    let last := (played.1.execute (.load (some "a"))).run played.2
    (played.1.pending.isSome = true ∧ played.1.save.hour = 5)
      ∧ last.1.console.save = .blank ∧ last.1.console.pending = none
      ∧ last.1.console.tick = 1 := by
  intro between first played last
  have hconsole : first.1.console = besideRiddle := besideRiddle.console_save .blank none
  have hfirst : first.2 = ⟨[(["a"], .file Savegame.blank.write)]⟩ :=
    congrArg Prod.snd (store_a Savegame.blank.write)
  have hplayed : played.1
      = (besideRiddle.executeAll first.2 [.character 1 0 0, .endTick, .setHour 5]).1 := by
    show (first.1.console.executeAll first.2 _).1 = _
    rw [hconsole]
    exact console_save _ _ _
  have hspared (l : Location) (hl : Path.location? "a" = some l) :
      l ∉ first.1.console.allWritten first.2 between := by
    have hl' : ["a"] = l := Option.some.inj (location_a.symm.trans hl)
    have hall : besideRiddle.allWritten ⟨[(["a"], .file Savegame.blank.write)]⟩ between
        = [["b"]] := by
      show (written _ _ (.save (some "b"))).toList ++ [] = _
      rw [written_b]
      rfl
    rw [hconsole, hfirst, hall, ← hl']
    decide
  obtain ⟨-, hlast, -, -⟩ := saved_game_is_loaded.1 besideRiddle .blank none (some "a") between
    (congrArg Prod.fst (store_a Savegame.blank.write)) hspared rfl
  rw [show last.1.console = _ from hlast, show played.1 = _ from hplayed]
  exact ⟨⟨rfl, rfl⟩, rfl, rfl, rfl⟩

end Console

end TileEvents
