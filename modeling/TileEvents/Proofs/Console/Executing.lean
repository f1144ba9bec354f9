/-
  TileEvents.Proofs.Console.Executing
  ───────────────────────────────────
  **COMMANDS ONE AFTER THE OTHER.**

  What a command can do to a console is listed once, whatever the disk
  answers.  A console then executes commands on a disk, each on what the one
  before has left, and what every single command keeps is kept by all of them:
  the map, the settings and the path of the savegame never change.

    • `execute_ends`      — the ways of a command;
    • `executeAll_keeps`  — the induction over commands;
    • `executeAll_game`   — what no command changes.
-/
import TileEvents.Console.Turn

namespace TileEvents.Console

/-! ## §1. One command. -/

/-- **The ways of a command**: the turns it can give. -/
inductive TurnEnd (c : Console) : Command → Turn → Prop where
  /-- Something is shown, and nothing has changed. -/
  | shown {command : Command} {t : Turn} (hcommand : command ≠ .quit) (hconsole : t.console = c)
      (hquits : t.quits = false) : TurnEnd c command t
  | tile (interaction : Interaction) (x y : UInt8) (s : Scene) (hpending : c.pending = none) :
      TurnEnd c (.interact interaction x y)
        (c.finish (c.session.onTile c.context c.map x y interaction.trigger s).1
          (c.session.onTile c.context c.map x y interaction.trigger s).2.1
          (c.session.onTile c.context c.map x y interaction.trigger s).2.2)
  | character (event : UInt16) (x y : UInt8) (trigger : Trigger) (s : Scene)
      (hpending : c.pending = none) :
      TurnEnd c (.character event x y)
        (c.finish (c.session.onCharacter c.context c.map event x y trigger s).1
          (c.session.onCharacter c.context c.map event x y trigger s).2.1
          (c.session.onCharacter c.context c.map event x y trigger s).2.2)
  | answered (a : Answer) (w : Suspension) (hw : c.pending = some w) :
      TurnEnd c (.respond a) (c.respond a)
  /-- The tick, the guard or the hour has been changed, and nothing about the walk that waits. -/
  | adjusted {command : Command} {t : Turn} (session : Session) (hour : UInt8) (tick : Nat)
      (hcommand : command ≠ .quit) (hquits : t.quits = false)
      (hconsole : t.console
        = { c with session := session, save := { c.save with hour := hour }, tick := tick }) :
      TurnEnd c command t
  | loaded (path : Option String) (save : Savegame) (t : Turn) (hquits : t.quits = false)
      (hconsole : t.console = c.restore save) : TurnEnd c (.load path) t
  | quit : TurnEnd c .quit { c.say [] with quits := true }

/-- **Every command goes one of these ways**, on any disk. -/
theorem execute_ends (c : Console) (d : Disk) (command : Command) :
    TurnEnd c command ((c.execute command).run d).1 := by
  cases command with
  | interact interaction x y =>
      show TurnEnd c _ (c.interact interaction x y)
      unfold interact
      cases hpending : c.pending with
      | none => exact .tile interaction x y _ hpending
      | some w => exact .shown (by simp) rfl rfl
  | character event x y =>
      show TurnEnd c _ (c.talk event x y)
      unfold talk
      cases hpending : c.pending with
      | none => exact .character event x y _ _ hpending
      | some w => exact .shown (by simp) rfl rfl
  | respond a =>
      show TurnEnd c _ (c.respond a)
      cases hpending : c.pending with
      | none =>
          unfold respond
          rw [hpending]
          exact .shown (by simp) rfl rfl
      | some w => exact .answered a w hpending
  | save path =>
      show TurnEnd c _ (c.afterWrite _ (d.store _ _).1)
      cases (d.store (c.targetPath path) c.save.write).1 <;> exact .shown (by simp) rfl rfl
  | load path =>
      show TurnEnd c _ (c.afterLoad _ (Savegame.load _ _))
      cases Savegame.load (c.targetPath path) (d.read (c.targetPath path)) with
      | error e => exact .shown (by simp) rfl rfl
      | ok save => exact .loaded path save _ rfl rfl
  | endTick | resetGuard => exact .adjusted _ c.save.hour _ (by simp) rfl rfl
  | setHour hour => exact .adjusted _ hour _ (by simp) rfl rfl
  | quit => exact .quit
  | tiles | party | status | help | unknown => exact .shown (by simp) rfl rfl

/-! ## §2. Runs. -/

/-- **The console and the disk after commands**, one after the other. -/
def executeAll (c : Console) (d : Disk) : List Command → Console × Disk
  | [] => (c, d)
  | command :: rest =>
    let (turn, d) := (c.execute command).run d
    turn.console.executeAll d rest

/-- **What each command keeps is kept by all of them.** -/
theorem executeAll_keeps {P : Console → Prop}
    (step : ∀ c d command, P c → P ((c.execute command).run d).1.console) {c : Console}
    (h : P c) (d : Disk) (commands : List Command) : P (c.executeAll d commands).1 := by
  induction commands generalizing c d with
  | nil => exact h
  | cons command rest ih => exact ih (step c d command h) _

/-! ## §3. What is played. -/

/-- The map, the settings and the path that a console was made with. -/
def game (c : Console) : GameMap × Context × String := (c.map, c.context, c.savePath)

theorem game_respond (c : Console) (a : Answer) : (c.respond a).console.game = c.game := by
  unfold respond
  split
  · rfl
  · split <;> rfl

/-- A command plays the same game. -/
theorem game_execute (c : Console) (d : Disk) (command : Command) :
    ((c.execute command).run d).1.console.game = c.game := by
  have hend := c.execute_ends d command
  generalize ((c.execute command).run d).1 = t at hend
  cases hend with
  | shown _ hconsole _ => rw [hconsole]
  | answered a _ _ => exact c.game_respond a
  | adjusted session hour tick _ _ hconsole => rw [hconsole]; rfl
  | loaded _ save _ _ hconsole => rw [hconsole]; rfl
  | tile | character | quit => rfl

/-- **No command changes what is played.** -/
theorem executeAll_game (c : Console) (d : Disk) (commands : List Command) :
    (c.executeAll d commands).1.game = c.game :=
  executeAll_keeps (P := fun c' => c'.game = c.game)
    (fun c' d' command h => (c'.game_execute d' command).trans h) rfl d commands

end TileEvents.Console
