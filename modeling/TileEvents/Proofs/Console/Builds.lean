/-
  TileEvents.Proofs.Console.Builds
  ────────────────────────────────
  **COMMANDS IN A BUILD.**

  A command makes the visits of at most one walk.  Where additions are checked,
  the program breaks down in the first command with a visit that has too much
  to add up.  What is left of the game then is the disk, as the commands before
  have left it; a build whose sums wrap executes all commands.

    • `visits`, `visits_lead`    — the visits of a command;
    • `breaksDown`, `Endures`    — whether the program breaks down;
    • `executeAllIn`             — commands in a build;
    • `executeAllIn_cases`       — all are executed, or all up to one.
-/
import TileEvents.Proofs.Console.Executing
import TileEvents.Proofs.Sample
import TileEvents.Proofs.Session.Visits
import TileEvents.Proofs.Walk.Overflow

namespace TileEvents.Console

/-! ## §1. One command. -/

/-- **The visits of a command.** -/
def visits (c : Console) : Command → List Visit
  | .interact interaction x y =>
    match c.pending with
    | some _ => []
    | none =>
      let trigger := interaction.trigger
      c.session.tileVisits c.context c.map x y trigger
        (c.scene.note .info s!"{interaction.inspect} at ({x}, {y}) classified as {trigger.name}")
  | .character event x y =>
    match c.pending with
    | some _ => []
    | none => c.session.characterVisits c.context c.map event x y Interaction.talk.trigger c.scene
  | .respond a =>
    match c.pending with
    | none => []
    | some w => resumeVisits c.context c.map w a c.scene
  | _ => []

/-- **A command with visits leaves what they lead to.** -/
theorem visits_lead (c : Console) (d : Disk) {command : Command} (h : c.visits command ≠ []) :
    let after := ((c.execute command).run d).1.console
    ∃ s', Leads c.context c.map c.scene (c.visits command) s'
      ∧ after.save = s'.save ∧ after.dice = s'.dice ∧ after.settled = s'.settled := by
  intro after
  cases command with
  | interact interaction x y =>
      have hafter : after = (c.interact interaction x y).console := rfl
      cases hpending : c.pending with
      | some w => simp [visits, hpending] at h
      | none =>
          simp only [hafter, interact, visits, hpending]
          refine ⟨_, ?_, rfl, rfl, rfl⟩
          refine .after_steady ?_ (c.session.leads_onTile c.context c.map x y interaction.trigger _)
          exact .of_save rfl rfl rfl
  | character event x y =>
      have hafter : after = (c.talk event x y).console := rfl
      cases hpending : c.pending with
      | some w => simp [visits, hpending] at h
      | none =>
          simp only [hafter, talk, visits, hpending]
          refine ⟨_, ?_, rfl, rfl, rfl⟩
          exact c.session.leads_onCharacter c.context c.map event x y Interaction.talk.trigger c.scene
  | respond a =>
      have hafter : after = (c.respond a).console := rfl
      cases hpending : c.pending with
      | none => simp [visits, hpending] at h
      | some w =>
          simp only [hafter, respond, visits, hpending]
          refine ⟨_, leads_resume c.context c.map w a c.scene, ?_⟩
          -- an answer that does not fit leaves the walk waiting, and the same scene
          rcases resume c.context c.map w a c.scene with ⟨result, s'⟩
          split
          · next heq =>
              injection heq with _ heq
              rw [heq]
              exact ⟨rfl, rfl, rfl⟩
          · next heq =>
              injection heq with _ heq
              rw [heq]
              exact ⟨rfl, rfl, rfl⟩
  | _ => exact absurd rfl h

/-- **Whether the program breaks down in a command.** -/
def breaksDown (build : Build) (c : Console) (command : Command) : Bool :=
  (c.visits command).any (Visit.breaks build)

/-- A build whose sums wrap breaks down in none. -/
@[simp] theorem breaksDown_wrapping (c : Console) (command : Command) :
    c.breaksDown .wrapping command = false :=
  Build.any_breaks_wrapping _

/-! ## §2. Runs. -/

/-- **The console and the disk after commands in a build**, one after the other, or the disk that is
left where the program breaks down. -/
def executeAllIn (build : Build) (c : Console) (d : Disk) : List Command → Except Disk (Console × Disk)
  | [] => .ok (c, d)
  | command :: rest =>
    if c.breaksDown build command then .error d
    else
      let (turn, d) := (c.execute command).run d
      turn.console.executeAllIn build d rest

section

variable {build : Build} {c : Console} {d : Disk} {command : Command}

theorem executeAllIn_cons_of_breaks (h : c.breaksDown build command = true)
    (rest : List Command) : c.executeAllIn build d (command :: rest) = .error d :=
  if_pos h

theorem executeAllIn_cons (h : c.breaksDown build command = false) (rest : List Command) :
    c.executeAllIn build d (command :: rest)
      = ((c.execute command).run d).1.console.executeAllIn build ((c.execute command).run d).2 rest :=
  if_neg (Bool.eq_false_iff.1 h)

end

/-- **The program breaks down in none of the commands**, each executed on what those before it have
left. -/
def Endures (build : Build) (c : Console) (d : Disk) (commands : List Command) : Prop :=
  ∀ before command, before ++ [command] <+: commands →
    (c.executeAll d before).1.breaksDown build command = false

/-- **The program breaks down in this command**, and those before it are executed. -/
structure BreaksAt (build : Build) (c : Console) (d : Disk) (commands before : List Command)
    (command : Command) : Prop where
  isPrefix : before ++ [command] <+: commands
  executed : c.executeAllIn build d before = .ok (c.executeAll d before)
  breaks : (c.executeAll d before).1.breaksDown build command = true

/-- **All commands are executed, or all up to one in which the program breaks down.** -/
theorem executeAllIn_cases (build : Build) (commands : List Command) :
    ∀ (c : Console) (d : Disk),
      (c.Endures build d commands
          ∧ c.executeAllIn build d commands = .ok (c.executeAll d commands))
        ∨ ∃ before command, c.BreaksAt build d commands before command
            ∧ c.executeAllIn build d commands = .error (c.executeAll d before).2 := by
  -- on the commands; the first breaks down or leaves the others to be executed
  induction commands with
  | nil =>
      intro c d
      refine .inl ⟨fun before command h => ?_, rfl⟩
      exact absurd (List.prefix_nil.1 h) (List.append_ne_nil_of_right_ne_nil before (by simp))
  | cons command rest ih =>
      intro c d
      cases hbreaks : c.breaksDown build command with
      | true =>
          refine .inr ⟨[], command, ⟨⟨rest, rfl⟩, rfl, hbreaks⟩, ?_⟩
          exact executeAllIn_cons_of_breaks hbreaks rest
      | false =>
          rcases ih ((c.execute command).run d).1.console ((c.execute command).run d).2 with
            ⟨hnone, hall⟩ | ⟨before, last, hlast, herror⟩
          · refine .inl ⟨fun before last h => ?_, (executeAllIn_cons hbreaks rest).trans hall⟩
            cases before with
            | nil =>
                obtain rfl : last = command := (List.cons_prefix_cons.1 h).1
                exact hbreaks
            | cons first before =>
                obtain ⟨rfl, hrest⟩ := List.cons_prefix_cons.1 h
                exact hnone before last hrest
          · refine .inr ⟨command :: before, last, ⟨?_, ?_, hlast.breaks⟩, ?_⟩
            · exact List.cons_prefix_cons.2 ⟨rfl, hlast.isPrefix⟩
            · exact (executeAllIn_cons hbreaks before).trans hlast.executed
            · exact (executeAllIn_cons hbreaks rest).trans herror

/-- Commands that are all executed leave the same in every build. -/
theorem executeAllIn_eq_ok_iff {build : Build} {c : Console} {d : Disk} {commands : List Command}
    {r : Console × Disk} :
    c.executeAllIn build d commands = .ok r
      ↔ c.Endures build d commands ∧ r = c.executeAll d commands := by
  rcases executeAllIn_cases build commands c d with ⟨hnone, hall⟩ | ⟨before, command, hbreaks, herror⟩
  · rw [hall, Except.ok.injEq, and_iff_right hnone, eq_comm]
  · have hsome : ¬ c.Endures build d commands := fun h =>
      Bool.false_ne_true ((h before command hbreaks.isPrefix).symm.trans hbreaks.breaks)
    rw [herror]
    constructor
    · rintro ⟨⟩
    · intro h
      exact absurd h.1 hsome

/-- A build whose sums wrap executes all commands. -/
theorem endures_wrapping (c : Console) (d : Disk) (commands : List Command) :
    c.Endures .wrapping d commands :=
  fun before command _ => (c.executeAll d before).1.breaksDown_wrapping command

/-- A party with more gold than a word can count steps onto the tile of a toll.  That is the last thing
that happens where additions are checked, and nothing special where sums wrap. -/
example :
    let toll : Node := ⟨⟨0⟩, .condition, none, .condition ⟨.hasGold, 0, 1, 2, none⟩⟩
    let m := { GameMap.ofNodes [toll] [⟨0⟩] with tiles := [⟨0, 0, 1⟩] }
    let save := { Savegame.blank with
      party := [{ Member.blank with gold := 4294967295 }, { Member.blank with gold := 2 }] }
    let c := Console.fresh m save (.plain []) (.ofScript []) "save"
    c.executeAllIn .checking .blank [.endTick, .interact .step 0 0] = .error .blank
      ∧ c.executeAllIn .wrapping .blank [.endTick, .interact .step 0 0]
        = .ok (c.executeAll .blank [.endTick, .interact .step 0 0]) :=
  ⟨rfl, rfl⟩

end TileEvents.Console
