/-
  TileEvents.Proofs.Console.Dialogue
  ──────────────────────────────────
  **A DIALOGUE IS A RUN OF COMMANDS.**

  The dialogue takes one line after the other and looks at nothing but the
  command that a line is.  So what it leaves is what the commands of its lines
  leave, executed in order up to the first that quits; lines that are no
  command leave no trace.  This is so in every build, and a dialogue comes to
  its end unless the program breaks down in one of the commands.

    • `hear_of_none`, `hear_of_some` — one line;
    • `ofLine?_append_return`        — a carriage return more;
    • `converseIn`, `playIn`         — a dialogue in a build;
    • `left_converseIn`              — the induction over lines;
    • `dialogue_is_run_of_commands`  — any input.
-/
import TileEvents.Console.Dialogue
import TileEvents.Proofs.Console.Builds
import TileEvents.Proofs.Sample
import TileEvents.Proofs.Text.Lines

namespace TileEvents

/-! ## §1. The commands of lines. -/

namespace Command

/-- **The command that a line of input is**, if the line is a text and not blank. -/
def ofLine? (line : List UInt8) : Option Command :=
  match Text.Utf8.decode? line with
  | none => none
  | some text => if Text.isBlankText text.toList then none else some (.parse text)

/-- The commands up to the first that quits, which is one of them. -/
def upToQuit : List Command → List Command
  | [] => []
  | .quit :: _ => [.quit]
  | command :: rest => command :: upToQuit rest

theorem upToQuit_cons {command : Command} (h : command ≠ .quit) (rest : List Command) :
    upToQuit (command :: rest) = command :: upToQuit rest := by
  cases command with
  | quit => exact absurd rfl h
  | _ => rfl

/-- A carriage return at its end is no part of a command. -/
theorem parse_append_return (text : String) : parse (text ++ "\r") = parse text := by
  unfold parse
  rw [String.toList_append, show ("\r" : String).toList = ['\r'] from rfl,
    Text.words_append_blank (by decide)]

/-- **A carriage return at its end makes no other command of a line.** -/
theorem ofLine?_append_return (line : List UInt8) :
    ofLine? (line ++ [Text.carriageReturn]) = ofLine? line := by
  unfold ofLine?
  rw [Text.decode?_append_return]
  cases Text.Utf8.decode? line with
  | none => rfl
  | some text =>
      have hblank : Text.isBlankText (text ++ "\r").toList = Text.isBlankText text.toList := by
        rw [String.toList_append, show ("\r" : String).toList = ['\r'] from rfl,
          Text.isBlankText_append_blank (by decide)]
      simp only [Option.map_some, hblank, parse_append_return]

/-- A line without the carriage returns at its end. -/
abbrev withoutReturns (line : List UInt8) : List UInt8 := line.rdropWhile (· == Text.carriageReturn)

/-- Neither do any number of them. -/
theorem ofLine?_withoutReturns (line : List UInt8) : ofLine? (withoutReturns line) = ofLine? line := by
  induction line using List.reverseRecOn with
  | nil => rfl
  | append_singleton line b ih =>
      unfold withoutReturns
      rw [List.rdropWhile_concat]
      by_cases hb : b = Text.carriageReturn
      · rw [if_pos (by simp [hb]), hb, ofLine?_append_return]
        exact ih
      · rw [if_neg (by simp [hb])]

/-- Lines that differ in their carriage returns alone are the same commands. -/
theorem filterMap_ofLine?_congr {lines lines' : List (List UInt8)}
    (h : lines'.map withoutReturns = lines.map withoutReturns) :
    lines'.filterMap ofLine? = lines.filterMap ofLine? := by
  have hreturns (lines : List (List UInt8)) :
      (lines.map withoutReturns).filterMap ofLine? = lines.filterMap ofLine? := by
    rw [List.filterMap_map]
    exact List.filterMap_congr fun line _ => ofLine?_withoutReturns line
  rw [← hreturns lines', h, hreturns]

end Command

namespace Console

/-! ## §2. One line. -/

theorem quits_respond (c : Console) (a : Answer) : (c.respond a).quits = false := by
  unfold respond
  split
  · rfl
  · split <;> rfl

/-- A turn quits only if its command does. -/
theorem quits_execute (c : Console) (d : Disk) (command : Command) :
    ((c.execute command).run d).1.quits = decide (command = .quit) := by
  have hend := c.execute_ends d command
  generalize ((c.execute command).run d).1 = t at hend
  cases hend with
  | shown hcommand _ hquits => rw [hquits, decide_eq_false hcommand]
  | adjusted _ _ _ hcommand hquits _ => rw [hquits, decide_eq_false hcommand]
  | answered a _ _ => exact c.quits_respond a
  | loaded _ _ _ hquits _ => exact hquits
  | tile | character | quit => rfl

/-- **A line that is no command changes nothing.** -/
theorem hear_of_none {line : List UInt8} (h : Command.ofLine? line = none) (c : Console) :
    ∃ notices, c.hear line = .done (c.say notices) := by
  unfold Command.ofLine? at h
  unfold hear
  cases hdecode : Text.Utf8.decode? line with
  | none => exact ⟨_, rfl⟩
  | some text =>
      rw [hdecode] at h
      by_cases hblank : Text.isBlankText text.toList = true
      · exact ⟨[], if_pos hblank⟩
      · simp only [if_neg hblank] at h
        cases h

/-- **A line that is a command is executed.** -/
theorem hear_of_some {line : List UInt8} {command : Command}
    (h : Command.ofLine? line = some command) (c : Console) : c.hear line = c.execute command := by
  unfold Command.ofLine? at h
  unfold hear
  cases hdecode : Text.Utf8.decode? line with
  | none =>
      rw [hdecode] at h
      cases h
  | some text =>
      rw [hdecode] at h
      by_cases hblank : Text.isBlankText text.toList = true
      · simp only [if_pos hblank] at h
        cases h
      · simp only [if_neg hblank] at h
        injection h with h
        rw [← h]
        exact if_neg hblank

/-! ## §3. Dialogues. -/

/-- The console and the disk that a dialogue leaves. -/
def Ending.left (e : Ending) : Console × Disk := (e.console, e.disk)

/-- The dialogue over the lines that are left, in a build, or the disk that is left where the program
breaks down. -/
def converseIn (build : Build) (colored : Bool) (c : Console) (d : Disk) :
    List (List UInt8) → Except Disk Ending
  | [] => .ok ⟨c.callSpan.render colored, c, d⟩
  | line :: rest =>
    if (Command.ofLine? line).any (c.breaksDown build) then .error d
    else
      let (turn, d) := (c.hear line).run d
      let printed := c.callSpan.render colored ++ Notice.renderAll colored turn.notices
      if turn.quits then .ok ⟨printed, turn.console, d⟩
      else (turn.console.converseIn build colored d rest).map (·.after printed)

/-- **Play from an input in a build.** -/
def playIn (build : Build) (colored : Bool) (c : Console) (d : Disk) (input : List UInt8) :
    Except Disk Ending :=
  (c.converseIn build colored d (Text.byteLines input)).map
    (·.after (Span.renderAll colored c.titleSpans))

/-- What is printed before it makes no difference to what a dialogue leaves. -/
theorem map_left_after (printed : String) (e : Except Disk Ending) :
    (e.map (·.after printed)).map Ending.left = e.map Ending.left := by
  cases e <;> rfl

/-- **A dialogue that comes to its end is the same in all builds.** -/
theorem converse_of_converseIn {build : Build} {colored : Bool} (lines : List (List UInt8)) :
    ∀ {c : Console} {d : Disk} {e : Ending}, c.converseIn build colored d lines = .ok e →
      e = c.converse colored d lines := by
  -- on the lines; the two differ only where a line breaks down, and then there is no end
  induction lines with
  | nil =>
      intro c d e h
      cases h
      rfl
  | cons line rest ih =>
      intro c d e h
      unfold converseIn at h
      unfold converse
      split at h
      · cases h
      · dsimp only at h ⊢
        split at h
        · next hquits =>
            rw [if_pos hquits]
            cases h
            rfl
        · next hstays =>
            rw [if_neg hstays]
            generalize hrest : converseIn build colored _ _ rest = r at h
            cases r with
            | error d' => cases h
            | ok e' =>
                cases h
                rw [ih hrest]

/-- **A dialogue over lines leaves what their commands leave.** -/
theorem left_converseIn (build : Build) (colored : Bool) (lines : List (List UInt8)) :
    ∀ (c : Console) (d : Disk), (c.converseIn build colored d lines).map Ending.left
      = c.executeAllIn build d (Command.upToQuit (lines.filterMap Command.ofLine?)) := by
  -- on the lines; the cases are what the first of them is
  induction lines with
  | nil => intro c d; rfl
  | cons line lines ih =>
      intro c d
      unfold converseIn
      cases hline : Command.ofLine? line with
      | none =>
          obtain ⟨notices, hheard⟩ := hear_of_none hline c
          rw [List.filterMap_cons_none hline, ← ih c d, hheard]
          exact map_left_after _ _
      | some command =>
          have hquits := c.quits_execute d command
          rw [List.filterMap_cons_some hline, hear_of_some hline c, Option.any_some]
          by_cases hquit : command = .quit
          · subst hquit
            rfl
          · rw [Command.upToQuit_cons hquit]
            cases hbreaks : c.breaksDown build command with
            | true => exact (executeAllIn_cons_of_breaks hbreaks _).symm
            | false =>
                rw [executeAllIn_cons hbreaks, ← ih, if_neg Bool.false_ne_true]
                dsimp only
                rw [hquits, decide_eq_false hquit, if_neg Bool.false_ne_true]
                exact map_left_after _ _

/-- To quit leaves everything as it is. -/
theorem executeAllIn_upToQuit_concat (build : Build) (commands : List Command) :
    ∀ (c : Console) (d : Disk), c.executeAllIn build d (Command.upToQuit (commands ++ [.quit]))
      = c.executeAllIn build d (Command.upToQuit commands) := by
  -- on the commands; one that quits hides the last
  induction commands with
  | nil => exact fun _ _ => rfl
  | cons command rest ih =>
      intro c d
      by_cases hquit : command = .quit
      · rw [hquit]
        rfl
      · rw [List.cons_append, Command.upToQuit_cons hquit, Command.upToQuit_cons hquit]
        unfold executeAllIn
        dsimp only
        rw [ih]

section

variable (build : Build) (colored : Bool) (c : Console) (d : Disk) (input : List UInt8)

/-- A dialogue leaves what the commands of its input leave. -/
theorem left_playIn : (c.playIn build colored d input).map Ending.left
    = c.executeAllIn build d
        (Command.upToQuit ((Text.byteLines input).filterMap Command.ofLine?)) :=
  (map_left_after _ _).trans (left_converseIn build colored (Text.byteLines input) c d)

variable {build colored c d input}

theorem play_of_playIn {e : Ending} (h : c.playIn build colored d input = .ok e) :
    e = c.play colored d input := by
  unfold playIn at h
  generalize hended : c.converseIn build colored d (Text.byteLines input) = r at h
  cases r with
  | error d' => cases h
  | ok e' =>
      cases h
      rw [converse_of_converseIn _ hended]
      rfl

/-- **A dialogue comes to its end where its commands do.** -/
theorem exists_playIn_iff :
    (∃ e, c.playIn build colored d input = .ok e)
      ↔ c.Endures build d
          (Command.upToQuit ((Text.byteLines input).filterMap Command.ofLine?)) := by
  have hleft := left_playIn build colored c d input
  constructor
  · rintro ⟨e, he⟩
    rw [he] at hleft
    exact (executeAllIn_eq_ok_iff.1 hleft.symm).1
  · intro h
    rw [executeAllIn_eq_ok_iff.2 ⟨h, rfl⟩] at hleft
    cases hplay : c.playIn build colored d input with
    | error d' =>
        rw [hplay] at hleft
        cases hleft
    | ok e => exact ⟨e, rfl⟩

end

end Console

end TileEvents
