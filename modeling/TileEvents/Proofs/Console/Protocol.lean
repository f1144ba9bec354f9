/-
  TileEvents.Proofs.Console.Protocol
  ──────────────────────────────────
  **ONE PROMPT AT A TIME.**

  A console keeps at most one walk that waits for an answer.  Whatever was
  commanded before, and whatever savegames were loaded, the walk that waits
  stands at a node of the map that asks for just this answer.  So an answer
  that fits takes the walk up and no other command but loading ends the wait:
  interactions are put off, and an answer that does not fit changes nothing.

    • `Waits`            — the invariant;
    • `execute_waits`    — each command keeps it;
    • `respond_unfit`    — an answer that does not fit;
    • `respond_fit`      — an answer that does;
    • `prompt_protocol`  — all of it, after any commands.
-/
import TileEvents.Proofs.Console.Executing
import TileEvents.Proofs.Walk.Answers

namespace TileEvents

namespace Console

/-! ## §1. The walk that waits. -/

/-- **The walk that waits stands at a node that asks for the answer it waits for.** -/
def Waits (c : Console) : Prop := ∀ w, c.pending = some w → c.map.Awaits w

theorem waiting?_eq_some {result : Except ChainError Outcome} {w : Suspension} :
    waiting? result = some w ↔ result = .ok (.suspended w) := by
  constructor
  · intro h
    unfold waiting? at h
    split at h
    · injection h with h
      rw [h]
    · cases h
  · rintro rfl
    rfl

/-- A walk that suspends where its prompt belongs leaves a console that waits there. -/
theorem waits_finish {c : Console} {result : Except ChainError Outcome} (session : Session)
    (s : Scene) (h : ∀ w, result = .ok (.suspended w) → c.map.Awaits w) :
    (c.finish result session s).console.Waits := by
  intro w hw
  exact h w (waiting?_eq_some.1 hw)

/-- A console that is the same but for what a walk does not look at waits as before. -/
theorem afterScene_of_unlogged {c : Console} {s : Scene} (h : s.unlogged = c.scene.unlogged) :
    c.afterScene s = c := by
  have hsave : s.save = c.save := congrArg Scene.save h
  have hdice : s.dice = c.dice := congrArg Scene.dice h
  have hsettled : s.settled = c.settled := congrArg Scene.settled h
  unfold afterScene
  rw [hsave, hdice, hsettled]

/-! ## §2. Answers. -/

section Answer

variable {c : Console} {w : Suspension} {a : Answer}

/-- An answer that does not fit is refused, and nothing but the log has changed. -/
theorem resume_unfit {m : GameMap} (h : m.Awaits w) (ha : w.prompt.accepts a = false)
    (ctx : Context) (s : Scene) :
    unloggedResult (resume ctx m w a s)
      = (.error (.unexpectedResponse w.node a), s.unlogged) := by
  obtain ⟨n, hn, hc, hasks⟩ := h
  rcases Node.answer_of_asks hasks ctx.dictionary s.save w.status a with ⟨hfits, -⟩ | ⟨-, hr⟩
  · rw [ha] at hfits
    cases hfits
  · exact resume_refused hn hc hr

/-- An answer that fits is not refused. -/
theorem resume_fit {m : GameMap} (h : m.Awaits w) (ha : w.prompt.accepts a = true)
    (ctx : Context) (s : Scene) (r : Refusal) (id : NodeId) (a' : Answer) :
    (resume ctx m w a s).1 ≠ .error (r.error id a') := by
  obtain ⟨n, hn, hc, hasks⟩ := h
  rcases Node.answer_of_asks hasks ctx.dictionary s.save w.status a with ⟨-, b, hb⟩ | ⟨hunfit, -⟩
  · exact resume_not_refused hn hb r id a'
  · rw [ha] at hunfit
    cases hunfit

/-- No answer finds a node that asks nothing. -/
theorem resume_ne_notSuspendable {m : GameMap} (h : m.Awaits w) (ctx : Context) (s : Scene)
    (id : NodeId) : (resume ctx m w a s).1 ≠ .error (.notSuspendable id) := by
  cases ha : w.prompt.accepts a with
  | true => exact resume_fit h ha ctx s .notSuspendable id a
  | false =>
      have hresult := congrArg Prod.fst (resume_unfit h ha ctx s)
      intro herror
      rw [show (unloggedResult (resume ctx m w a s)).1 = (resume ctx m w a s).1 from rfl,
        herror] at hresult
      injection hresult with hresult
      cases hresult

/-- **An answer that does not fit leaves the console as it was.** -/
theorem respond_unfit (h : c.map.Awaits w) (hw : c.pending = some w)
    (ha : w.prompt.accepts a = false) : (c.respond a).console = c := by
  have hrefused := resume_unfit h ha c.context c.scene
  unfold respond
  simp only [hw]
  generalize resume c.context c.map w a c.scene = r at hrefused
  obtain ⟨result, s⟩ := r
  injection hrefused with hresult hs
  simp only at hresult hs
  subst hresult
  exact afterScene_of_unlogged hs

/-- **An answer that fits takes the walk up**, and the console waits again only if the walk does. -/
theorem respond_fit (h : c.map.Awaits w) (hw : c.pending = some w)
    (ha : w.prompt.accepts a = true) :
    c.respond a = c.finish (resume c.context c.map w a c.scene).1 c.session
      (resume c.context c.map w a c.scene).2 := by
  have htaken := resume_fit h ha c.context c.scene .unexpected
  unfold respond
  simp only [hw]
  generalize resume c.context c.map w a c.scene = r at htaken
  obtain ⟨result, s⟩ := r
  split
  next id a' s' heq =>
    injection heq with hresult _
    exact absurd hresult (htaken id a')
  next result' s' hne heq =>
    injection heq with hresult hs
    rw [hresult, hs]

end Answer

/-- An answer leaves a console that waits where its prompt belongs. -/
theorem respond_waits {c : Console} (h : c.Waits) (a : Answer) : (c.respond a).console.Waits := by
  cases hw : c.pending with
  | none =>
      unfold respond
      simp only [hw]
      exact h
  | some w =>
      have hawaits := h w hw
      cases ha : w.prompt.accepts a with
      | false => rwa [respond_unfit hawaits hw ha]
      | true =>
          rw [respond_fit hawaits hw ha]
          refine waits_finish _ _ fun w' hw' => ?_
          -- the same walk again, or one that came to another prompt
          rcases resume_awaits hw' with rfl | hnew
          · exact hawaits
          · exact hnew

/-! ## §3. Commands. -/

/-- A console that has been given a savegame waits for nothing. -/
theorem waits_restore (c : Console) (save : Savegame) : (c.restore save).Waits := by
  intro w hw
  cases hw

/-- **Each command leaves a console that waits where its prompt belongs.** -/
theorem execute_waits (c : Console) (d : Disk) (command : Command) (h : c.Waits) :
    ((c.execute command).run d).1.console.Waits := by
  have hend := c.execute_ends d command
  generalize ((c.execute command).run d).1 = t at hend
  cases hend with
  | shown _ hconsole _ => rwa [hconsole]
  | tile => exact waits_finish _ _ fun w hw => Session.onTile_awaits hw
  | character => exact waits_finish _ _ fun w hw => Session.onCharacter_awaits hw
  | answered a _ _ => exact respond_waits h a
  | adjusted session hour tick _ _ hconsole =>
      rw [hconsole]
      exact h
  | loaded _ save _ _ hconsole =>
      rw [hconsole]
      exact waits_restore c save
  | quit => exact h

/-- **So do all of them.** -/
theorem executeAll_waits {c : Console} (h : c.Waits) (d : Disk) (commands : List Command) :
    (c.executeAll d commands).1.Waits :=
  executeAll_keeps execute_waits h d commands

/-- Whether a command leaves the console and every disk as they are. -/
def Ignores (c : Console) (command : Command) : Prop :=
  ∀ d, ((c.execute command).run d).1.console = c ∧ ((c.execute command).run d).2 = d

/-- While no walk waits, there is nothing to answer. -/
theorem ignores_respond {c : Console} (h : c.pending = none) (a : Answer) :
    c.Ignores (.respond a) := by
  intro d
  refine ⟨?_, rfl⟩
  show (c.respond a).console = c
  unfold respond
  rw [h]
  rfl

/-- While a walk waits, the player can do nothing to a tile. -/
theorem ignores_interact {c : Console} {w : Suspension} (hw : c.pending = some w)
    (interaction : Interaction) (x y : UInt8) : c.Ignores (.interact interaction x y) := by
  intro d
  refine ⟨?_, rfl⟩
  show (c.interact interaction x y).console = c
  unfold interact
  rw [hw]
  rfl

/-- Nor talk to anybody. -/
theorem ignores_character {c : Console} {w : Suspension} (hw : c.pending = some w)
    (event : UInt16) (x y : UInt8) : c.Ignores (.character event x y) := by
  intro d
  refine ⟨?_, rfl⟩
  show (c.talk event x y).console = c
  unfold talk
  rw [hw]
  rfl

end Console

/-! ## §4. The protocol. -/

/-- **The protocol of the prompts**, at a console that has executed any commands on any disk.  A walk
that waits stands at a node of the map that asks for the answer it waits for, and no answer finds a
node that asks nothing.  While it waits, interactions change nothing, and neither does an answer that
does not fit; an answer that fits ends the wait, and afterwards the walk waits that the answer has led
to, if it has led to one.  While none waits, answers change nothing. -/
theorem prompt_protocol (map : GameMap) (save : Savegame) (context : Context) (dice : Dice)
    (path : String) (d : Disk) (commands : List Command) :
    let c := ((Console.fresh map save context dice path).executeAll d commands).1
    (c.map = map ∧ c.context = context)
      ∧ (c.pending = none → ∀ a, c.Ignores (.respond a))
      ∧ ∀ w, c.pending = some w →
        map.Awaits w
          ∧ (∀ a id, (resume context map w a c.scene).1 ≠ .error (.notSuspendable id))
          ∧ (∀ interaction x y, c.Ignores (.interact interaction x y))
          ∧ (∀ event x y, c.Ignores (.character event x y))
          ∧ (∀ a, w.prompt.accepts a = false → c.Ignores (.respond a))
          ∧ ∀ a, w.prompt.accepts a = true →
            let r := resume context map w a c.scene
            ∀ d, (c.execute (.respond a)).run d = (c.finish r.1 c.session r.2, d)
              ∧ ∀ w', ((c.execute (.respond a)).run d).1.console.pending = some w'
                  ↔ r.1 = .ok (.suspended w') := by
  intro c
  have hgame : c.game = (map, context, path) := Console.executeAll_game _ d commands
  have hmap : c.map = map := congrArg Prod.fst hgame
  have hcontext : c.context = context := congrArg (·.2.1) hgame
  have hwaits : c.Waits := by
    have hfresh : (Console.fresh map save context dice path).Waits := fun w hw => by cases hw
    exact Console.executeAll_waits hfresh d commands
  refine ⟨⟨hmap, hcontext⟩, fun hnone a => Console.ignores_respond hnone a, ?_⟩
  intro w hw
  have hawaits := hwaits w hw
  rw [← hmap, ← hcontext]
  refine ⟨hawaits, fun a id => Console.resume_ne_notSuspendable hawaits _ _ id,
    fun interaction x y => Console.ignores_interact hw interaction x y,
    fun event x y => Console.ignores_character hw event x y, ?_, ?_⟩
  · intro a ha d
    exact ⟨Console.respond_unfit hawaits hw ha, rfl⟩
  · intro a ha r d
    have hturn : c.respond a = c.finish r.1 c.session r.2 := Console.respond_fit hawaits hw ha
    refine ⟨?_, fun w' => ?_⟩
    · show (c.respond a, d) = _
      rw [hturn]
    · show (c.respond a).console.pending = some w' ↔ _
      rw [hturn]
      exact Console.waiting?_eq_some

/-- A riddle that a character has told waits through the end of the tick.  A plain yes does not fit and
the right word ends the wait. -/
theorem prompt_protocol_riddle :
    let m := GameMap.ofNodes [⟨⟨0⟩, .riddlemouth, none, .riddlemouth 4 5 [0]⟩] [⟨0⟩]
    let c := ((Console.fresh m .blank (.plain ["echo"]) (.ofScript []) "save").executeAll .blank
      [.character 1 0 0, .endTick]).1
    c.pending = some ⟨.riddle 4 5, ⟨1, 0, 0, none⟩, ⟨0⟩, false⟩
      ∧ c.Ignores (.character 1 0 0) ∧ c.Ignores (.respond .yes)
      ∧ ∀ d w', ((c.execute (.respond (.word "echo"))).run d).1.console.pending ≠ some w' := by
  intro m c
  have hpending : c.pending = some ⟨.riddle 4 5, ⟨1, 0, 0, none⟩, ⟨0⟩, false⟩ := rfl
  obtain ⟨-, -, hwaiting⟩ := prompt_protocol m .blank (.plain ["echo"]) (.ofScript []) "save" .blank
    [.character 1 0 0, .endTick]
  obtain ⟨-, -, -, htalk, hunfit, hfit⟩ := hwaiting _ hpending
  refine ⟨hpending, htalk 1 0 0, hunfit .yes rfl, ?_⟩
  intro d w' hw'
  have hresumed := ((hfit (.word "echo") rfl d).2 w').1 hw'
  have hcompleted : (resume (.plain ["echo"]) m ⟨.riddle 4 5, ⟨1, 0, 0, none⟩, ⟨0⟩, false⟩
      (.word "echo") c.scene).1 = .ok (.completed true) := rfl
  rw [hcompleted] at hresumed
  cases hresumed

end TileEvents
