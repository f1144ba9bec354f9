/-
  TileEvents.Proofs.Session.Validated
  ───────────────────────────────────
  **NO RUN ON A VALIDATED MAP GOES ASTRAY.**

  Every place a game can come to on a closed map is a node of its table: the
  start of a chain, what a walk goes on to, what the guard looks at, and the
  node of every suspension ever returned, with the links its answers lead to.
  So a run fails only at nodes that cannot be used, at the limit, or for an
  answer that does not fit.

    • `walk_sound`, `resume_sound`, `onTile_sound`, `onCharacter_sound`
                      — one interaction on a closed map;
    • `playAll_keeps` — the induction over the moves of a run;
    • `validated_run_stays_on_map` — both for the map of a definition without
                        problems.
-/
import TileEvents.Proofs.Definition.Closed
import TileEvents.Proofs.Sample
import TileEvents.Proofs.Session.Ending
import TileEvents.Proofs.Session.LookAhead
import TileEvents.Proofs.Walk.Answers
import TileEvents.Session.Playthrough

namespace TileEvents

/-! ## §1. Sound results. -/

/-- What an interaction with a closed map can fail with. -/
inductive GameMap.Fails (m : GameMap) : ChainError → Prop where
  | breaks (n : Node) (e : ChainError) (hn : m.node n.id = .ok n) (he : n.Breaks e) : m.Fails e
  | runsOut (first : NodeId) (limit : Nat) : m.Fails (.chainLimitExceeded first limit)
  | unexpected (id : NodeId) (a : Answer) : m.Fails (.unexpectedResponse id a)

/-- **A result that does not lead astray**, neither at once nor when its suspension is answered. -/
structure GameMap.Sound (m : GameMap) (result : Except ChainError Outcome) : Prop where
  fails : ∀ {e}, result = .error e → m.Fails e
  awaits : ∀ {w}, result = .ok (.suspended w) → m.Awaits w

namespace GameMap

variable {m : GameMap}

/-- A failure of the right kind is sound. -/
theorem Fails.sound {e : ChainError} (h : m.Fails e) : m.Sound (.error e) where
  fails he := by
    injection he with he
    rw [← he]
    exact h
  awaits hw := nomatch hw

/-- A suspension of a node that gives its prompt is sound. -/
theorem Awaits.sound {w : Suspension} (h : m.Awaits w) : m.Sound (.ok (.suspended w)) where
  fails he := nomatch he
  awaits hw := by
    injection hw with hw
    injection hw with hw
    rw [← hw]
    exact h

/-- Any other outcome is sound. -/
theorem Sound.of_outcome {o : Outcome} (h : ∀ w, o ≠ .suspended w) : m.Sound (.ok o) where
  fails he := nomatch he
  awaits hw := by
    injection hw with hw
    exact absurd hw (h _)

namespace IsClosed

/-- On a closed map a walk does not leave the table. -/
theorem reaches (hm : m.IsClosed) {start id : NodeId} {n : Node} (hstart : m.node start = .ok n)
    (h : m.Reaches start id) : ∃ n, m.node id = .ok n := by
  induction h with
  | here => exact ⟨n, hstart⟩
  | onward _ hn hj _ => exact hm.linked hn _ (Node.onward_subset_links _ hj)

/-- On a closed map the look-ahead does not leave the table. -/
theorem ahead? (hm : m.IsClosed) {id : NodeId} {n : Node} (hid : m.node id = .ok n) :
    ∀ {k : Nat} {j : NodeId}, m.ahead? id k = some j → ∃ n, m.node j = .ok n := by
  intro k
  induction k with
  | zero =>
      intro j hj
      injection hj with hj
      exact ⟨n, by rw [← hj]; exact hid⟩
  | succ k _ =>
      intro j hj
      obtain ⟨i, -, hpast⟩ := Option.bind_eq_some_iff.1 hj
      obtain ⟨n', hn', -, hnext⟩ := past?_eq_some hpast
      exact hm.linked hn' j (by simp [Node.links, hnext])

/-- On a closed map the guard always decides. -/
theorem holdsBack (hm : m.IsClosed) {event : UInt16} {head : NodeId}
    (hhead : m.chainHead event = .ok head) (g : RepeatGuard) (trigger : Trigger) (e : ChainError) :
    g.holdsBack m event trigger ≠ .error e := by
  intro h
  -- the guard fails only outside the table, and no path of the look-ahead leads there
  obtain ⟨-, j, ⟨k, hj, hsize⟩, -⟩ := (RepeatGuard.holdsBack_eq_error hhead).1 h
  obtain ⟨n, hn⟩ := hm.headed hhead
  obtain ⟨n', hn'⟩ := hm.ahead? hn hj
  simp [node, hsize] at hn'

/-! ## §2. One interaction. -/

/-- **A walk from a node of a closed map is sound.** -/
theorem walk_sound (hm : m.IsClosed) {start : NodeId} {n : Node} (hstart : m.node start = .ok n)
    (ctx : Context) (origin : Origin) (trigger : Trigger) (status : Bool) (s : Scene) :
    m.Sound (walk ctx m origin start trigger status s).1 := by
  have hend := walk_ends ctx m origin start trigger status s
  generalize (walk ctx m origin start trigger status s).1 = result at hend
  cases hend with
  | runsOut first limit => exact (Fails.runsOut first limit).sound
  | missing id h hid =>
      -- the walk came here along links, so there is a node after all
      obtain ⟨n', hn'⟩ := hm.reaches hstart h
      simp [node, hid] at hn'
  | breaks id n' e h hn' he =>
      refine (Fails.breaks n' e ?_ he).sound
      rw [hm.named hn']
      exact hn'
  | aborted => exact .of_outcome (by simp)
  | completed status => exact .of_outcome (by simp)
  | suspended w h hw horigin => exact hw.sound

/-- **An answer to a suspension of a closed map is sound.** -/
theorem resume_sound (hm : m.IsClosed) {w : Suspension} (hw : m.Awaits w) (ctx : Context)
    (a : Answer) (s : Scene) : m.Sound (resume ctx m w a s).1 := by
  have hw' := hw
  obtain ⟨n, hn, -, hasks⟩ := hw'
  have hend := resume_ends ctx m w a s
  generalize resume ctx m w a s = r at hend
  cases hend with
  | missing hsize => simp [node, hsize] at hn
  | breaks n' e hn' he =>
      refine (Fails.breaks n' e ?_ he).sound
      rw [hm.named hn']
      exact hn'
  | refused n' r s' hn' hr hs =>
      -- this is the node that gave the prompt, so it refuses no answer but one that does not fit
      rw [hn] at hn'
      injection hn' with hn'
      rw [← hn'] at hr
      rcases n.answer_of_asks hasks ctx.dictionary s.save w.status a with ⟨-, b, hb⟩ | ⟨-, hrefused⟩
      · rw [hb] at hr
        cases hr
      · rw [hrefused] at hr
        injection hr with hr
        rw [← hr]
        exact (Fails.unexpected w.node a).sound
  | again n' s' hn' hb hs => exact hw.sound
  | aborted n' s' hn' hb => exact .of_outcome (by simp)
  | completed n' status s' hn' hb => exact .of_outcome (by simp)
  | walked n' next status s' hn' hb =>
      -- the answer took a link of the node, and from there on it is a walk
      obtain ⟨n'', hnext⟩ := hm.linked hn' next (Node.answer_follows hb)
      exact hm.walk_sound hnext ctx w.origin .always status s'

/-- **An interaction with a tile of a closed map is sound.** -/
theorem onTile_sound (hm : m.IsClosed) (session : Session) (ctx : Context) (x y : UInt8)
    (trigger : Trigger) (s : Scene) : m.Sound (session.onTile ctx m x y trigger s).1 := by
  have hend := session.onTile_ends ctx m x y trigger s
  generalize (session.onTile ctx m x y trigger s).1 = result at hend
  generalize (session.onTile ctx m x y trigger s).2.1 = session' at hend
  cases hend with
  | quiet h => exact .of_outcome (by simp)
  | unknown event e hevent he =>
      -- what lies on a tile is an event of the map, and it has a chain
      obtain ⟨head, hhead⟩ := hm.placed (Option.filter_eq_some_iff.1 hevent).1
      rw [hhead] at he
      cases he
  | stuck event head e hevent hhead he => exact absurd he (hm.holdsBack hhead _ _ e)
  | heldBack event head hevent hhead hheld => exact .of_outcome (by simp)
  | fired event head s' hevent hhead hpassed =>
      obtain ⟨n, hn⟩ := hm.headed hhead
      exact hm.walk_sound hn ctx _ trigger false s'

/-- **An interaction with a character is sound** if it has an event of the map. -/
theorem onCharacter_sound (hm : m.IsClosed) (session : Session) (ctx : Context) {event : UInt16}
    (hpos : 1 ≤ event.toNat) (hcount : event.toNat ≤ m.eventCount) (x y : UInt8)
    (trigger : Trigger) (s : Scene) :
    m.Sound (session.onCharacter ctx m event x y trigger s).1 := by
  have hend := session.onCharacter_ends ctx m event x y trigger s
  generalize (session.onCharacter ctx m event x y trigger s).1 = result at hend
  generalize (session.onCharacter ctx m event x y trigger s).2.1 = session' at hend
  cases hend with
  | unknown e he =>
      obtain ⟨head, hhead⟩ := chainHead_of_le hpos hcount
      rw [hhead] at he
      cases he
  | busy head hhead hbusy => exact .of_outcome (by simp)
  | started head s' hhead hfree =>
      obtain ⟨n, hn⟩ := hm.headed hhead
      exact hm.walk_sound hn ctx _ trigger false s'

end IsClosed

end GameMap

/-! ## §3. Runs. -/

/-- The moves that keep to a map: interactions with its tiles and with characters that have one of
its events, answers to suspensions that were returned before, and whatever happens between them.  A
move that makes up a node, a suspension or an event of its own does not. -/
def Move.KeepsTo (m : GameMap) : Move → Prop
  | .character _ event _ _ _ => 1 ≤ event.toNat ∧ event.toNat ≤ m.eventCount
  | .walk .. | .forge .. | .inspectTarget .. | .place .. => False
  | _ => True

namespace Playthrough

/-- **The induction over a run**: what each allowed move keeps, the run keeps, and what holds of the
report of each allowed move holds of every report. -/
theorem playAll_keeps {I : Playthrough → Prop} {Q : Report → Prop} {allowed : Move → Prop}
    (step : ∀ p move, I p → allowed move → Q (p.play move).1 ∧ I (p.play move).2) :
    ∀ (moves : List Move) (p : Playthrough), I p → (∀ move ∈ moves, allowed move) →
      (∀ report ∈ (p.playAll moves).1, Q report) ∧ I (p.playAll moves).2 := by
  intro moves
  induction moves with
  | nil =>
      intro p hp _
      refine ⟨?_, hp⟩
      intro report hr
      cases hr
  | cons move moves ih =>
      intro p hp hmoves
      obtain ⟨hreport, hnext⟩ := step p move hp (hmoves move List.mem_cons_self)
      obtain ⟨hreports, hlast⟩ := ih (p.play move).2 hnext
        fun move' h => hmoves move' (List.mem_cons_of_mem _ h)
      refine ⟨?_, hlast⟩
      intro report hr
      rcases List.mem_cons.1 hr with rfl | hr
      · exact hreport
      · exact hreports report hr

/-- A game on one map in which every suspension fits a node of the map. -/
structure IsOn (m : GameMap) (p : Playthrough) : Prop where
  stage : ∃ settled, p.stages = #[⟨m, settled⟩]
  awaits : ∀ w ∈ p.suspensions, m.Awaits w

/-- A report that shows no failure but those of a closed map. -/
def FailsAsClosed (m : GameMap) (report : Report) : Prop :=
  ∀ e, report.result = .walked (.error e) → m.Fails e

variable {m : GameMap} {p : Playthrough}

/-- A move that does not walk keeps to its map. -/
theorem quietly_sound (hp : p.IsOn m) {result : MoveResult}
    (h : ∀ r, result ≠ .walked r) :
    FailsAsClosed m (p.quietly result).1 ∧ (p.quietly result).2.IsOn m := by
  refine ⟨?_, hp⟩
  intro e he
  exact absurd he (h _)

/-- A sound interaction keeps the game on its map. -/
theorem interact_sound (hp : p.IsOn m) {f : Interplay}
    (hf : ∀ ctx session s, m.Sound (f ctx m session s).1) (stage : Nat) :
    FailsAsClosed m (p.interact stage f).1 ∧ (p.interact stage f).2.IsOn m := by
  obtain ⟨settled, hstages⟩ := hp.stage
  unfold interact
  cases stage with
  | succ stage =>
      -- there is only the one map
      simp only [hstages]
      exact quietly_sound hp (by simp)
  | zero =>
      have hsound := hf p.context p.session ⟨p.save, p.dice, settled, #[], #[]⟩
      simp only [hstages]
      refine ⟨?_, ⟨_, rfl⟩, ?_⟩
      · intro e he
        injection he with he
        exact hsound.fails he
      · intro w hw
        rcases mem_collect hw with hbefore | hnew
        · exact hp.awaits w hbefore
        · exact hsound.awaits hnew

/-- **Every move that keeps to a closed map keeps the game on it.** -/
theorem play_sound (hm : m.IsClosed) (hp : p.IsOn m) {move : Move} (h : move.KeepsTo m) :
    FailsAsClosed m (p.play move).1 ∧ (p.play move).2.IsOn m := by
  have hend := p.play_ends move
  generalize p.play move = played at hend
  cases hend with
  | tile stage x y interaction =>
      exact interact_sound hp (fun ctx session s => hm.onTile_sound session ctx x y _ s) stage
  | character stage event x y interaction =>
      exact interact_sound hp
        (fun ctx session s => hm.onCharacter_sound session ctx h.1 h.2 x y _ s) stage
  | resume stage which answer w hw =>
      -- only suspensions of this run are answered, and they fit nodes of the map
      have hawaits : m.Awaits w := hp.awaits w (suspension?_mem hw)
      exact interact_sound hp (fun ctx session s => hm.resume_sound hawaits ctx answer s) stage
  | quiet result q hresult hstages hsuspensions =>
      refine quietly_sound ⟨?_, ?_⟩ hresult
      · rw [hstages]
        exact hp.stage
      · rw [hsuspensions]
        exact hp.awaits
  -- these do not keep to the map
  | walk | forge | placed => exact absurd h id

end Playthrough

/-! ## §4. Validated maps. -/

/-- A node that cannot be used is blamed itself, and for one of three reasons. -/
theorem Node.Breaks.eq_corruptData {n : Node} {e : ChainError} (h : n.Breaks e) :
    ∃ fault, e = .corruptData n.id fault ∧ (∀ size, fault ≠ .outsideTable size)
      ∧ (n.isConsistent = false
        ∨ ∃ a, n.payload = .action a
            ∧ (a.kind = .setDirection ∧ 3 < a.object.toNat
              ∨ a.kind = .addAilment ∧ 10 < a.object.toNat)) := by
  cases h with
  | mismatch hc => exact ⟨_, rfl, by simp, .inl hc⟩
  | direction a ha hkind hobject => exact ⟨_, rfl, by simp, .inr ⟨a, ha, .inl ⟨hkind, hobject⟩⟩⟩
  | ailment a ha hkind hobject => exact ⟨_, rfl, by simp, .inr ⟨a, ha, .inr ⟨hkind, hobject⟩⟩⟩

/-- **No run on a validated map goes astray.**  Take a definition without problems, any savegame,
dice and context to begin with, and any moves that keep to its map, with any triggers and answers.
No move meets an event without a chain or a node that asks nothing, and no link leads outside the
table, neither for a walk nor for an answer nor for the guard.  The data are called corrupt only at
a node whose declared type does not go with its payload, at an action that sets a facing above 3 or
at one that changes an ailment above 10. -/
theorem validated_run_stays_on_map {d : MapDefinition} {m : GameMap} (hd : d.problems = [])
    (hm : d.build = .ok m) (save : Savegame) (dice : Dice) (ctx : Context) (moves : List Move)
    (hmoves : ∀ move ∈ moves, move.KeepsTo m) :
    ∀ report ∈ ((Playthrough.start [m] save dice ctx).playAll moves).1,
      ∀ e, report.result = .walked (.error e) →
        (∀ event, e ≠ .unknownEvent event)
          ∧ (∀ id, e ≠ .notSuspendable id)
          ∧ (∀ id size, e ≠ .corruptData id (.outsideTable size))
          ∧ ∀ id fault, e = .corruptData id fault →
              ∃ n, m.node id = .ok n
                ∧ (n.isConsistent = false
                  ∨ ∃ a, n.payload = .action a
                      ∧ (a.kind = .setDirection ∧ 3 < a.object.toNat
                        ∨ a.kind = .addAilment ∧ 10 < a.object.toNat)) := by
  have hclosed : m.IsClosed := MapDefinition.build_isClosed hd hm
  have hstart : (Playthrough.start [m] save dice ctx).IsOn m := by
    refine ⟨⟨[], rfl⟩, ?_⟩
    intro w hw
    exact absurd hw (Array.not_mem_empty w)
  have hrun := Playthrough.playAll_keeps
    (fun p move hp h => Playthrough.play_sound hclosed hp h) moves _ hstart hmoves
  intro report hreport e he
  -- three kinds of failure are left, and only one of them calls the data corrupt
  cases hrun.1 report hreport e he with
  | runsOut first limit => simp
  | unexpected id a => simp
  | breaks n e hn hbreaks =>
      obtain ⟨fault, rfl, hinside, hnode⟩ := hbreaks.eq_corruptData
      refine ⟨by simp, by simp, ?_, ?_⟩
      · intro id size h
        injection h with _ hfault
        exact hinside size hfault
      · intro id fault' h
        injection h with hid _
        exact ⟨n, by rw [← hid]; exact hn, hnode⟩

/-- A roll in front of a question that leads back to the roll. -/
theorem validated_run_stays_on_map_circle :
    let d : MapDefinition := ⟨1, "", false, 2, 2, 0,
      [⟨15, 1, .diceRoll 50 0xffff⟩, ⟨19, 0xffff, .decision 0 0⟩], [0], [⟨0, 0, 1⟩], []⟩
    let moves : List Move :=
      [.tile 0 0 0 .step, .resume 0 none .no, .character 0 1 1 1 .talk, .resume 0 (some 0) .yes]
    d.problems = [] ∧ ∃ m, d.build = .ok m ∧ (∀ move ∈ moves, move.KeepsTo m)
      ∧ ∀ report ∈ ((Playthrough.start [m] .blank (.ofScript []) (.plain [])).playAll moves).1,
          ∀ id, report.result ≠ .walked (.error (.notSuspendable id)) := by
  intro d moves
  have hd : d.problems = [] := by decide
  obtain ⟨m, hm, hmoves⟩ : ∃ m, d.build = .ok m ∧ ∀ move ∈ moves, move.KeepsTo m := by
    refine ⟨_, rfl, ?_⟩
    intro move hmove
    simp only [moves, List.mem_cons, List.not_mem_nil, or_false] at hmove
    rcases hmove with rfl | rfl | rfl | rfl
    · trivial
    · trivial
    · exact ⟨by decide, by decide⟩
    · trivial
  refine ⟨hd, m, hm, hmoves, ?_⟩
  intro report hreport id he
  have hrun := validated_run_stays_on_map hd hm .blank (.ofScript []) (.plain []) moves hmoves
  exact (hrun report hreport _ he).2.1 id rfl

end TileEvents
