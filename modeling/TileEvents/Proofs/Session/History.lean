/-
  TileEvents.Proofs.Session.History
  ─────────────────────────────────
  **THE GUARD REMEMBERS THE LATEST SETTING.**

  The guard is two cells that every call on a session may write.  Here they are
  described without the cells: a history is the list of calls made on a new
  session, each with a context, a map and a scene of its own, and the guard
  after it is what the latest call that set it has set it to.

    • `playAll_session`   — every game in play is such a history;
    • `after_guard`       — a call sets the guard or leaves it alone;
    • `guardAfter_eq_iff` — what the guard holds after a history;
    • `guard_decides_by_history` — when a step onto a tile is held back.

  The guard fails, and does not hold back, where the look-ahead leaves the table.
-/
import TileEvents.Proofs.Sample
import TileEvents.Proofs.Session.Ending
import TileEvents.Proofs.Session.LookAhead
import TileEvents.Session.Playthrough

namespace TileEvents

/-! ## §1. Histories. -/

/-- A call that is made while a session lasts.  A walk that is begun or resumed as such is not
handed the session. -/
inductive SessionCall where
  | tile (ctx : Context) (m : GameMap) (x y : UInt8) (trigger : Trigger) (s : Scene)
  | character (ctx : Context) (m : GameMap) (event : UInt16) (x y : UInt8) (trigger : Trigger)
      (s : Scene)
  | walk (ctx : Context) (m : GameMap) (origin : Origin) (start : NodeId) (trigger : Trigger)
      (status : Bool) (s : Scene)
  | resume (ctx : Context) (m : GameMap) (w : Suspension) (a : Answer) (s : Scene)
  | resetGuard
  | clearLast (map : UInt16)
  | endTick

namespace Session

/-- The session after a call. -/
def after (session : Session) : SessionCall → Session
  | .tile ctx m x y trigger s => (session.onTile ctx m x y trigger s).2.1
  | .character ctx m event x y trigger s => (session.onCharacter ctx m event x y trigger s).2.1
  | .walk .. | .resume .. => session
  | .resetGuard => session.forget
  | .clearLast map => { session with guard := .onMap map }
  | .endTick => session.endTick

/-- The session after several calls, the first of them first. -/
def afterAll (session : Session) (calls : List SessionCall) : Session := calls.foldl after session

theorem afterAll_concat (session : Session) (calls : List SessionCall) (call : SessionCall) :
    session.afterAll (calls ++ [call]) = (session.afterAll calls).after call := by
  simp [afterAll]

end Session

/-! ## §2. Games in play. -/

namespace Playthrough

/-- The call that is made on the map at a position, if there is one. -/
def callOn (p : Playthrough) (stage : Nat) (call : GameMap → Scene → SessionCall) :
    List SessionCall :=
  match p.stages[stage]? with
  | none => []
  | some st => [call st.map ⟨p.save, p.dice, st.settled, #[], #[]⟩]

/-- The calls on the session that a move makes: one, or none where it finds no map, no suspension,
or nothing in the session to change. -/
def sessionCalls (p : Playthrough) : Move → List SessionCall
  | .tile stage x y interaction => p.callOn stage fun m s =>
      .tile p.context m x y interaction.trigger s
  | .character stage event x y interaction => p.callOn stage fun m s =>
      .character p.context m event x y interaction.trigger s
  | .walk stage start interaction origin status => p.callOn stage fun m s =>
      .walk p.context m origin start interaction.trigger status s
  | .resume stage which answer =>
    match p.suspension? which with
    | none => []
    | some w => p.callOn stage fun m s => .resume p.context m w answer s
  | .forge stage w answer => p.callOn stage fun m s => .resume p.context m w answer s
  | .endTick => [.endTick]
  | .resetGuard => [.resetGuard]
  | .clearLast map => [.clearLast map]
  | _ => []

/-- The calls of several moves, each made on the game that the ones before it left. -/
def allSessionCalls (p : Playthrough) : List Move → List SessionCall
  | [] => []
  | move :: rest => p.sessionCalls move ++ (p.play move).2.allSessionCalls rest

theorem interact_session {p : Playthrough} {f : Interplay} {call : GameMap → Scene → SessionCall}
    (h : ∀ m s, (f p.context m p.session s).2.1 = p.session.after (call m s)) (stage : Nat) :
    (p.interact stage f).2.session = p.session.afterAll (p.callOn stage call) := by
  unfold interact callOn
  cases p.stages[stage]? with
  | none => rfl
  | some st => exact h st.map _

/-- **A move changes the session by the calls it makes.** -/
theorem play_session (p : Playthrough) (move : Move) :
    (p.play move).2.session = p.session.afterAll (p.sessionCalls move) := by
  cases move with
  -- an answer looks for its suspension first and may find none
  | resume stage which answer =>
      unfold sessionCalls
      cases hw : p.suspension? which with
      | none =>
          simp only [play, hw]
          rfl
      | some w =>
          simp only [play, hw]
          refine interact_session ?_ stage
          exact fun _ _ => rfl
  -- the next two ask or change the map and leave the session alone
  | inspectTarget stage id =>
      simp only [play]
      cases p.stages[stage]? <;> rfl
  | place stage x y event =>
      simp only [play]
      cases p.stages[stage]? <;> rfl
  | tile | character | walk | forge =>
      simp only [play, sessionCalls]
      refine interact_session ?_ _
      exact fun _ _ => rfl
  | _ => rfl

/-- **The session of a game in play is what the calls of its moves have made of it.** -/
theorem playAll_session (moves : List Move) : ∀ (p : Playthrough),
    (p.playAll moves).2.session = p.session.afterAll (p.allSessionCalls moves) := by
  induction moves with
  | nil => exact fun _ => rfl
  | cons move moves ih =>
      intro p
      show ((p.play move).2.playAll moves).2.session = _
      rw [ih, play_session]
      simp [allSessionCalls, Session.afterAll]

end Playthrough

/-! ## §3. What sets the guard. -/

/-- **What a call sets the guard to**, when the guard remembers `g`: a call that has no value here
leaves the guard alone. -/
inductive SessionCall.Sets (g : RepeatGuard) : SessionCall → RepeatGuard → Prop where
  /-- An active event that the guard lets through, whatever becomes of its walk. -/
  | fired {ctx : Context} {m : GameMap} {x y : UInt8} {trigger : Trigger} {s : Scene}
      {event : UInt16} {head : NodeId} (hevent : m.activeEvent? s.save x y = some event)
      (hhead : m.chainHead event = .ok head)
      (hpassed : trigger = .move → g = .fired m.index event → m.FiresAgain head) :
      Sets g (.tile ctx m x y trigger s) (.fired m.index event)
  /-- A step onto a tile without an active event. -/
  | quiet {ctx : Context} {m : GameMap} {x y : UInt8} {s : Scene}
      (h : m.activeEvent? s.save x y = none) :
      Sets g (.tile ctx m x y .move s) (.onMap m.index)
  | cleared (map : UInt16) : Sets g (.clearLast map) (.onMap map)
  | reset : Sets g .resetGuard .fresh

/-- A call sets the guard to one value at most. -/
theorem SessionCall.Sets.unique {g a b : RepeatGuard} {call : SessionCall} (ha : call.Sets g a)
    (hb : call.Sets g b) : a = b := by
  cases ha with
  | fired hevent hhead hpassed =>
      cases hb with
      | fired hevent' hhead' hpassed' =>
          rw [hevent] at hevent'
          injection hevent' with hsame
          rw [hsame]
      | quiet h => simp [hevent] at h
  | quiet h =>
      cases hb with
      | fired hevent' hhead' hpassed' => simp [h] at hevent'
      | quiet h' => rfl
  | cleared map => cases hb; rfl
  | reset => cases hb; rfl

/-- An active event that is not let through sets nothing. -/
theorem SessionCall.not_sets_of_stopped {g : RepeatGuard} {ctx : Context} {m : GameMap}
    {x y : UInt8} {trigger : Trigger} {s : Scene} {event : UInt16}
    (hevent : m.activeEvent? s.save x y = some event)
    (hstopped : ∀ head, m.chainHead event = .ok head → g.holdsBack m event trigger ≠ .ok false)
    (g' : RepeatGuard) : ¬ (SessionCall.tile ctx m x y trigger s).Sets g g' := by
  intro h
  cases h with
  | fired hevent' hhead hpassed =>
      rw [hevent] at hevent'
      injection hevent' with hsame
      subst hsame
      -- the one way to set anything with an event is to be let through
      exact hstopped _ hhead ((RepeatGuard.holdsBack_eq_false hhead).2 hpassed)
  | quiet h => simp [hevent] at h

namespace Session

/-- An interaction with a tile sets the guard or leaves it alone. -/
theorem onTile_guard (session : Session) (ctx : Context) (m : GameMap) (x y : UInt8)
    (trigger : Trigger) (s : Scene) :
    let call := SessionCall.tile ctx m x y trigger s
    let guard := (session.onTile ctx m x y trigger s).2.1.guard
    call.Sets session.guard guard ∨ (∀ g, ¬ call.Sets session.guard g) ∧ guard = session.guard := by
  have hend := session.onTile_ends ctx m x y trigger s
  -- only the session matters here, not what the walk gave
  generalize (session.onTile ctx m x y trigger s).1 = result at hend
  generalize (session.onTile ctx m x y trigger s).2.1 = session' at hend
  show _ ∨ (_ ∧ session'.guard = session.guard)
  cases hend with
  | quiet h =>
      unfold afterQuietTile
      by_cases hmove : trigger = .move
      · subst hmove
        exact .inl (.quiet h)
      · -- the player only looked or touched: a quiet tile is no step away
        rw [if_neg hmove]
        refine .inr ⟨?_, rfl⟩
        intro g hset
        cases hset with
        | fired hevent hhead hpassed => simp [h] at hevent
        | quiet h' => exact hmove rfl
  | unknown event e hevent he =>
      -- an event without a chain never gets as far as the guard
      refine .inr ⟨SessionCall.not_sets_of_stopped hevent ?_, rfl⟩
      intro head hhead
      rw [hhead] at he
      cases he
  | stuck event head e hevent hhead he =>
      -- a guard that cannot decide lets nothing through
      refine .inr ⟨SessionCall.not_sets_of_stopped hevent ?_, rfl⟩
      intro _ _ h
      rw [h] at he
      cases he
  | heldBack event head hevent hhead hheld =>
      refine .inr ⟨SessionCall.not_sets_of_stopped hevent ?_, rfl⟩
      intro _ _ h
      rw [h] at hheld
      cases hheld
  | fired event head s' hevent hhead hpassed =>
      exact .inl (.fired hevent hhead ((RepeatGuard.holdsBack_eq_false hhead).1 hpassed))

/-- **A call sets the guard or leaves it alone.** -/
theorem after_guard (session : Session) (call : SessionCall) :
    call.Sets session.guard (session.after call).guard
      ∨ (∀ g, ¬ call.Sets session.guard g) ∧ (session.after call).guard = session.guard := by
  cases call with
  | tile ctx m x y trigger s => exact session.onTile_guard ctx m x y trigger s
  | character ctx m event x y trigger s =>
      -- characters are held back by the tick, and the guard is not asked
      refine .inr ⟨nofun, ?_⟩
      have hend := session.onCharacter_ends ctx m event x y trigger s
      show (session.onCharacter ctx m event x y trigger s).2.1.guard = session.guard
      generalize (session.onCharacter ctx m event x y trigger s).1 = result at hend
      generalize (session.onCharacter ctx m event x y trigger s).2.1 = session' at hend
      cases hend <;> rfl
  | walk ctx m origin start trigger status s => exact .inr ⟨nofun, rfl⟩
  | resume ctx m w a s => exact .inr ⟨nofun, rfl⟩
  | resetGuard => exact .inl .reset
  | clearLast map => exact .inl (.cleared map)
  | endTick => exact .inr ⟨nofun, rfl⟩

end Session

/-! ## §4. The latest setting. -/

/-- The guard of a new session after these calls. -/
def guardAfter (calls : List SessionCall) : RepeatGuard := (Session.fresh.afterAll calls).guard

/-- No call of `late`, which come after `early`, sets the guard. -/
def Unset (early late : List SessionCall) : Prop :=
  ∀ between call rest, late = between ++ call :: rest →
    ∀ g, ¬ call.Sets (guardAfter (early ++ between)) g

/-- **What is remembered after these calls**: what the latest call that set the guard has set it to,
or nothing where none has. -/
inductive Remembers : List SessionCall → RepeatGuard → Prop where
  | never {calls : List SessionCall} (h : Unset [] calls) : Remembers calls .fresh
  | latest {early late : List SessionCall} {call : SessionCall} {g : RepeatGuard}
      (hset : call.Sets (guardAfter early) g) (hlate : Unset (early ++ [call]) late) :
      Remembers (early ++ call :: late) g

theorem unset_nil (early : List SessionCall) : Unset early [] := by
  intro between call rest h
  simp at h

/-- Nothing is set by calls and one more exactly if nothing is set by either. -/
theorem unset_concat {early late : List SessionCall} {call : SessionCall} :
    Unset early (late ++ [call])
      ↔ Unset early late ∧ ∀ g, ¬ call.Sets (guardAfter (early ++ late)) g := by
  constructor
  · intro h
    refine ⟨?_, h late call [] rfl⟩
    intro between call' rest hlate
    exact h between call' (rest ++ [call]) (by simp [hlate])
  · rintro ⟨hlate, hlast⟩ between call' rest hsplit
    -- the call in question is the new one or one of those before it
    rcases List.eq_nil_or_concat rest with rfl | ⟨rest, last, rfl⟩
    · obtain ⟨rfl, hcall⟩ := List.append_inj' hsplit rfl
      injection hcall with hcall
      rw [← hcall]
      exact hlast
    · have hassoc : late ++ [call] = (between ++ call' :: rest) ++ [last] := by simp [hsplit]
      exact hlate between call' rest (List.append_inj' hassoc rfl).1

theorem guardAfter_concat (calls : List SessionCall) (call : SessionCall) :
    guardAfter (calls ++ [call]) = ((Session.fresh.afterAll calls).after call).guard := by
  unfold guardAfter
  rw [Session.afterAll_concat]

/-- A call that sets the guard is what the guard remembers next. -/
theorem guardAfter_of_sets {calls : List SessionCall} {call : SessionCall} {g : RepeatGuard}
    (h : call.Sets (guardAfter calls) g) : guardAfter (calls ++ [call]) = g := by
  rw [guardAfter_concat]
  rcases (Session.fresh.afterAll calls).after_guard call with hset | ⟨hunset, -⟩
  · exact hset.unique h
  · exact absurd h (hunset g)

/-- Calls that set nothing leave the guard alone. -/
theorem guardAfter_of_unset {early late : List SessionCall} (h : Unset early late) :
    guardAfter (early ++ late) = guardAfter early := by
  -- from the back, since what a call may set depends on the calls before it
  induction late using List.reverseRecOn with
  | nil => rw [List.append_nil]
  | append_singleton late call ih =>
      obtain ⟨hlate, hlast⟩ := unset_concat.1 h
      rw [← List.append_assoc, guardAfter_concat]
      rcases (Session.fresh.afterAll (early ++ late)).after_guard call with hset | ⟨-, hsame⟩
      · exact absurd hset (hlast _)
      · rw [hsame]
        exact ih hlate

/-- What the guard holds is remembered. -/
theorem remembers_guardAfter (calls : List SessionCall) : Remembers calls (guardAfter calls) := by
  -- on the calls from the back: the last call sets the guard, or what was remembered stays so
  induction calls using List.reverseRecOn with
  | nil => exact .never (unset_nil [])
  | append_singleton calls call ih =>
      rcases (Session.fresh.afterAll calls).after_guard call with hset | ⟨hunset, hsame⟩
      · rw [guardAfter_concat]
        exact .latest hset (unset_nil _)
      · rw [guardAfter_concat, hsame]
        generalize hg : (Session.fresh.afterAll calls).guard = g
        have hih : Remembers calls g := hg ▸ ih
        cases hih with
        | never h => exact .never (unset_concat.2 ⟨h, hunset⟩)
        | @latest early late call' _ hset hlate =>
            rw [List.append_assoc, List.cons_append]
            refine .latest hset (unset_concat.2 ⟨hlate, ?_⟩)
            rw [List.append_assoc, List.singleton_append]
            exact hunset

/-- **The guard holds what is remembered, and nothing else.** -/
theorem guardAfter_eq_iff {calls : List SessionCall} {g : RepeatGuard} :
    guardAfter calls = g ↔ Remembers calls g := by
  constructor
  · intro h
    rw [← h]
    exact remembers_guardAfter calls
  · intro h
    cases h with
    | never h => exact guardAfter_of_unset h
    | @latest early late call _ hset hlate =>
        -- the latest setting, and then nothing but calls that set nothing
        have hsplit : early ++ call :: late = (early ++ [call]) ++ late := by simp
        rw [hsplit, guardAfter_of_unset hlate]
        exact guardAfter_of_sets hset

/-! ## §5. When a step is held back. -/

/-- A walk is never held back. -/
theorem walk_ne_suppressed (ctx : Context) (m : GameMap) (origin : Origin) (start : NodeId)
    (trigger : Trigger) (status : Bool) (s : Scene) :
    (walk ctx m origin start trigger status s).1 ≠ .ok .suppressed := by
  intro h
  have hend := walk_ends ctx m origin start trigger status s
  rw [h] at hend
  cases hend

namespace Session

/-- An interaction with a tile is held back where the guard says so, and nowhere else. -/
theorem onTile_eq_suppressed {session : Session} {ctx : Context} {m : GameMap} {x y : UInt8}
    {trigger : Trigger} {s : Scene} :
    (session.onTile ctx m x y trigger s).1 = .ok .suppressed
      ↔ ∃ event head, m.activeEvent? s.save x y = some event ∧ m.chainHead event = .ok head
          ∧ session.guard.holdsBack m event trigger = .ok true := by
  constructor
  · intro h
    have hend := session.onTile_ends ctx m x y trigger s
    generalize (session.onTile ctx m x y trigger s).1 = result at h hend
    generalize (session.onTile ctx m x y trigger s).2.1 = session' at hend
    -- of the five ways only one gives this result itself; a walk does not
    cases hend with
    | heldBack event head hevent hhead hheld => exact ⟨event, head, hevent, hhead, hheld⟩
    | fired event head s' hevent hhead hpassed => exact absurd h (walk_ne_suppressed _ _ _ _ _ _ _)
    | _ => cases h
  · rintro ⟨event, head, hevent, hhead, hheld⟩
    simp [onTile, hevent, hhead, RepeatGuard.ask, hheld]

/-- Where the guard fails, so does the interaction. -/
theorem onTile_of_holdsBack_error {session : Session} {ctx : Context} {m : GameMap} {x y : UInt8}
    {trigger : Trigger} {s : Scene} {event : UInt16} {head : NodeId} {e : ChainError}
    (hevent : m.activeEvent? s.save x y = some event) (hhead : m.chainHead event = .ok head)
    (he : session.guard.holdsBack m event trigger = .error e) :
    (session.onTile ctx m x y trigger s).1 = .error e := by
  simp [onTile, hevent, hhead, RepeatGuard.ask, he]

end Session

/-- **What the guard decides is a function of the history.**  After any calls on a new session, over
any maps and scenes, the guard holds what is remembered of them, and nothing else.  An interaction
with a tile is then held back exactly if it is a step onto a tile whose active event has a chain and
is the one remembered, and the look-ahead along that chain neither finds a kind of event that fires
on every step nor leaves the table.  Where it leaves the table the interaction fails. -/
theorem guard_decides_by_history (calls : List SessionCall) :
    (∀ g, (Session.fresh.afterAll calls).guard = g ↔ Remembers calls g)
      ∧ ∀ (ctx : Context) (m : GameMap) (x y : UInt8) (trigger : Trigger) (s : Scene),
          (((Session.fresh.afterAll calls).onTile ctx m x y trigger s).1 = .ok .suppressed
            ↔ trigger = .move ∧ ∃ event head, m.activeEvent? s.save x y = some event
                ∧ m.chainHead event = .ok head ∧ Remembers calls (.fired m.index event)
                ∧ ¬ m.FiresAgain head ∧ ∀ j, ¬ m.Strays head j)
          ∧ ∀ event head j, trigger = .move → m.activeEvent? s.save x y = some event →
              m.chainHead event = .ok head → Remembers calls (.fired m.index event) →
              m.Strays head j →
              ((Session.fresh.afterAll calls).onTile ctx m x y trigger s).1
                = .error (.corruptData j (.outsideTable m.nodes.size)) := by
  have hguard : ∀ g, (Session.fresh.afterAll calls).guard = g ↔ Remembers calls g :=
    fun g => guardAfter_eq_iff
  refine ⟨hguard, ?_⟩
  intro ctx m x y trigger s
  refine ⟨?_, ?_⟩
  · rw [Session.onTile_eq_suppressed]
    constructor
    · rintro ⟨event, head, hevent, hhead, hheld⟩
      obtain ⟨hmove, hlast, hahead⟩ := (RepeatGuard.holdsBack_eq_true hhead).1 hheld
      exact ⟨hmove, event, head, hevent, hhead, (hguard _).1 hlast, hahead⟩
    · rintro ⟨hmove, event, head, hevent, hhead, hlast, hahead⟩
      refine ⟨event, head, hevent, hhead, ?_⟩
      exact (RepeatGuard.holdsBack_eq_true hhead).2 ⟨hmove, (hguard _).2 hlast, hahead⟩
  · intro event head j hmove hevent hhead hlast hstrays
    refine Session.onTile_of_holdsBack_error hevent hhead ?_
    exact (RepeatGuard.holdsBack_eq_error hhead).2 ⟨⟨hmove, (hguard _).2 hlast⟩, j, hstrays, rfl⟩

/-- A map on which the only chain leaves the table behind a condition. -/
def GameMap.straying : GameMap :=
  (GameMap.ofNodes
    [⟨⟨0⟩, .condition, some ⟨5⟩, .condition ⟨.globalVariable, 1, 1, 0, none⟩⟩] [⟨0⟩]).placeEvent 0 0 1

/-- The second step onto the tile fails. -/
theorem guard_decides_by_history_straying :
    let m := GameMap.straying
    let calls : List SessionCall := [.tile (.plain []) m 0 0 .move .blank]
    m.activeEvent? Scene.blank.save 0 0 = some 1 ∧ m.chainHead 1 = .ok ⟨0⟩
      ∧ Remembers calls (.fired 1 1) ∧ m.Strays ⟨0⟩ ⟨5⟩
      ∧ ((Session.fresh.afterAll calls).onTile (.plain []) m 0 0 .move .blank).1
          = .error (.corruptData ⟨5⟩ (.outsideTable 1)) := by
  intro m calls
  have hguard : (Session.fresh.afterAll calls).guard = .fired 1 1 := rfl
  have hlast : Remembers calls (.fired 1 1) := guardAfter_eq_iff.1 hguard
  have hstrays : m.Strays ⟨0⟩ ⟨5⟩ := ⟨1, rfl, by decide⟩
  refine ⟨rfl, rfl, hlast, hstrays, ?_⟩
  exact ((guard_decides_by_history calls).2 (.plain []) m 0 0 .move .blank).2 1 ⟨0⟩ ⟨5⟩ rfl rfl rfl
    hlast hstrays

/-- It is not held back, although the look-ahead finds no kind of event that fires on every step. -/
theorem straying_step_not_suppressed :
    let m := GameMap.straying
    let calls : List SessionCall := [.tile (.plain []) m 0 0 .move .blank]
    ¬ (((Session.fresh.afterAll calls).onTile (.plain []) m 0 0 .move .blank).1 = .ok .suppressed
        ↔ Trigger.move = .move ∧ ∃ event head, m.activeEvent? Scene.blank.save 0 0 = some event
            ∧ m.chainHead event = .ok head ∧ Remembers calls (.fired m.index event)
            ∧ ¬ m.FiresAgain head) := by
  intro m calls hiff
  have hresult : ((Session.fresh.afterAll calls).onTile (.plain []) m 0 0 .move .blank).1
      = .error (.corruptData ⟨5⟩ (.outsideTable 1)) := rfl
  have hlast : Remembers calls (.fired m.index 1) := guardAfter_eq_iff.1 rfl
  have hahead : ¬ m.FiresAgain ⟨0⟩ := by
    rintro ⟨t, ht, -⟩
    have hfinds : m.firstType m.nodes.size ⟨0⟩ = .ok (some t) := GameMap.firstType_eq_some.2 ht
    cases hfinds
  rw [hiff.2 ⟨rfl, 1, ⟨0⟩, rfl, rfl, hlast, hahead⟩] at hresult
  cases hresult

end TileEvents
