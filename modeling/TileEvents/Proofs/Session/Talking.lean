/-
  TileEvents.Proofs.Session.Talking
  ─────────────────────────────────
  **ONE CHARACTER IN EACH TICK.**

  The first character of a tick whose event has a chain is let through, and all
  others are held back until the tick ends.  Only whether its walk was begun
  matters, not what came of it: it may have failed, been aborted or still wait.
  A character whose event has no chain neither takes the tick nor gives it up,
  and nothing else has a say: tiles, walks, answers and the guard go their way.

    • `after_characterBusy`         — one call: who takes the tick, and who ends it;
    • `characterBusy_iff`           — after any calls the tick is taken if some
                                      character was let through since it began;
    • `endTick_mem_between`         — of two that were let through, a tick ended
                                      in between;
    • `one_character_in_each_tick`  — when a character is held back, and that
                                      it costs nothing.
-/
import TileEvents.Proofs.Definition.Closed
import TileEvents.Proofs.Session.History
import TileEvents.Proofs.Walk.Unlogged

namespace TileEvents

/-! ## §1. Who takes the tick. -/

/-- **A character that is let through**: its event has a chain and is not held back. -/
inductive SessionCall.Talks (session : Session) : SessionCall → Prop where
  | character {ctx : Context} {m : GameMap} {event : UInt16} {x y : UInt8} {trigger : Trigger}
      {s : Scene} {head : NodeId} (hhead : m.chainHead event = .ok head)
      (hpassed : (session.onCharacter ctx m event x y trigger s).1 ≠ .ok .suppressed) :
      Talks session (.character ctx m event x y trigger s)

namespace Session

variable {session : Session} {ctx : Context} {m : GameMap} {event : UInt16} {x y : UInt8}
  {trigger : Trigger} {s : Scene} {head : NodeId}

/-- Where an event has a chain its character is held back exactly if the tick is taken. -/
theorem onCharacter_eq_suppressed (hhead : m.chainHead event = .ok head) :
    (session.onCharacter ctx m event x y trigger s).1 = .ok .suppressed
      ↔ session.characterBusy = true := by
  constructor
  · intro h
    have hend := session.onCharacter_ends ctx m event x y trigger s
    generalize (session.onCharacter ctx m event x y trigger s).1 = result at h hend
    generalize (session.onCharacter ctx m event x y trigger s).2.1 = session' at hend
    cases hend with
    | unknown e he => cases h
    | busy _ _ hbusy => exact hbusy
    | started _ s' _ hfree => exact absurd h (walk_ne_suppressed _ _ _ _ _ _ _)
  · intro hbusy
    simp [onCharacter, hhead, hbusy]

/-- An event without a chain leaves everything as it is. -/
theorem onCharacter_of_unknown (hunknown : ∀ head, m.chainHead event ≠ .ok head) :
    session.onCharacter ctx m event x y trigger s
      = (.error (.unknownEvent event), session, s) := by
  cases hhead : m.chainHead event with
  | ok head => exact absurd hhead (hunknown head)
  | error e =>
      rw [onCharacter, hhead, GameMap.chainHead_eq_error hhead]

/-- To be held back changes nothing but the log. -/
theorem onCharacter_of_suppressed
    (h : (session.onCharacter ctx m event x y trigger s).1 = .ok .suppressed) :
    (session.onCharacter ctx m event x y trigger s).2.1 = session
      ∧ (session.onCharacter ctx m event x y trigger s).2.2.unlogged = s.unlogged := by
  cases hhead : m.chainHead event with
  | error e =>
      simp only [onCharacter, hhead] at h
      cases h
  | ok head =>
      have hbusy := (onCharacter_eq_suppressed hhead).1 h
      simp [onCharacter, hhead, hbusy]

/-- The same holds of tiles. -/
theorem onTile_of_suppressed (h : (session.onTile ctx m x y trigger s).1 = .ok .suppressed) :
    (session.onTile ctx m x y trigger s).2.1 = session
      ∧ (session.onTile ctx m x y trigger s).2.2.unlogged = s.unlogged := by
  obtain ⟨event, head, hevent, hhead, hheld⟩ := onTile_eq_suppressed.1 h
  simp [onTile, hevent, hhead, RepeatGuard.ask, hheld]

/-- Nobody is let through while the tick is taken. -/
theorem not_talks_of_busy {call : SessionCall} (hbusy : session.characterBusy = true) :
    ¬ call.Talks session := by
  rintro ⟨hhead, hpassed⟩
  exact hpassed ((onCharacter_eq_suppressed hhead).2 hbusy)

/-- **One call**: the tick is taken afterwards exactly if the call is a character that was let
through, or if it was taken before and the call does not end it. -/
theorem after_characterBusy (session : Session) (call : SessionCall) :
    (session.after call).characterBusy = true
      ↔ call.Talks session ∨ session.characterBusy = true ∧ call ≠ .endTick := by
  cases call with
  | tile ctx m x y trigger s =>
      have hend := session.onTile_ends ctx m x y trigger s
      have hsame : (session.after (.tile ctx m x y trigger s)).characterBusy
          = session.characterBusy := by
        show (session.onTile ctx m x y trigger s).2.1.characterBusy = _
        generalize (session.onTile ctx m x y trigger s).1 = result at hend
        generalize (session.onTile ctx m x y trigger s).2.1 = session' at hend
        cases hend with
        | quiet h =>
            unfold afterQuietTile
            split <;> rfl
        | _ => rfl
      rw [hsame]
      exact ⟨fun h => .inr ⟨h, nofun⟩, fun h => h.elim nofun (·.1)⟩
  | character ctx m event x y trigger s =>
      have hend := session.onCharacter_ends ctx m event x y trigger s
      show (session.onCharacter ctx m event x y trigger s).2.1.characterBusy = true ↔ _
      generalize hresult : (session.onCharacter ctx m event x y trigger s).1 = result at hend
      generalize (session.onCharacter ctx m event x y trigger s).2.1 = session' at hend
      cases hend with
      | unknown e he =>
          refine ⟨fun h => .inr ⟨h, nofun⟩, fun h => h.elim ?_ (·.1)⟩
          -- without a chain it is not let through
          rintro ⟨hhead, -⟩
          rw [hhead] at he
          cases he
      | busy head hhead hbusy => exact ⟨fun h => .inr ⟨h, nofun⟩, fun _ => hbusy⟩
      | started head s' hhead hfree =>
          refine ⟨fun _ => .inl (.character hhead ?_), fun _ => rfl⟩
          rw [Ne, onCharacter_eq_suppressed hhead, hfree]
          exact Bool.false_ne_true
  | endTick => exact ⟨nofun, fun h => h.elim nofun fun h => absurd rfl h.2⟩
  | walk | resume | resetGuard | clearLast =>
      exact ⟨fun h => .inr ⟨h, nofun⟩, fun h => h.elim nofun (·.1)⟩

end Session

/-! ## §2. Since the tick began. -/

/-- **Some character was let through since the last tick ended**, or since the session began. -/
def TalkedTo (calls : List SessionCall) : Prop :=
  ∃ early call late, calls = early ++ call :: late
    ∧ call.Talks (Session.fresh.afterAll early) ∧ .endTick ∉ late

theorem not_talkedTo_nil : ¬ TalkedTo [] := by
  rintro ⟨early, call, late, h, -⟩
  simp at h

theorem talkedTo_concat {calls : List SessionCall} {call : SessionCall} :
    TalkedTo (calls ++ [call])
      ↔ call.Talks (Session.fresh.afterAll calls) ∨ TalkedTo calls ∧ call ≠ .endTick := by
  constructor
  · rintro ⟨early, talking, late, hsplit, htalks, hlate⟩
    -- it was the new call or one of those before it
    rcases List.eq_nil_or_concat' late with rfl | ⟨late, last, rfl⟩
    · obtain ⟨rfl, hcall⟩ := List.append_inj' hsplit rfl
      injection hcall with hcall
      subst hcall
      exact .inl htalks
    · have hassoc : calls ++ [call] = (early ++ talking :: late) ++ [last] := by simp [hsplit]
      obtain ⟨rfl, hlast⟩ := List.append_inj' hassoc rfl
      injection hlast with hlast
      subst hlast
      simp only [List.mem_append, List.mem_singleton, not_or] at hlate
      exact .inr ⟨⟨early, talking, late, rfl, htalks, hlate.1⟩, Ne.symm hlate.2⟩
  · rintro (htalks | ⟨⟨early, talking, late, rfl, htalks, hlate⟩, hcall⟩)
    · exact ⟨calls, call, [], rfl, htalks, List.not_mem_nil⟩
    · refine ⟨early, talking, late ++ [call], by simp, htalks, ?_⟩
      simp only [List.mem_append, List.mem_singleton, not_or]
      exact ⟨hlate, hcall.symm⟩

/-- **After any calls the tick is taken** exactly if a character was let through since it began. -/
theorem characterBusy_iff (calls : List SessionCall) :
    (Session.fresh.afterAll calls).characterBusy = true ↔ TalkedTo calls := by
  -- from the back, since what is let through depends on the calls before it
  induction calls using List.reverseRecOn with
  | nil => exact ⟨nofun, fun h => absurd h not_talkedTo_nil⟩
  | append_singleton calls call ih =>
      rw [Session.afterAll_concat, Session.after_characterBusy, ih, talkedTo_concat]

/-- **Two characters are let through in two ticks.** -/
theorem endTick_mem_between {early between : List SessionCall} {first second : SessionCall}
    (hfirst : first.Talks (Session.fresh.afterAll early))
    (hsecond : second.Talks (Session.fresh.afterAll (early ++ first :: between))) :
    .endTick ∈ between := by
  by_contra hnone
  have hbusy := (characterBusy_iff _).2 ⟨early, first, between, rfl, hfirst, hnone⟩
  exact Session.not_talks_of_busy hbusy hsecond

/-- **One character in each tick.**  After any calls on a new session, over any maps and scenes: a
character whose event has a chain is held back exactly if some other was let through since the last
tick ended, whatever came of that one's walk.  A character whose event has no chain fails and
changes nothing.  Nothing but a character with a chain takes the tick, and nothing but its end gives
it free.  To be held back, for a tile as for a character, changes nothing but the log: the savegame,
the dice, the settled targets, the requests to the host and the session are the same. -/
theorem one_character_in_each_tick (calls : List SessionCall) :
    let session := Session.fresh.afterAll calls
    (∀ ctx m event x y trigger s,
      ((∃ head, m.chainHead event = .ok head) →
        ((session.onCharacter ctx m event x y trigger s).1 = .ok .suppressed ↔ TalkedTo calls))
      ∧ ((∀ head, m.chainHead event ≠ .ok head) →
          session.onCharacter ctx m event x y trigger s
            = (.error (.unknownEvent event), session, s))
      ∧ ((session.onCharacter ctx m event x y trigger s).1 = .ok .suppressed →
          (session.onCharacter ctx m event x y trigger s).2.1 = session
            ∧ (session.onCharacter ctx m event x y trigger s).2.2.unlogged = s.unlogged))
    ∧ (∀ ctx m x y trigger s, (session.onTile ctx m x y trigger s).1 = .ok .suppressed →
        (session.onTile ctx m x y trigger s).2.1 = session
          ∧ (session.onTile ctx m x y trigger s).2.2.unlogged = s.unlogged)
    ∧ ∀ call,
        (session.characterBusy = false → (session.after call).characterBusy = true →
          ∃ ctx m event x y trigger s head,
            call = .character ctx m event x y trigger s ∧ m.chainHead event = .ok head)
        ∧ (session.characterBusy = true → (session.after call).characterBusy = false →
          call = .endTick) := by
  intro session
  refine ⟨?_, ?_, ?_⟩
  · intro ctx m event x y trigger s
    refine ⟨?_, Session.onCharacter_of_unknown, Session.onCharacter_of_suppressed⟩
    rintro ⟨head, hhead⟩
    rw [Session.onCharacter_eq_suppressed hhead]
    exact characterBusy_iff calls
  · exact fun ctx m x y trigger s => Session.onTile_of_suppressed
  · intro call
    refine ⟨?_, ?_⟩
    · intro hfree htaken
      rcases (session.after_characterBusy call).1 htaken with htalks | ⟨hbusy, -⟩
      · obtain @⟨ctx, m, event, x, y, trigger, s, head, hhead, -⟩ := htalks
        exact ⟨ctx, m, event, x, y, trigger, s, head, rfl, hhead⟩
      · rw [hfree] at hbusy
        cases hbusy
    · intro hbusy hfree
      by_contra hcall
      have htaken := (session.after_characterBusy call).2 (.inr ⟨hbusy, hcall⟩)
      rw [hfree] at htaken
      cases htaken

/-- The first chain leaves the table at once, and the second waits for an answer.  The walk that
failed holds the other character back until the tick ends, an unknown event in between or not. -/
theorem one_character_in_each_tick_failed :
    let m := GameMap.ofNodes [⟨⟨0⟩, .decision, none, .decision 0 none⟩] [⟨7⟩, ⟨0⟩]
    let talk (event : UInt16) := SessionCall.character (.plain []) m event 0 0 .move .blank
    let turn (calls : List SessionCall) :=
      (Session.fresh.afterAll calls).onCharacter (.plain []) m 2 0 0 .move .blank
    (Session.fresh.onCharacter (.plain []) m 1 0 0 .move .blank).1
        = .error (.corruptData ⟨7⟩ (.outsideTable 1))
      ∧ (turn [talk 1, talk 9, .resetGuard]).1 = .ok .suppressed
      ∧ (turn [talk 1, talk 9, .resetGuard]).2.1.characterBusy = true
      ∧ (turn [talk 1, .endTick, talk 9]).1 ≠ .ok .suppressed := by
  intro m talk turn
  have hstrays : m.chainHead 1 = .ok ⟨7⟩ := rfl
  have hwaits : m.chainHead 2 = .ok ⟨0⟩ := rfl
  have hfailed : (talk 1).Talks Session.fresh := .character hstrays nofun
  have htalked : TalkedTo [talk 1, talk 9, .resetGuard] :=
    ⟨[], talk 1, [talk 9, .resetGuard], rfl, hfailed, by simp [talk]⟩
  obtain ⟨hall, -⟩ := one_character_in_each_tick [talk 1, talk 9, .resetGuard]
  obtain ⟨hiff, -, hkept⟩ := hall (.plain []) m 2 0 0 .move .blank
  have hheld := (hiff ⟨_, hwaits⟩).2 htalked
  refine ⟨rfl, hheld, ?_, ?_⟩
  · show Session.characterBusy (turn _).2.1 = true
    rw [show (turn _).2.1 = _ from (hkept hheld).1]
    rfl
  · rw [Ne, Session.onCharacter_eq_suppressed hwaits]
    decide

end TileEvents
