/-
  TileEvents.Proofs.Session.Frame
  ───────────────────────────────
  **WHAT THE EVENTS OF A GAME NEVER WRITE.**

  A game enters its events in four ways: by a tile, by a character, by a walk
  from a node of its own choice, and by an answer.  Each makes the visits of at
  most one walk, so each keeps the frame of the savegame, however it ends.

    • `Invocation`                  — the four ways;
    • `Invocation.visits_happen`    — the visits are nodes of the map that ran;
    • `Invocation.keeps`            — the frame, one way after the other;
    • `invocations_keep_the_frame`  — the two together.
-/
import TileEvents.Proofs.Session.Visits
import TileEvents.Proofs.Walk.Frame

namespace TileEvents

/-! ## §1. Interactions. -/

namespace Session

variable (session : Session) (ctx : Context) (m : GameMap)

/-- An interaction with a tile keeps the frame, but for the locks that the nodes it runs set. -/
theorem onTile_keeps (x y : UInt8) (trigger : Trigger) (s : Scene) :
    s.save.Keeps (turnedBy (session.tileVisits ctx m x y trigger s))
      (session.onTile ctx m x y trigger s).2.2.save := by
  unfold onTile tileVisits
  cases m.activeEvent? s.save x y with
  | none => exact .refl _
  | some event =>
      simp only
      cases m.chainHead event with
      | error e => exact .refl _
      | ok head =>
          simp only [RepeatGuard.ask]
          -- only an event that the guard lets through is walked
          cases session.guard.holdsBack m event trigger with
          | error e => exact .refl _
          | ok held =>
              cases held with
              | true => exact .refl _
              | false => exact walk_keeps ctx m _ head trigger false _

/-- So does an interaction with a character. -/
theorem onCharacter_keeps (event : UInt16) (x y : UInt8) (trigger : Trigger) (s : Scene) :
    s.save.Keeps (turnedBy (session.characterVisits ctx m event x y trigger s))
      (session.onCharacter ctx m event x y trigger s).2.2.save := by
  unfold onCharacter characterVisits
  cases m.chainHead event with
  | error e => exact .refl _
  | ok head =>
      cases session.characterBusy with
      | true => exact .refl _
      | false => exact walk_keeps ctx m _ head trigger false s

end Session

/-! ## §2. The four ways into the events of a map. -/

/-- **A way into the events of a map.** -/
inductive Invocation where
  | tile (session : Session) (x y : UInt8) (trigger : Trigger)
  | character (session : Session) (event : UInt16) (x y : UInt8) (trigger : Trigger)
  | walk (origin : Origin) (start : NodeId) (trigger : Trigger) (status : Bool)
  | resume (w : Suspension) (a : Answer)

namespace Invocation

/-- How an invocation ends, and the scene it leaves. -/
def run (i : Invocation) (ctx : Context) (m : GameMap) (s : Scene) :
    Except ChainError Outcome × Scene :=
  match i with
  | .tile session x y trigger =>
    let (result, _, s) := session.onTile ctx m x y trigger s
    (result, s)
  | .character session event x y trigger =>
    let (result, _, s) := session.onCharacter ctx m event x y trigger s
    (result, s)
  | .walk origin start trigger status => TileEvents.walk ctx m origin start trigger status s
  | .resume w a => TileEvents.resume ctx m w a s

/-- The visits of an invocation. -/
def visits (i : Invocation) (ctx : Context) (m : GameMap) (s : Scene) : List Visit :=
  match i with
  | .tile session x y trigger => session.tileVisits ctx m x y trigger s
  | .character session event x y trigger => session.characterVisits ctx m event x y trigger s
  | .walk origin start trigger status => walkVisits ctx m origin start trigger status s
  | .resume w a => resumeVisits ctx m w a s

/-- The player opened this lock before the invocation. -/
def Opens (i : Invocation) (m : GameMap) (lock : Lock) : Prop :=
  match i with
  | .resume w a => w.Opens m a lock
  | _ => False

variable (i : Invocation) (ctx : Context) (m : GameMap) (s : Scene)

/-- Every visit is what a step of a node of the map does. -/
theorem visits_happen : ∀ v ∈ i.visits ctx m s, v.Happens ctx m := by
  cases i with
  | tile session x y trigger => exact (session.leads_onTile ctx m x y trigger s).happens
  | character session event x y trigger =>
      exact (session.leads_onCharacter ctx m event x y trigger s).happens
  | walk origin start trigger status =>
      exact (leads_walk ctx m origin start trigger status s).happens
  | resume w a => exact (leads_resume ctx m w a s).happens

/-- Every invocation keeps the frame, but for the locks that it sets and the one that was opened. -/
theorem keeps :
    s.save.Keeps (fun lock => turnedBy (i.visits ctx m s) lock ∨ i.Opens m lock)
      (i.run ctx m s).2.save := by
  cases i with
  | tile session x y trigger => exact (session.onTile_keeps ctx m x y trigger s).mono fun _ => .inl
  | character session event x y trigger =>
      exact (session.onCharacter_keeps ctx m event x y trigger s).mono fun _ => .inl
  | walk origin start trigger status =>
      exact (walk_keeps ctx m origin start trigger status s).mono fun _ => .inl
  | resume w a => exact resume_keeps ctx m w a s

end Invocation

/-- **What the events of a game can and cannot write.**  Whatever an invocation ends with, an error
included, the hour, the acting member and the persons of the party are those before, no word is
forgotten, no buff begins, and every entry in the record of replaced tiles keeps its place and its
target.  A lock turns only where a node that ran is an action on that lock, or where the invocation
is the answer that this very lock was opened. -/
theorem invocations_keep_the_frame (i : Invocation) (ctx : Context) (m : GameMap) (s : Scene) :
    (∀ v ∈ i.visits ctx m s, v.Happens ctx m)
      ∧ s.save.Keeps
          (fun lock =>
            (∃ v ∈ i.visits ctx m s, ∃ a, v.node.payload = .action a ∧ a.lock? = some lock)
              ∨ i.Opens m lock)
          (i.run ctx m s).2.save := by
  refine ⟨i.visits_happen ctx m s, (i.keeps ctx m s).mono ?_⟩
  rintro lock (⟨v, hv, hlock⟩ | hopens)
  · cases hp : v.node.payload with
    | action a =>
        rw [hp] at hlock
        exact .inl ⟨v, hv, a, hp, hlock⟩
    | _ => rw [hp] at hlock; cases hlock
  · exact .inr hopens

/-- Locks do turn: an action with the value 0 opens a door that was closed. -/
example :
    let m := GameMap.ofNodes [⟨⟨0⟩, .action, none, .action ⟨.lockDoor, 3, 0, 0⟩⟩] [⟨0⟩]
    let i : Invocation := .walk ⟨1, 0, 0, none⟩ ⟨0⟩ .always false
    Scene.blank.save.isLocked (.door 3) = true
      ∧ (i.run (.plain []) m .blank).2.save.isLocked (.door 3) = false := ⟨rfl, rfl⟩

end TileEvents
