/-
  TileEvents.Proofs.Session.Ending
  ────────────────────────────────
  **WHAT AN INTERACTION CAN END WITH.**

  An interaction is a few look-ups, a question to the guard or to the tick, and
  at most one walk.  The ways it can go are listed once for tiles and once for
  characters, with the session each of them leaves.  A move of a game in play
  is one interaction, or it walks nowhere and is quiet.
-/
import TileEvents.Proofs.Walk.Ending
import TileEvents.Session.Playthrough

namespace TileEvents

namespace Session

/-! ## §1. Tiles. -/

/-- **The ways of an interaction with a tile**: the result and the session afterwards. -/
inductive TileEnd (session : Session) (ctx : Context) (m : GameMap) (x y : UInt8)
    (trigger : Trigger) (s : Scene) : Except ChainError Outcome → Session → Prop where
  | quiet (h : m.activeEvent? s.save x y = none) :
      TileEnd session ctx m x y trigger s (.ok .noEvent) (session.afterQuietTile m trigger)
  | unknown (event : UInt16) (e : ChainError) (hevent : m.activeEvent? s.save x y = some event)
      (he : m.chainHead event = .error e) : TileEnd session ctx m x y trigger s (.error e) session
  | stuck (event : UInt16) (head : NodeId) (e : ChainError)
      (hevent : m.activeEvent? s.save x y = some event) (hhead : m.chainHead event = .ok head)
      (he : session.guard.holdsBack m event trigger = .error e) :
      TileEnd session ctx m x y trigger s (.error e) session
  | heldBack (event : UInt16) (head : NodeId) (hevent : m.activeEvent? s.save x y = some event)
      (hhead : m.chainHead event = .ok head)
      (hheld : session.guard.holdsBack m event trigger = .ok true) :
      TileEnd session ctx m x y trigger s (.ok .suppressed) session
  | fired (event : UInt16) (head : NodeId) (s' : Scene)
      (hevent : m.activeEvent? s.save x y = some event) (hhead : m.chainHead event = .ok head)
      (hpassed : session.guard.holdsBack m event trigger = .ok false) :
      TileEnd session ctx m x y trigger s
        (walk ctx m ⟨m.index, x, y, some event⟩ head trigger false s').1
        { session with guard := .fired m.index event }

/-- **Every interaction with a tile goes one of these ways.** -/
theorem onTile_ends (session : Session) (ctx : Context) (m : GameMap) (x y : UInt8)
    (trigger : Trigger) (s : Scene) :
    TileEnd session ctx m x y trigger s (session.onTile ctx m x y trigger s).1
      (session.onTile ctx m x y trigger s).2.1 := by
  unfold onTile
  cases hevent : m.activeEvent? s.save x y with
  | none => exact .quiet hevent
  | some event =>
      simp only
      cases hhead : m.chainHead event with
      | error e => exact .unknown event e hevent hhead
      | ok head =>
          simp only [RepeatGuard.ask]
          cases hheld : session.guard.holdsBack m event trigger with
          | error e => exact .stuck event head e hevent hhead hheld
          | ok held =>
              cases held with
              | true => exact .heldBack event head hevent hhead hheld
              | false => exact .fired event head _ hevent hhead hheld

/-! ## §2. Characters. -/

/-- **The ways of an interaction with a character.** -/
inductive CharacterEnd (session : Session) (ctx : Context) (m : GameMap) (event : UInt16)
    (x y : UInt8) (trigger : Trigger) : Except ChainError Outcome → Session → Prop where
  | unknown (e : ChainError) (he : m.chainHead event = .error e) :
      CharacterEnd session ctx m event x y trigger (.error e) session
  | busy (head : NodeId) (hhead : m.chainHead event = .ok head)
      (hbusy : session.characterBusy = true) :
      CharacterEnd session ctx m event x y trigger (.ok .suppressed) session
  | started (head : NodeId) (s' : Scene) (hhead : m.chainHead event = .ok head)
      (hfree : session.characterBusy = false) :
      CharacterEnd session ctx m event x y trigger
        (walk ctx m ⟨m.index, x, y, none⟩ head trigger false s').1
        { session with characterBusy := true }

/-- **Every interaction with a character goes one of these ways.** -/
theorem onCharacter_ends (session : Session) (ctx : Context) (m : GameMap) (event : UInt16)
    (x y : UInt8) (trigger : Trigger) (s : Scene) :
    CharacterEnd session ctx m event x y trigger
      (session.onCharacter ctx m event x y trigger s).1
      (session.onCharacter ctx m event x y trigger s).2.1 := by
  unfold onCharacter
  cases hhead : m.chainHead event with
  | error e => exact .unknown e hhead
  | ok head =>
      cases hbusy : session.characterBusy with
      | true => exact .busy head hhead hbusy
      | false => exact .started head s hhead hbusy

end Session

/-! ## §3. Moves. -/

namespace Playthrough

/-- A suspension that is kept after a walk was kept before, or the walk returned it. -/
theorem mem_collect {ws : Array Suspension} {result : Except ChainError Outcome} {w : Suspension}
    (h : w ∈ collect ws result) : w ∈ ws ∨ result = .ok (.suspended w) := by
  unfold collect at h
  split at h
  · rcases Array.mem_push.1 h with hbefore | hnew
    · exact .inl hbefore
    · exact .inr (by rw [hnew])
  · exact .inl h

theorem suspension?_mem {p : Playthrough} {which : Option Nat} {w : Suspension}
    (h : p.suspension? which = some w) : w ∈ p.suspensions := by
  cases which with
  | none => exact Array.mem_of_back? h
  | some i => exact Array.mem_of_getElem? h

/-- **The ways of a move**: the report and the game afterwards.  Of the moves that walk nowhere only
one touches a map; the others leave the maps and the suspensions as they are. -/
inductive PlayEnd (p : Playthrough) : Move → Report × Playthrough → Prop where
  | tile (stage : Nat) (x y : UInt8) (interaction : Interaction) :
      PlayEnd p (.tile stage x y interaction)
        (p.interact stage fun ctx m session s => session.onTile ctx m x y interaction.trigger s)
  | character (stage : Nat) (event : UInt16) (x y : UInt8) (interaction : Interaction) :
      PlayEnd p (.character stage event x y interaction)
        (p.interact stage fun ctx m session s =>
          session.onCharacter ctx m event x y interaction.trigger s)
  | walk (stage : Nat) (start : NodeId) (interaction : Interaction) (origin : Origin)
      (status : Bool) :
      PlayEnd p (.walk stage start interaction origin status)
        (p.interact stage <| .ofWalk fun ctx m s =>
          TileEvents.walk ctx m origin start interaction.trigger status s)
  | resume (stage : Nat) (which : Option Nat) (answer : Answer) (w : Suspension)
      (hw : p.suspension? which = some w) :
      PlayEnd p (.resume stage which answer)
        (p.interact stage <| .ofWalk fun ctx m s => TileEvents.resume ctx m w answer s)
  | forge (stage : Nat) (w : Suspension) (answer : Answer) :
      PlayEnd p (.forge stage w answer)
        (p.interact stage <| .ofWalk fun ctx m s => TileEvents.resume ctx m w answer s)
  | quiet {move : Move} (result : MoveResult) (q : Playthrough)
      (hresult : ∀ r, result ≠ .walked r) (hstages : q.stages = p.stages)
      (hsuspensions : q.suspensions = p.suspensions) : PlayEnd p move (q.quietly result)
  | placed (stage : Nat) (x y : UInt8) (event : UInt16) (st : Stage)
      (hst : p.stages[stage]? = some st) :
      PlayEnd p (.place stage x y event)
        ({ p with
          stages := p.stages.setIfInBounds stage
            { st with map := st.map.placeEvent x y event } }.quietly .done)

/-- To look at a target is not to walk. -/
theorem targetOf_ne_walked (st : Stage) (id : NodeId) (r : Except ChainError Outcome) :
    targetOf st id ≠ .walked r := by
  unfold targetOf
  (repeat' split) <;> simp

/-- **Every move goes one of these ways.** -/
theorem play_ends (p : Playthrough) (move : Move) : PlayEnd p move (p.play move) := by
  cases move with
  | tile stage x y interaction => exact .tile stage x y interaction
  | character stage event x y interaction => exact .character stage event x y interaction
  | walk stage start interaction origin status => exact .walk stage start interaction origin status
  | resume stage which answer =>
      simp only [play]
      cases hw : p.suspension? which with
      | none => exact .quiet _ p (by simp) rfl rfl
      | some w => exact .resume stage which answer w hw
  | forge stage w answer => exact .forge stage w answer
  | inspectTarget stage id =>
      simp only [play]
      cases p.stages[stage]? with
      | none => exact .quiet _ p (by simp) rfl rfl
      | some st => exact .quiet _ p (targetOf_ne_walked st id) rfl rfl
  | place stage x y event =>
      simp only [play]
      cases hst : p.stages[stage]? with
      | none => exact .quiet _ p (by simp) rfl rfl
      | some st => exact .placed stage x y event st hst
  | endTick | resetGuard | clearLast | setHour | setActive | setEventBit | setAdmits =>
      exact .quiet _ _ (by simp) rfl rfl

end Playthrough

end TileEvents
