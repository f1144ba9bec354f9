/-
  TileEvents.Proofs.Session.Prompts
  ─────────────────────────────────
  **WHICH VISIT A SUSPENSION COMES OF.**

  A walk that stops for the player stops at its last visit: the node of that
  visit is the one the suspension names, and its step asks what the suspension
  asks.  There is one other way for a move to return a suspension.  An answer
  that does not solve a riddle runs no node, and what was to be answered is
  handed back as it was handed in.

    • `Visit.Asks`, `LastAsks`            — the visit that asks;
    • `walk_lastAsks`, `resume_lastAsks`  — walks;
    • `Playthrough.play_suspends`         — moves;
    • `Playthrough.visits_comeFrom`       — and where the walks of a game come from.
-/
import TileEvents.Proofs.Session.Ending
import TileEvents.Proofs.Session.Visits

namespace TileEvents

/-! ## §1. Walks. -/

/-- The step of this visit asks what the suspension asks. -/
def Visit.Asks (ctx : Context) (m : GameMap) (v : Visit) (w : Suspension) : Prop :=
  m.node w.node = .ok v.node ∧ v.origin = w.origin
    ∧ ∃ c c', v.node.step ctx m v.origin c v.before = (.ok (.await w.prompt, c'), v.after)

/-- The last of these visits asks what the suspension asks. -/
def LastAsks (ctx : Context) (m : GameMap) (visits : List Visit) (w : Suspension) : Prop :=
  ∃ v, visits.getLast? = some v ∧ v.Asks ctx m w

section Walks

variable {ctx : Context} {m : GameMap} {w : Suspension}

theorem LastAsks.cons {visits : List Visit} (h : LastAsks ctx m visits w) (v : Visit) :
    LastAsks ctx m (v :: visits) w := by
  obtain ⟨last, hlast, hasks⟩ := h
  exact ⟨last, by rw [List.getLast?_cons, hlast, Option.getD_some], hasks⟩

theorem walkFrom_lastAsks (origin : Origin) (start : NodeId) (limit : Nat) :
    ∀ (left : Nat) (id : NodeId) (c : Cursor) (s : Scene),
      (walkFrom ctx m origin start limit left id c s).1 = .ok (.suspended w) →
      LastAsks ctx m (visitsFrom ctx m origin left id c s) w := by
  -- on the steps that are left; a node that hands over leaves the asking to the rest
  intro left
  induction left with
  | zero =>
      intro id c s h
      cases h
  | succ left ih =>
      intro id c s h
      unfold walkFrom at h
      unfold visitsFrom
      cases hn : m.node id with
      | error e =>
          rw [hn] at h
          cases h
      | ok n =>
          rw [hn] at h
          simp only at h ⊢
          cases hstep : n.step ctx m origin c s with
          | mk result s' =>
              rw [hstep] at h
              match result, hstep, h with
              | .error e, _, h | .ok (.reject, _), _, h | .ok (.goto none, _), _, h => cases h
              | .ok (.await p, c'), hstep, h =>
                  cases h
                  exact ⟨_, rfl, hn, rfl, c, c', hstep⟩
              | .ok (.goto (some j), c'), hstep, h => exact (ih j c' s' h).cons _

/-- **A walk that stops for the player stops at its last visit.** -/
theorem walk_lastAsks {origin : Origin} {start : NodeId} {trigger : Trigger} {status : Bool}
    {s : Scene} (h : (walk ctx m origin start trigger status s).1 = .ok (.suspended w)) :
    LastAsks ctx m (walkVisits ctx m origin start trigger status s) w :=
  walkFrom_lastAsks origin start _ _ start _ _ h

/-- **So does a walk that is picked up again**, or nothing runs and it is as before. -/
theorem resume_lastAsks {handed : Suspension} {a : Answer} {s : Scene}
    (h : (resume ctx m handed a s).1 = .ok (.suspended w)) :
    LastAsks ctx m (resumeVisits ctx m handed a s) w
      ∨ resumeVisits ctx m handed a s = [] ∧ handed = w := by
  unfold resume at h
  unfold resumeVisits
  cases hn : m.node handed.node with
  | error e =>
      rw [hn] at h
      cases h
  | ok n =>
      rw [hn] at h
      simp only at h ⊢
      cases hcheck : n.check with
      | error e =>
          rw [hcheck] at h
          cases h
      | ok u =>
          have hsave : (s.note .info s!"resuming node {handed.node.text} with {a.inspect}").save
              = s.save := rfl
          rw [hcheck] at h
          simp only [hsave] at h ⊢
          cases hanswer : n.answer ctx.dictionary s.save handed.status a with
          | error r =>
              rw [hanswer] at h
              cases h
          | ok branch =>
              rw [hanswer] at h
              match branch, h with
              | .proceed (some next) status, h => exact .inl (walk_lastAsks h)
              | .again, rfl => exact .inr ⟨rfl, rfl⟩

end Walks

/-! ## §2. Interactions. -/

namespace Session

variable {session : Session} {ctx : Context} {m : GameMap} {x y : UInt8} {trigger : Trigger}
  {s : Scene} {w : Suspension}

theorem onTile_lastAsks (h : (session.onTile ctx m x y trigger s).1 = .ok (.suspended w)) :
    LastAsks ctx m (session.tileVisits ctx m x y trigger s) w := by
  unfold onTile at h
  unfold tileVisits
  cases hevent : m.activeEvent? s.save x y with
  | none =>
      rw [hevent] at h
      cases h
  | some event =>
      rw [hevent] at h
      simp only at h ⊢
      cases hhead : m.chainHead event with
      | error e =>
          rw [hhead] at h
          cases h
      | ok head =>
          rw [hhead] at h
          simp only [RepeatGuard.ask] at h ⊢
          cases hheld : session.guard.holdsBack m event trigger with
          | error e =>
              rw [hheld] at h
              cases h
          | ok held =>
              rw [hheld] at h
              cases held with
              | true => cases h
              | false => exact walk_lastAsks h

theorem onCharacter_lastAsks {event : UInt16}
    (h : (session.onCharacter ctx m event x y trigger s).1 = .ok (.suspended w)) :
    LastAsks ctx m (session.characterVisits ctx m event x y trigger s) w := by
  unfold onCharacter at h
  unfold characterVisits
  cases hhead : m.chainHead event with
  | error e =>
      rw [hhead] at h
      cases h
  | ok head =>
      rw [hhead] at h
      simp only at h ⊢
      cases hbusy : session.characterBusy with
      | true =>
          rw [hbusy] at h
          cases h
      | false =>
          rw [hbusy] at h
          exact walk_lastAsks h

end Session

/-! ## §3. Moves. -/

namespace Playthrough

/-- The move hands this suspension in to be answered. -/
def HandsIn (p : Playthrough) (w : Suspension) : Move → Prop
  | .resume _ which _ => p.suspension? which = some w
  | .forge _ w' _ => w' = w
  | _ => False

/-- An interaction that walked did so on one of the maps. -/
theorem interact_walked {p : Playthrough} {stage : Nat} {f : Interplay}
    {result : Except ChainError Outcome} (h : (p.interact stage f).1.result = .walked result) :
    ∃ st, p.stages[stage]? = some st
      ∧ (f p.context st.map p.session ⟨p.save, p.dice, st.settled, #[], #[]⟩).1 = result := by
  unfold interact at h
  cases hst : p.stages[stage]? with
  | none =>
      rw [hst] at h
      cases h
  | some st =>
      rw [hst] at h
      exact ⟨st, rfl, MoveResult.walked.inj h⟩

/-- What an interaction returns is asked on one of the maps. -/
theorem interact_lastAsks {p : Playthrough} {f : Interplay} {visits : GameMap → Scene → List Visit}
    {w : Suspension} {HandedIn : Prop}
    (hf : ∀ m s, (f p.context m p.session s).1 = .ok (.suspended w) →
      LastAsks p.context m (visits m s) w ∨ visits m s = [] ∧ HandedIn) {stage : Nat}
    (h : (p.interact stage f).1.result = .walked (.ok (.suspended w))) :
    ∃ m, LastAsks p.context m (p.visitsOn stage visits) w
      ∨ p.visitsOn stage visits = [] ∧ HandedIn := by
  obtain ⟨st, hst, hresult⟩ := interact_walked h
  unfold visitsOn
  rw [hst]
  exact ⟨st.map, hf st.map _ hresult⟩

/-- **A suspension that a move returns is what its last visit asks**, or no node ran and it is the
one that was handed in. -/
theorem play_suspends {p : Playthrough} {move : Move} {w : Suspension}
    (h : (p.play move).1.result = .walked (.ok (.suspended w))) :
    ∃ m, LastAsks p.context m (p.visits move) w ∨ p.visits move = [] ∧ p.HandsIn w move := by
  have hend := p.play_ends move
  generalize p.play move = r at h hend
  cases hend with
  | tile stage x y interaction =>
      simp only [visits]
      exact interact_lastAsks (fun _ _ hresult => .inl (Session.onTile_lastAsks hresult)) h
  | character stage event x y interaction =>
      simp only [visits]
      exact interact_lastAsks (fun _ _ hresult => .inl (Session.onCharacter_lastAsks hresult)) h
  | walk stage start interaction origin status =>
      simp only [visits]
      exact interact_lastAsks (fun _ _ hresult => .inl (walk_lastAsks hresult)) h
  | resume stage which answer w' hw =>
      simp only [visits, HandsIn, hw, Option.some.injEq]
      exact interact_lastAsks (fun _ _ hresult => resume_lastAsks hresult) h
  | forge stage w' answer =>
      simp only [visits, HandsIn]
      exact interact_lastAsks (fun _ _ hresult => resume_lastAsks hresult) h
  | quiet result q hresult => exact absurd h (hresult _)
  | placed => cases h

/-- A suspension that is kept after a move was kept before, or the move returned it. -/
theorem play_suspensions {p : Playthrough} {move : Move} {w : Suspension}
    (h : w ∈ (p.play move).2.suspensions) :
    w ∈ p.suspensions ∨ (p.play move).1.result = .walked (.ok (.suspended w)) := by
  have interacted {stage : Nat} {f : Interplay} (h : w ∈ (p.interact stage f).2.suspensions) :
      w ∈ p.suspensions ∨ (p.interact stage f).1.result = .walked (.ok (.suspended w)) := by
    unfold interact at h ⊢
    cases hst : p.stages[stage]? with
    | none =>
        rw [hst] at h
        exact .inl h
    | some st =>
        rw [hst] at h
        exact (mem_collect h).imp_right (congrArg MoveResult.walked)
  have hend := p.play_ends move
  generalize p.play move = r at h hend ⊢
  cases hend with
  | tile | character | walk | forge | resume => exact interacted h
  | quiet result q hresult hstages hsuspensions => exact .inl (hsuspensions ▸ h)
  | placed => exact .inl h

end Playthrough

/-! ## §4. Where walks come from. -/

/-- The moves that make nothing up: walks begin at tiles and characters, and only suspensions that
were returned before are answered. -/
def Move.MakesNothingUp : Move → Prop
  | .walk .. | .forge .. => False
  | _ => True

namespace Playthrough

/-- **Where a walk comes from** if nothing is made up: from an event on a tile, from a character, or
from where the suspended walk came from that it goes on with. -/
inductive ComesFrom (p : Playthrough) : Origin → Prop where
  | tile {st : Stage} (hst : st ∈ p.stages) {x y : UInt8} {event : UInt16}
      (hevent : st.map.tileEvent? x y = some event) : ComesFrom p ⟨st.map.index, x, y, some event⟩
  | character {st : Stage} (hst : st ∈ p.stages) (x y : UInt8) :
      ComesFrom p ⟨st.map.index, x, y, none⟩
  | answered {w : Suspension} (hw : w ∈ p.suspensions) : ComesFrom p w.origin

variable {p : Playthrough} {move : Move}

/-- What is visited on the map at a position is visited on one of the maps. -/
theorem mem_visitsOn {stage : Nat} {visits : GameMap → Scene → List Visit} {v : Visit}
    (h : v ∈ p.visitsOn stage visits) : ∃ st ∈ p.stages, ∃ s, v ∈ visits st.map s := by
  unfold visitsOn at h
  cases hst : p.stages[stage]? with
  | none =>
      rw [hst] at h
      cases h
  | some st =>
      rw [hst] at h
      exact ⟨st, Array.mem_of_getElem? hst, _, h⟩

/-- **The visits of a move that makes nothing up come from there.** -/
theorem visits_comeFrom (h : move.MakesNothingUp) : ∀ v ∈ p.visits move, p.ComesFrom v.origin := by
  intro v hv
  cases move with
  | tile stage x y interaction =>
      simp only [visits] at hv
      obtain ⟨st, hst, s, hv⟩ := mem_visitsOn hv
      obtain ⟨event, hevent, horigin⟩ := p.session.tileVisits_origin p.context st.map x y _ s v hv
      rw [horigin]
      exact .tile hst hevent
  | character stage event x y interaction =>
      simp only [visits] at hv
      obtain ⟨st, hst, s, hv⟩ := mem_visitsOn hv
      rw [p.session.characterVisits_origin p.context st.map event x y _ s v hv]
      exact .character hst x y
  | resume stage which answer =>
      simp only [visits] at hv
      cases hw : p.suspension? which with
      | none =>
          rw [hw] at hv
          cases hv
      | some w =>
          rw [hw] at hv
          obtain ⟨st, -, s, hv⟩ := mem_visitsOn hv
          rw [resumeVisits_origin p.context st.map w answer s v hv]
          exact .answered (suspension?_mem hw)
  | walk | forge => exact absurd h id
  | _ => cases hv

/-- **And so do the walks that wait after it.** -/
theorem suspensions_comeFrom (h : move.MakesNothingUp) :
    ∀ w ∈ (p.play move).2.suspensions, p.ComesFrom w.origin := by
  intro w hw
  rcases play_suspensions hw with hbefore | hreturned
  · exact .answered hbefore
  · obtain ⟨m, ⟨v, hlast, -, horigin, -⟩ | ⟨-, hback⟩⟩ := play_suspends hreturned
    · rw [← horigin]
      exact visits_comeFrom h v (List.mem_of_getLast? hlast)
    -- what is handed back was kept before
    · cases move with
      | resume stage which answer => exact .answered (suspension?_mem hback)
      | forge => exact absurd h id
      | _ => cases hback

end Playthrough

end TileEvents
