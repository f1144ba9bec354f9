/-
  TileEvents.Proofs.Session.SameEvent
  ───────────────────────────────────
  **TILES WITH THE SAME EVENT ARE INTERCHANGEABLE.**

  An interaction looks up the event of its tile, and from then on it goes by
  the event.  So two tiles that carry the same one, or carry none, are told
  apart by the column and the row of suspensions alone, however often the walk
  is picked up again.

    • `Session.onTile_at`  — one interaction on both tiles;
    • `answerAll_at`       — answers to what comes of it, by induction;
    • `same_event_same_course` — the two together.
-/
import TileEvents.Proofs.Sample
import TileEvents.Proofs.Session.Visits
import TileEvents.Proofs.Walk.Standpoint

namespace TileEvents

/-! ## §1. One interaction. -/

/-- A result from another tile is the same but for the log and the origin of its suspension. -/
def SameFrom (x y : UInt8) (r r' : Except ChainError Outcome × Scene) : Prop :=
  r'.1 = r.1.map (Outcome.at x y) ∧ r'.2.unlogged = r.2.unlogged

/-- An interaction on another tile is the same but for the log and the origin of its suspension. -/
structure SameInteraction (x y : UInt8) (r r' : Except ChainError Outcome × Session × Scene) : Prop where
  same : SameFrom x y (r.1, r.2.2) (r'.1, r'.2.2)
  session : r'.2.1 = r.2.1

/-- **The same interaction on another tile with the same event.** -/
theorem Session.onTile_at (session : Session) (ctx : Context) {m : GameMap} {s : Scene}
    (h : m.AimsFixed s) {x y x' y' : UInt8} (hevent : m.tileEvent? x' y' = m.tileEvent? x y)
    (trigger : Trigger) :
    SameInteraction x' y' (session.onTile ctx m x y trigger s)
      (session.onTile ctx m x' y' trigger s) := by
  have hactive : m.activeEvent? s.save x' y' = m.activeEvent? s.save x y := by
    unfold GameMap.activeEvent?
    rw [hevent]
  unfold onTile
  rw [hactive]
  cases m.activeEvent? s.save x y with
  -- the line about a quiet tile names the tile
  | none =>
      refine ⟨⟨rfl, ?_⟩, rfl⟩
      rw [Scene.unlogged_note, Scene.unlogged_note]
  | some event =>
      dsimp only
      cases m.chainHead event with
      | error e => exact ⟨⟨rfl, rfl⟩, rfl⟩
      | ok head =>
          simp only [RepeatGuard.ask]
          cases session.guard.holdsBack m event trigger with
          | error e => exact ⟨⟨rfl, rfl⟩, rfl⟩
          | ok held =>
              cases held with
              | true => exact ⟨⟨rfl, rfl⟩, rfl⟩
              | false =>
                  have hasked : m.AimsFixed (s.notes []) := h.congr rfl
                  have hwalk := walk_at ctx ⟨m.index, x, y, some event⟩ x' y' hasked head trigger
                    false
                  simp only [Origin.at] at hwalk
                  dsimp only
                  rw [hwalk]
                  exact ⟨⟨rfl, rfl⟩, rfl⟩

/-! ## §2. Answers. -/

/-- **Answer what a walk came to**, again and again, each time in a context of its own: as long as it
is suspended, it is picked up. -/
def answerAll (m : GameMap) : List (Context × Answer) → Except ChainError Outcome × Scene →
    Except ChainError Outcome × Scene
  | (ctx, a) :: rest, (.ok (.suspended w), s) => answerAll m rest (resume ctx m w a s)
  | _, r => r

/-- The same answer to the suspensions of both tiles. -/
theorem resume_sameFrom {m : GameMap} {s s' : Scene} (h : m.AimsFixed s)
    (hs : s'.unlogged = s.unlogged) (ctx : Context) (w : Suspension) (a : Answer) (x y : UInt8) :
    SameFrom x y (resume ctx m w a s) (resume ctx m (w.at x y) a s') := by
  have hs' : m.AimsFixed s' := h.congr (Scene.eq_but_log hs).2.1
  have hblind := Scene.eq_of_unlogged_eq (fun s => unloggedResult (resume ctx m w a s))
    (fun s => resume_unlogged ctx m w a s) hs
  simp only [unloggedResult, Prod.mk.injEq] at hblind
  rw [resume_at ctx x y hs']
  exact ⟨congrArg (Except.map (Outcome.at x y)) hblind.1, hblind.2⟩

/-- **The same answers to what came of the interaction on both tiles.** -/
theorem answerAll_at {m : GameMap} {x y : UInt8} (answers : List (Context × Answer)) :
    ∀ {r r' : Except ChainError Outcome × Scene}, m.AimsFixed r.2 → SameFrom x y r r' →
      SameFrom x y (answerAll m answers r) (answerAll m answers r') := by
  -- on the answers; only a suspension takes the next one
  induction answers with
  | nil => exact fun _ hr => hr
  | cons answer answers ih =>
      obtain ⟨ctx, a⟩ := answer
      rintro ⟨result, s⟩ ⟨result', s'⟩ h ⟨hresult, hs⟩
      dsimp only at h hresult hs
      subst hresult
      match result with
      | .ok (.suspended w) =>
          exact ih (h.leads (leads_resume ctx m w a s)) (resume_sameFrom h hs ctx w a x y)
      | .error e | .ok .noEvent | .ok .suppressed | .ok (.completed _) | .ok .aborted =>
          exact ⟨rfl, hs⟩

/-! ## §3. Both tiles. -/

/-- **Tiles with the same event are interchangeable.**  Suppose that every replacement of the map has
settled or has a column and a row of its own.  Then an interaction with either of two tiles that
carry the same event comes to the same result, but for the column and the row in a suspension, and
leaves the same session and the same scene, but for the log.  That remains so when both results are
answered alike, in whatever contexts and however often.  And whatever else has been done in between,
in the end on any map without such open targets, a suspension of one tile goes on as that of the
other. -/
theorem same_event_same_course (session : Session) (ctx : Context) (m : GameMap)
    (x y x' y' : UInt8) (trigger : Trigger) (s : Scene) (haims : m.AimsFixed s)
    (hevent : m.tileEvent? x' y' = m.tileEvent? x y) :
    let r := session.onTile ctx m x y trigger s
    let r' := session.onTile ctx m x' y' trigger s
    r'.1 = r.1.map (Outcome.at x' y') ∧ r'.2.1 = r.2.1 ∧ r'.2.2.unlogged = r.2.2.unlogged
      ∧ (∀ answers : List (Context × Answer),
          let q := answerAll m answers (r.1, r.2.2)
          let q' := answerAll m answers (r'.1, r'.2.2)
          q'.1 = q.1.map (Outcome.at x' y') ∧ q'.2.unlogged = q.2.unlogged)
      ∧ ∀ (w : Suspension) (ctx' : Context) (m' : GameMap) (a : Answer) (s' : Scene),
          m'.AimsFixed s' →
          resume ctx' m' (w.at x' y') a s' = seenFrom x' y' (resume ctx' m' w a s') := by
  intro r r'
  obtain ⟨⟨hresult, hscene⟩, hsession⟩ := session.onTile_at ctx haims hevent trigger
  have hafter : m.AimsFixed r.2.2 := haims.leads (session.leads_onTile ctx m x y trigger s)
  refine ⟨hresult, hsession, hscene, ?_, ?_⟩
  · intro answers
    exact answerAll_at answers hafter ⟨hresult, hscene⟩
  · intro w ctx' m' a s' h
    exact resume_at ctx' x' y' h w a

/-- A map on which two tiles share an event: a text, then a replacement with a tile of its own. -/
def GameMap.twoDoors : GameMap :=
  ((GameMap.ofNodes
    [⟨⟨0⟩, .popupText, some ⟨1⟩, .popupText 0 none true false⟩,
      ⟨⟨1⟩, .changeTile, none, .changeTile ⟨⟨0, 4, 4⟩, 7⟩⟩] [⟨0⟩]).placeEvent 0 0 1).placeEvent 0 2 1

/-- Stepping onto either tile shows the text, in suspensions that differ in the row alone, and once
it is dismissed the same tile is replaced. -/
theorem same_event_same_course_doors :
    let m := GameMap.twoDoors
    let r := Session.fresh.onTile (.plain []) m 0 0 .move .blank
    let r' := Session.fresh.onTile (.plain []) m 0 2 .move .blank
    m.AimsFixed .blank
      ∧ r.1 = .ok (.suspended ⟨.popup 0 none, ⟨1, 0, 0, some 1⟩, ⟨0⟩, false⟩)
      ∧ r'.1 = .ok (.suspended ⟨.popup 0 none, ⟨1, 0, 2, some 1⟩, ⟨0⟩, false⟩)
      ∧ (answerAll m [(.plain [], .closed)] (r'.1, r'.2.2)).2.unlogged
        = (answerAll m [(.plain [], .closed)] (r.1, r.2.2)).2.unlogged := by
  intro m r r'
  have haims : m.AimsFixed .blank := by
    intro n hn t ht
    simp only [m, GameMap.twoDoors, GameMap.placeEvent, GameMap.ofNodes, List.mem_toArray,
      List.mem_cons, List.not_mem_nil, or_false] at hn
    rcases hn with rfl | rfl
    · cases ht
    · cases ht
      exact .inr ⟨by decide, by decide⟩
  obtain ⟨hresult, -, -, hanswers, -⟩ := same_event_same_course .fresh (.plain []) m 0 0 0 2 .move
    .blank haims rfl
  exact ⟨haims, rfl, hresult, (hanswers [(.plain [], .closed)]).2⟩

end TileEvents
