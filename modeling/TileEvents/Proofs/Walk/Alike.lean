/-
  TileEvents.Proofs.Walk.Alike
  ────────────────────────────
  **ALIKE SCENES TAKE THE SAME COURSE.**

  Two scenes that differ in the settled targets alone, and in which every
  replacement of the map aims at the same tile, are told apart by nothing.  A
  node, a walk, an answer and an interaction come to the same result in both,
  make the same requests, write the same log and leave the scenes alike.

    • `SameCourse`                     — the same result and alike scenes;
    • `Node.step_alike`                — one node;
    • `walkFrom_alike`, `walk_alike`, `resume_alike` — walks, by induction;
    • `Session.onTile_alike`, `Session.onCharacter_alike` — interactions.
-/
import TileEvents.Proofs.Walk.Settling
import TileEvents.Session.Basic

namespace TileEvents

/-! ## §1. One node. -/

/-- **Two results that are the same but for what alike scenes may differ in.** -/
structure SameCourse {α : Type} (m : GameMap) (r r' : α × Scene) : Prop where
  result : r.1 = r'.1
  scene : r.2.Alike m r'.2

variable {ctx : Context} {m : GameMap} {s s' : Scene}

namespace Scene.Alike

/-- A line of the log keeps scenes alike. -/
theorem note (h : s.Alike m s') (level : Level) (text : String) :
    (s.note level text).Alike m (s'.note level text) :=
  h.map (f := fun s => s.note level text) (fun _ _ => rfl) fun _ => rfl

theorem remark (h : s.Alike m s') (id : NodeId) (text : String) :
    (s.remark id text).Alike m (s'.remark id text) :=
  h.note .info (id.remark text)

/-- So do several. -/
theorem notes (h : s.Alike m s') (records : List Record) :
    (s.notes records).Alike m (s'.notes records) :=
  h.map (f := fun s => s.notes records) (fun _ _ => rfl) fun _ => rfl

/-- Alike scenes have the same savegame. -/
theorem save (h : s.Alike m s') : s'.save = s.save := by
  rw [h.same]
  rfl

end Scene.Alike

/-- What a node does to alike scenes is alike. -/
theorem Node.perform_alike {origin : Origin} {n : Node} {c : Cursor} {f : Scene → Stepped}
    (hf : n.perform ctx m origin c = .ok f) (hn : n ∈ m.nodes) (h : s.Alike m s') :
    (f s).directive = (f s').directive ∧ (f s).cursor = (f s').cursor
      ∧ (f s).scene.Alike m (f s').scene := by
  by_cases hreplaces : ∃ r, n.payload = .changeTile r
  case pos =>
    obtain ⟨r, hr⟩ := hreplaces
    simp only [perform, hr] at hf
    injection hf with hf
    subst hf
    exact ⟨rfl, rfl, h.replaceTile hn hr origin⟩
  case neg =>
    have hblind := perform_withSettled hf fun r hr => hreplaces ⟨r, hr⟩
    have hsettled (s : Scene) : (f s).scene.settled = s.settled := by
      rcases (perform_affects hf s).tiles with ⟨r, hr, _⟩ | hsame
      · exact absurd ⟨r, hr⟩ hreplaces
      · exact hsame.settled
    have hsame := hblind s s'.settled
    rw [← h.same] at hsame
    refine ⟨by rw [hsame]; rfl, by rw [hsame]; rfl, ?_⟩
    exact h.map (f := fun s => (f s).scene) (fun s t => congrArg Stepped.scene (hblind s t)) hsettled

/-- **A step in alike scenes takes the same course.** -/
theorem Node.step_alike (ctx : Context) (origin : Origin) (c : Cursor) {n : Node}
    (hn : n ∈ m.nodes) (h : s.Alike m s') :
    SameCourse m (n.step ctx m origin c s) (n.step ctx m origin c s') := by
  unfold step
  cases n.check with
  | error e => exact ⟨rfl, h⟩
  | ok u =>
      have hbegun := h.remark n.id s!"{n.declared.inspect} ({c.trigger.name})"
      cases hf : n.perform ctx m origin c with
      | error e => exact ⟨rfl, hbegun⟩
      | ok f =>
          obtain ⟨hdirective, hcursor, hscene⟩ := perform_alike hf hn hbegun
          dsimp only
          rw [← hdirective, ← hcursor]
          refine ⟨rfl, ?_⟩
          -- a rejection is logged in both
          dsimp only
          split
          · exact hscene.remark _ _
          · exact hscene

/-! ## §2. Walks. -/

variable (ctx)

theorem walkFrom_alike (origin : Origin) (start : NodeId) (limit : Nat) :
    ∀ (left : Nat) (id : NodeId) (c : Cursor) {s s' : Scene}, s.Alike m s' →
      SameCourse m (walkFrom ctx m origin start limit left id c s)
        (walkFrom ctx m origin start limit left id c s') := by
  -- on the steps that are left; a node hands alike scenes over to the next
  intro left
  induction left with
  | zero => intro id c s s' h; exact ⟨rfl, h⟩
  | succ left ih =>
      intro id c s s' h
      unfold walkFrom
      cases hn : m.node id with
      | error e => exact ⟨rfl, h⟩
      | ok n =>
          simp only
          have hmem : n ∈ m.nodes := Array.mem_of_getElem? (GameMap.node_eq_ok.1 hn)
          obtain ⟨hresult, hscene⟩ := Node.step_alike ctx origin c hmem h
          generalize n.step ctx m origin c s = r at hresult hscene
          generalize n.step ctx m origin c s' = r' at hresult hscene
          obtain ⟨result, s₁⟩ := r
          obtain ⟨result', s₂⟩ := r'
          subst hresult
          match result with
          | .error e | .ok (.reject, _) | .ok (.goto none, _) => exact ⟨rfl, hscene⟩
          | .ok (.await prompt, _) => exact ⟨rfl, hscene.note _ _⟩
          | .ok (.goto (some next), c') => exact ih next c' hscene

/-- **A walk in alike scenes takes the same course.** -/
theorem walk_alike (origin : Origin) (start : NodeId) (trigger : Trigger) (status : Bool)
    (h : s.Alike m s') :
    SameCourse m (walk ctx m origin start trigger status s)
      (walk ctx m origin start trigger status s') :=
  walkFrom_alike ctx origin start _ _ start _ (h.note _ _)

/-- **So does a walk that is picked up again.** -/
theorem resume_alike (w : Suspension) (a : Answer) (h : s.Alike m s') :
    SameCourse m (resume ctx m w a s) (resume ctx m w a s') := by
  unfold resume
  cases m.node w.node with
  | error e => exact ⟨rfl, h⟩
  | ok n =>
      simp only
      cases n.check with
      | error e => exact ⟨rfl, h⟩
      | ok u =>
          have hbegun := h.note .info s!"resuming node {w.node.text} with {a.inspect}"
          simp only [hbegun.save]
          cases n.answer ctx.dictionary _ w.status a with
          | error r => exact ⟨rfl, hbegun⟩
          | ok branch =>
              have hanswered := hbegun.map (f := fun t => t.setSave (n.afterAnswer t.save a))
                (fun _ _ => rfl) fun _ => rfl
              simp only [hbegun.save] at hanswered
              match branch with
              | .proceed (some next) status => exact walk_alike ctx _ next .always status hanswered
              | .proceed none status | .abort | .again => exact ⟨rfl, hanswered⟩

/-! ## §3. Interactions. -/

namespace Session

variable (session : Session)

/-- **An interaction with a tile takes the same course**, and leaves the same session. -/
theorem onTile_alike (x y : UInt8) (trigger : Trigger) (h : s.Alike m s') :
    (session.onTile ctx m x y trigger s).1 = (session.onTile ctx m x y trigger s').1
      ∧ (session.onTile ctx m x y trigger s).2.1 = (session.onTile ctx m x y trigger s').2.1
      ∧ (session.onTile ctx m x y trigger s).2.2.Alike m
          (session.onTile ctx m x y trigger s').2.2 := by
  unfold onTile
  rw [h.save]
  cases m.activeEvent? s.save x y with
  | none => exact ⟨rfl, rfl, h.note _ _⟩
  | some event =>
      simp only
      cases m.chainHead event with
      | error e => exact ⟨rfl, rfl, h⟩
      | ok head =>
          simp only
          obtain ⟨held, guard, records⟩ := session.guard.ask m event trigger
          match held with
          | .error e | .ok true => exact ⟨rfl, rfl, h.notes _⟩
          | .ok false =>
              have hwalk := walk_alike ctx ⟨m.index, x, y, some event⟩ head trigger false
                (h.notes records)
              exact ⟨hwalk.result, rfl, hwalk.scene⟩

/-- **So does one with a character.** -/
theorem onCharacter_alike (event : UInt16) (x y : UInt8) (trigger : Trigger) (h : s.Alike m s') :
    (session.onCharacter ctx m event x y trigger s).1
        = (session.onCharacter ctx m event x y trigger s').1
      ∧ (session.onCharacter ctx m event x y trigger s).2.1
        = (session.onCharacter ctx m event x y trigger s').2.1
      ∧ (session.onCharacter ctx m event x y trigger s).2.2.Alike m
        (session.onCharacter ctx m event x y trigger s').2.2 := by
  unfold onCharacter
  cases m.chainHead event with
  | error e => exact ⟨rfl, rfl, h⟩
  | ok head =>
      cases session.characterBusy with
      | true => exact ⟨rfl, rfl, h.note _ _⟩
      | false =>
          have hwalk := walk_alike ctx ⟨m.index, x, y, none⟩ head trigger false h
          exact ⟨hwalk.result, rfl, hwalk.scene⟩

end Session

end TileEvents
