/-
  TileEvents.Proofs.Walk.Popups
  ─────────────────────────────
  **STOPPING AT A POPUP LOSES NOTHING.**

  A popup stops a walk only to be dismissed.  Take the map in which every
  popup lets the walk pass, walk it without a stop, and walk the true map
  dismissing one popup after the other: the walks end alike, in the same
  savegame, with the same dice, settled targets and requests to the host.

  The stops cut one walk into segments.  A segment begins afresh, with the
  trigger `always`, the status of its popup and the full number of steps; the
  induction is on the steps that the uncut walk has left, and a segment always
  has at least as many.
-/
import Mathlib.Logic.Function.Iterate
import TileEvents.Proofs.Sample
import TileEvents.Proofs.Walk.Ending
import TileEvents.Proofs.Walk.Unlogged

namespace TileEvents

/-! ## §1. Dismissing popups. -/

/-- Whether a prompt is a popup. -/
def Prompt.isPopup : Prompt → Bool
  | .popup .. => true
  | _ => false

/-- **What comes of a walk when the popup it stopped at is dismissed.**  A walk that ended in any
other way stays ended. -/
def dismissPopup (ctx : Context) (m : GameMap) :
    Except ChainError Outcome × Scene → Except ChainError Outcome × Scene
  | (.ok (.suspended w), s) =>
    if w.prompt.isPopup then resume ctx m w .closed s else (.ok (.suspended w), s)
  | r => r

/-- A node that lets the walk pass where there was a popup; `code` is the type it declares. -/
def Node.withoutPopup (code : UInt8) (bytes : List UInt8) (n : Node) : Node :=
  match n.payload with
  | .popupText .. => { n with declared := .unknown code, payload := .unknown bytes }
  | _ => n

/-- The map in which every popup lets the walk pass. -/
def GameMap.withoutPopups (code : UInt8) (bytes : List UInt8) (m : GameMap) : GameMap :=
  { m with nodes := m.nodes.map (Node.withoutPopup code bytes) }

/-! ## §2. The map without popups. -/

section WithoutPopups

variable (code : UInt8) (bytes : List UInt8) (m : GameMap)

theorem GameMap.node_withoutPopups (id : NodeId) :
    (m.withoutPopups code bytes).node id = (m.node id).map (Node.withoutPopup code bytes) := by
  unfold node withoutPopups
  simp only [Array.getElem?_map, Array.size_map]
  cases m.nodes[id.index.toNat]? <;> rfl

/-- The map matters to a step only by what stands behind its battles. -/
theorem Node.step_withoutPopups (ctx : Context) (origin : Origin) (n : Node) (c : Cursor)
    (s : Scene) :
    n.step ctx (m.withoutPopups code bytes) origin c s = n.step ctx m origin c s := rfl

/-- No node of this map gives a popup. -/
theorem Node.not_asks_withoutPopup (n : Node) (p : Prompt) (hp : p.isPopup = true) :
    (n.withoutPopup code bytes).payload.asks p = false := by
  obtain ⟨id, declared, next, payload⟩ := n
  cases p with
  | popup text image => cases payload <;> rfl
  | _ => cases hp

/-- A walk over this map never stops at a popup. -/
theorem walk_withoutPopups_not_popup {ctx : Context} {origin : Origin} {start : NodeId}
    {trigger : Trigger} {status : Bool} {s : Scene} {w : Suspension}
    (h : (walk ctx (m.withoutPopups code bytes) origin start trigger status s).1
      = .ok (.suspended w)) : w.prompt.isPopup = false := by
  have hend := walk_ends ctx (m.withoutPopups code bytes) origin start trigger status s
  rw [h] at hend
  cases hend with
  | suspended _ _ hw _ =>
      obtain ⟨n', hn', -, hasks⟩ := hw
      rw [GameMap.node_withoutPopups] at hn'
      cases hn : m.node w.node with
      | error e => simp [hn, Except.map] at hn'
      | ok n =>
          rw [hn] at hn'
          injection hn' with hn'
          cases hpopup : w.prompt.isPopup with
          | false => rfl
          | true =>
              rw [← hn', n.not_asks_withoutPopup code bytes w.prompt hpopup] at hasks
              cases hasks

end WithoutPopups

/-! ## §3. One popup. -/

section OnePopup

variable (ctx : Context) (m : GameMap) (origin : Origin) (status : Bool)
  (id : NodeId) (declared : EventType) (next : Option NodeId) (text : UInt16) (image : Option UInt8)
  (byMoving byCursor : Bool)

/-- A popup on the way of an `always` walk stops it. -/
theorem Node.step_popup (h : Node.isConsistent
      ⟨id, declared, next, .popupText text image byMoving byCursor⟩ = true) (s : Scene) :
    Node.step ctx m origin ⟨id, declared, next, .popupText text image byMoving byCursor⟩
        ⟨.always, status⟩ s
      = (.ok (.await (.popup text image), ⟨.always, status⟩),
          s.remark id s!"{declared.inspect} ({Trigger.always.name})") := by
  simp [step, check, h, perform]

/-- Where there was a popup the walk passes. -/
theorem Node.step_passing (code : UInt8) (bytes : List UInt8) (t : Scene) :
    unloggedResult (Node.step ctx m origin ⟨id, .unknown code, next, .unknown bytes⟩
        ⟨.always, status⟩ t)
      = (.ok (.goto next, ⟨.always, status⟩), t.unlogged) := by
  simp [step, check, isConsistent, Payload.type?, perform, unloggedResult]

/-- A dismissed popup goes on at its link, with the status it stopped with. -/
theorem dismissPopup_popup {at_ : NodeId}
    (hn : m.node at_ = .ok ⟨id, declared, next, .popupText text image byMoving byCursor⟩)
    (h : Node.isConsistent ⟨id, declared, next, .popupText text image byMoving byCursor⟩ = true)
    (s : Scene) :
    ∃ s', s'.unlogged = s.unlogged ∧
      dismissPopup ctx m (.ok (.suspended ⟨.popup text image, origin, at_, status⟩), s)
        = next.elim (.ok (.completed status), s')
            fun j => walk ctx m origin j .always status s' := by
  refine ⟨s.note .info s!"resuming node {at_.text} with {Answer.closed.inspect}", rfl, ?_⟩
  simp only [dismissPopup, Prompt.isPopup, if_true, resume, hn, Node.check, h]
  cases next <;> rfl

end OnePopup

/-! ## §4. The whole walk. -/

/-- Either there is a popup at a node, or taking popups away changes nothing about it. -/
theorem Node.popup_or_same (code : UInt8) (bytes : List UInt8) (n : Node) :
    (∃ id declared next text image byMoving byCursor,
        n = ⟨id, declared, next, .popupText text image byMoving byCursor⟩)
      ∨ n.withoutPopup code bytes = n := by
  obtain ⟨id, declared, next, payload⟩ := n
  cases payload with
  | popupText text image byMoving byCursor => exact .inl ⟨_, _, _, _, _, _, _, rfl⟩
  | _ => exact .inr rfl

/-- Results that agree in all but the log. -/
theorem unloggedResult_mk {α : Type} {a : α} {s t : Scene} (h : s.unlogged = t.unlogged) :
    unloggedResult (a, s) = unloggedResult (a, t) := by
  simp [unloggedResult, h]

section Segments

variable {code : UInt8} {bytes : List UInt8} {ctx : Context} {m : GameMap} {origin : Origin}
  {start : NodeId} {limit : Nat}

/-- Should the uncut walk end within its `left` steps from a node on, then so does the cut one
after some dismissed popups, in the same way.  The segment under way has `enough` steps and counts
from `first`. -/
def SegmentsMeet (code : UInt8) (bytes : List UInt8) (ctx : Context) (m : GameMap)
    (origin : Origin) (start : NodeId) (limit left enough : Nat) (first id : NodeId)
    (status : Bool) (s t : Scene) : Prop :=
  let uncut := walkFrom ctx (m.withoutPopups code bytes) origin start limit left id
    ⟨.always, status⟩ t
  let cut := walkFrom ctx m origin first ctx.settings.maxChainSteps enough id ⟨.always, status⟩ s
  uncut.1 ≠ .error (.chainLimitExceeded start limit) →
    ∃ k, k ≤ left ∧ unloggedResult ((dismissPopup ctx m)^[k] cut) = unloggedResult uncut

/-- At a popup a segment ends and the next one begins. -/
theorem segmentsMeet_popup {left enough : Nat} {first id nid : NodeId} {status : Bool} {s t : Scene}
    {declared : EventType} {next : Option NodeId} {text : UInt16} {image : Option UInt8}
    {byMoving byCursor : Bool}
    (hn : m.node id = .ok ⟨nid, declared, next, .popupText text image byMoving byCursor⟩)
    (hconsistent : Node.isConsistent
      ⟨nid, declared, next, .popupText text image byMoving byCursor⟩ = true)
    (same : s.unlogged = t.unlogged)
    (ih : ∀ (j : NodeId) (s t : Scene), s.unlogged = t.unlogged →
      SegmentsMeet code bytes ctx m origin start limit left ctx.settings.maxChainSteps j j status
        s t) :
    SegmentsMeet code bytes ctx m origin start limit (left + 1) (enough + 1) first id status s t := by
  intro hends
  have hpass := Node.step_passing ctx (m.withoutPopups code bytes) origin status nid next code bytes t
  simp only [walkFrom, GameMap.node_withoutPopups, hn, Except.map, Node.withoutPopup,
    Node.step_popup ctx m origin status _ _ _ _ _ _ _ hconsistent] at hends ⊢
  -- the uncut walk passes the node and notes in its log that it did
  generalize Node.step ctx (m.withoutPopups code bytes) origin _ _ t = r at hpass hends ⊢
  obtain ⟨result, t₁⟩ := r
  simp only [unloggedResult, Prod.mk.injEq] at hpass
  obtain ⟨rfl, ht₁⟩ := hpass
  -- the cut walk stops, and dismissing the popup brings it to the same link
  obtain ⟨s₁, hs₁, hdismiss⟩ := dismissPopup_popup ctx m origin status nid declared next
    text image byMoving byCursor hn hconsistent
    ((s.remark nid s!"{declared.inspect} ({Trigger.always.name})").note .debug
      s!"chain suspended at node {id.text}: {(Prompt.popup text image).inspect}")
  have hmeet : s₁.unlogged = t₁.unlogged := hs₁.trans (same.trans ht₁.symm)
  cases next with
  | none =>
      refine ⟨1, by omega, ?_⟩
      rw [Function.iterate_one, hdismiss]
      exact unloggedResult_mk hmeet
  | some j =>
      obtain ⟨k, hk, hwalk⟩ := ih j (s₁.note .info
        s!"walking chain from node {j.text} on map {m.index} ({Trigger.always.name})") t₁ hmeet hends
      -- one popup more than the walk from the link on needs
      refine ⟨k + 1, by omega, ?_⟩
      rw [Function.iterate_succ_apply, hdismiss]
      exact hwalk

/-- Where there is no popup both walks take the same step. -/
theorem segmentsMeet_plain {left enough : Nat} {first id : NodeId} {status : Bool} {s t : Scene}
    {n : Node} (hn : m.node id = .ok n) (hplain : n.withoutPopup code bytes = n)
    (same : s.unlogged = t.unlogged)
    (ih : ∀ (j : NodeId) (status : Bool) (s t : Scene), s.unlogged = t.unlogged →
      SegmentsMeet code bytes ctx m origin start limit left enough first j status s t) :
    SegmentsMeet code bytes ctx m origin start limit (left + 1) (enough + 1) first id status s t := by
  intro hends
  simp only [walkFrom, GameMap.node_withoutPopups, hn, Except.map, hplain,
    Node.step_withoutPopups] at hends ⊢
  -- the scenes differ in their logs alone, which no node reads
  have hstep := Scene.eq_of_unlogged_eq
    (fun s => unloggedResult (n.step ctx m origin ⟨.always, status⟩ s))
    (n.step_unlogged ctx m origin ⟨.always, status⟩) same
  -- a walk that has become `always` stays so, which is how every segment begins
  have halways : ∀ d c s', n.step ctx m origin ⟨.always, status⟩ s = (.ok (d, c), s') →
      c = ⟨.always, c.status⟩ := by
    intro d c s' h
    have htrigger : c.trigger = .always := or_self_iff.1 (Node.step_allows h).2.trigger
    rw [← htrigger]
  generalize n.step ctx m origin ⟨.always, status⟩ s = r at hstep halways ⊢
  generalize n.step ctx m origin ⟨.always, status⟩ t = r' at hstep hends ⊢
  obtain ⟨result, s₁⟩ := r
  obtain ⟨result', t₁⟩ := r'
  simp only [unloggedResult, Prod.mk.injEq] at hstep
  obtain ⟨rfl, hmeet⟩ := hstep
  match result with
  | .error e => exact ⟨0, Nat.zero_le _, unloggedResult_mk hmeet⟩
  | .ok (.reject, c) => exact ⟨0, Nat.zero_le _, unloggedResult_mk hmeet⟩
  | .ok (.await p, c) => exact ⟨0, Nat.zero_le _, unloggedResult_mk hmeet⟩
  | .ok (.goto none, c) => exact ⟨0, Nat.zero_le _, unloggedResult_mk hmeet⟩
  | .ok (.goto (some j), c) =>
      have hc := halways _ c s₁ rfl
      simp only at hends ⊢
      rw [hc] at hends ⊢
      obtain ⟨k, hk, hwalk⟩ := ih j c.status s₁ t₁ hmeet hends
      exact ⟨k, by omega, hwalk⟩

/-- **Segment by segment the cut walk keeps up with the uncut one.** -/
theorem segmentsMeet (hm : ∀ n ∈ m.nodes, n.isConsistent = true) :
    ∀ (left enough : Nat) (first id : NodeId) (status : Bool) (s t : Scene),
      left ≤ enough → left ≤ ctx.settings.maxChainSteps → s.unlogged = t.unlogged →
      SegmentsMeet code bytes ctx m origin start limit left enough first id status s t := by
  -- on the steps that the uncut walk has left: the segment under way never has fewer
  intro left
  induction left with
  | zero =>
      -- without steps the uncut walk has met the limit
      intro enough first id status s t _ _ _ hends
      exact absurd rfl hends
  | succ left ih =>
      intro enough first id status s t henough hlimit same
      -- so the segment has a step left whenever the uncut walk has
      obtain ⟨enough, rfl⟩ : ∃ e, enough = e + 1 := ⟨enough - 1, by omega⟩
      cases hn : m.node id with
      | error e =>
          intro _
          refine ⟨0, Nat.zero_le _, ?_⟩
          simp only [walkFrom, GameMap.node_withoutPopups, hn, Except.map]
          exact unloggedResult_mk same
      | ok n =>
          have hconsistent : n.isConsistent = true :=
            hm n (Array.mem_of_getElem? (GameMap.node_eq_ok.1 hn))
          rcases n.popup_or_same code bytes with
            ⟨nid, declared, next, text, image, byMoving, byCursor, rfl⟩ | hplain
          · apply segmentsMeet_popup hn hconsistent same
            intro j s t same
            exact ih _ j j status s t (by omega) (by omega) same
          · apply segmentsMeet_plain hn hplain same
            intro j status s t same
            exact ih enough first j status s t (by omega) (by omega) same

end Segments

/-- **Suspending at popups and dismissing them loses nothing.**  When the walk over the map in
which popups let the walk pass ends within the limit, then so does the walk over the map itself
once its popups have been dismissed one after the other: after at most as many of them as a walk
may visit nodes no popup is left, and the result, the savegame, the dice, the settled targets and
the requests to the host are those of the uncut walk. -/
theorem dismissing_popups_loses_nothing (code : UInt8) (bytes : List UInt8) (m : GameMap)
    (hm : ∀ n ∈ m.nodes, n.isConsistent = true) (ctx : Context) (origin : Origin) (start : NodeId)
    (status : Bool) (s : Scene)
    (hends : ∀ first limit,
      (walk ctx (m.withoutPopups code bytes) origin start .always status s).1
        ≠ .error (.chainLimitExceeded first limit)) :
    ∃ k, k ≤ ctx.settings.maxChainSteps ∧
      (let r := (dismissPopup ctx m)^[k] (walk ctx m origin start .always status s)
       (∀ w, r.1 = .ok (.suspended w) → w.prompt.isPopup = false)
        ∧ unloggedResult r
            = unloggedResult (walk ctx (m.withoutPopups code bytes) origin start .always status s)) := by
  have hmeet : ∀ s, SegmentsMeet code bytes ctx m origin start ctx.settings.maxChainSteps
      ctx.settings.maxChainSteps ctx.settings.maxChainSteps start start status s s := by
    intro s
    exact segmentsMeet hm _ _ start start status s s (Nat.le_refl _) (Nat.le_refl _) rfl
  obtain ⟨k, hk, hwalk⟩ := hmeet _ (hends start _)
  refine ⟨k, hk, ?_, hwalk⟩
  -- both ended alike, and the uncut walk never stops at a popup
  intro w hw
  have hresult := congrArg Prod.fst hwalk
  exact walk_withoutPopups_not_popup code bytes m (hresult.symm.trans hw)

/-- Two popups with music between them, and a question at the end. -/
theorem dismissing_popups_loses_nothing_two :
    let m := GameMap.ofNodes
      [⟨⟨0⟩, .popupText, some ⟨1⟩, .popupText 0 none true true⟩,
        ⟨⟨1⟩, .changeMusic, some ⟨2⟩, .changeMusic 3 50⟩,
        ⟨⟨2⟩, .popupText, some ⟨3⟩, .popupText 1 none true true⟩,
        ⟨⟨3⟩, .decision, none, .decision 2 none⟩] [⟨0⟩]
    let ctx := Context.plain []
    let origin : Origin := ⟨1, 0, 0, some 1⟩
    let uncut := walk ctx (m.withoutPopups 200 []) origin ⟨0⟩ .always false .blank
    (∀ n ∈ m.nodes, n.isConsistent = true)
      ∧ uncut.1 = .ok (.suspended ⟨.decision 2, origin, ⟨3⟩, false⟩)
      ∧ ∃ k, k ≤ ctx.settings.maxChainSteps ∧
        unloggedResult ((dismissPopup ctx m)^[k] (walk ctx m origin ⟨0⟩ .always false .blank))
          = unloggedResult uncut := by
  intro m ctx origin uncut
  have hm : ∀ n ∈ m.nodes, n.isConsistent = true := by decide
  have hnodes : m.withoutPopups 200 [] = GameMap.ofNodes
      [⟨⟨0⟩, .unknown 200, some ⟨1⟩, .unknown []⟩,
        ⟨⟨1⟩, .changeMusic, some ⟨2⟩, .changeMusic 3 50⟩,
        ⟨⟨2⟩, .unknown 200, some ⟨3⟩, .unknown []⟩,
        ⟨⟨3⟩, .decision, none, .decision 2 none⟩] [⟨0⟩] := by
    simp [m, GameMap.withoutPopups, GameMap.ofNodes, Node.withoutPopup]
  have huncut : uncut.1 = .ok (.suspended ⟨.decision 2, origin, ⟨3⟩, false⟩) := by
    simp only [uncut, hnodes]
    rfl
  have hends : ∀ first limit, uncut.1 ≠ .error (.chainLimitExceeded first limit) := by
    intro first limit
    rw [huncut]
    simp
  obtain ⟨k, hk, -, hsame⟩ :=
    dismissing_popups_loses_nothing 200 [] m hm ctx origin ⟨0⟩ false .blank hends
  exact ⟨hm, huncut, k, hk, hsame⟩

end TileEvents
