/-
  TileEvents.Proofs.Walk.Control
  ──────────────────────────────
  **WHAT A NODE CAN TELL THE WALK.**

  A step has twenty kinds of node to deal with, but the walk sees little of
  them: where to go on, which prompt to give, which trigger and status to hand
  over, or why the node cannot be used.  This module says it once for all
  kinds, so that no later proof opens a step again:

    • `step_allows`  — a step follows a link of its node, gives only a prompt
      of its node's kind, and keeps the trigger unless it becomes `always`;
    • `step_breaks`  — a step fails only for a declared type that does not go
      with the payload, a facing above 3 or an ailment above 10.
-/
import TileEvents.Walk.Run

namespace TileEvents

/-! ## §1. Links and prompts of a node. -/

/-- The second link that a walk takes by itself: that of conditions and dice. -/
def Payload.alternate? : Payload → Option NodeId
  | .condition c => c.alternate
  | .diceRoll _ alternate => alternate
  | _ => none

/-- The second link of a payload, whoever takes it: the walk or the player's answer. -/
def Payload.branch? : Payload → Option NodeId
  | .door d => d.unlockFailed
  | .chest c => c.unlockFailed
  | .condition c => c.alternate
  | .diceRoll _ alternate => alternate
  | .decision _ no => no
  | _ => none

/-- The nodes that a walk can go on to from this one. -/
def Node.onward (n : Node) : List NodeId := n.next.toList ++ n.payload.alternate?.toList

/-- The nodes that this one links to. -/
def Node.links (n : Node) : List NodeId := n.next.toList ++ n.payload.branch?.toList

/-- Whether a payload of this kind gives this prompt. -/
def Payload.asks : Payload → Prompt → Bool
  | .popupText .., .popup .. => true
  | .decision .., .decision _ => true
  | .riddlemouth .., .riddle .. => true
  | .conversation _, .conversation => true
  | .condition c, .sayWord => c.kind = .sayWord
  | .condition c, .enterNumber => c.kind = .enterNumber
  | .door _, .door .. => true
  | .chest _, .chest .. => true
  | .startBattle _, .battle .. => true
  | .trap _, .trap _ => true
  | _, _ => false

/-- What a walk takes by itself is a link like any other. -/
theorem Node.onward_subset_links (n : Node) : n.onward ⊆ n.links := by
  intro j hj
  rcases List.mem_append.1 hj with hnext | halternate
  · exact List.mem_append_left _ hnext
  · apply List.mem_append_right
    cases hp : n.payload <;> simp_all [Payload.alternate?, Payload.branch?]

/-- Only a condition on a word asks for one, and only when the player came to talk. -/
theorem Condition.asks_word (c : Condition) {save : Savegame} {trigger : Trigger} {status : Bool}
    (h : c.verdict save trigger status = .awaitWord) : c.kind = .sayWord ∧ trigger = .mouth := by
  unfold verdict at h
  split at h
  case h_1 hkind =>
    split at h
    case isTrue hmouth => exact ⟨hkind, hmouth⟩
    case isFalse => cases h
  case h_2 => split at h <;> cases h
  case h_3 => cases h

/-- Only a condition on a number asks for one, and only when the player came with the hand. -/
theorem Condition.asks_number (c : Condition) {save : Savegame} {trigger : Trigger} {status : Bool}
    (h : c.verdict save trigger status = .awaitNumber) :
    c.kind = .enterNumber ∧ trigger = .hand := by
  unfold verdict at h
  split at h
  case h_1 => split at h <;> cases h
  case h_2 hkind =>
    split at h
    case isTrue hhand => exact ⟨hkind, hhand⟩
    case isFalse => cases h
  case h_3 => cases h

/-! ## §2. Steps that succeed. -/

/-- What a node may tell a walk that reached it with `before`: the directive `d`, and `after` for
what comes next. -/
structure Node.Allows (n : Node) (before : Cursor) (d : Directive) (after : Cursor) : Prop where
  follows : ∀ j, d = .goto (some j) → j ∈ n.onward
  asks : ∀ p, d = .await p → n.payload.asks p = true
  trigger : after.trigger = before.trigger ∨ after.trigger = .always

namespace Node.Allows

variable {n : Node} {before after : Cursor}

theorem goOn (h : after.trigger = before.trigger ∨ after.trigger = .always) :
    n.Allows before (.goto n.next) after where
  follows j hj := by
    injection hj with hj
    simp [Node.onward, hj]
  asks p hp := by cases hp
  trigger := h

theorem stop : n.Allows before (.goto none) before where
  follows j hj := by cases hj
  asks p hp := by cases hp
  trigger := .inl rfl

theorem reject : n.Allows before .reject before where
  follows j hj := by cases hj
  asks p hp := by cases hp
  trigger := .inl rfl

theorem await {p : Prompt} (h : n.payload.asks p = true) : n.Allows before (.await p) before where
  follows j hj := by cases hj
  asks q hq := by
    injection hq with hq
    rw [← hq, h]
  trigger := .inl rfl

theorem otherwise (h : after.trigger = before.trigger) :
    n.Allows before (.otherwise n.payload.alternate?) after where
  follows j hj := by
    cases ha : n.payload.alternate? with
    | none => rw [ha] at hj; cases hj
    | some alternate =>
        rw [ha] at hj
        injection hj with hj
        injection hj with hj
        simp [Node.onward, ha, hj]
  asks p hp := by
    cases ha : n.payload.alternate? with
    | none => rw [ha] at hp; cases hp
    | some alternate => rw [ha] at hp; cases hp
  trigger := .inl h

end Node.Allows

/-- Every kind of node keeps to what a node may tell a walk. -/
theorem Node.perform_allows {ctx : Context} {map : GameMap} {origin : Origin} {n : Node}
    {cursor : Cursor} {f : Scene → Stepped} (h : n.perform ctx map origin cursor = .ok f)
    (s : Scene) : n.Allows cursor (f s).directive (f s).cursor := by
  -- most kinds go on to their link with the cursor they were given
  have goOn : n.Allows cursor (.goto n.next) cursor := .goOn (.inl rfl)
  obtain ⟨id, declared, next, payload⟩ := n
  cases payload with
  | teleport target x y direction transition =>
      cases h
      cases cursor.trigger <;> first | exact .stop | exact goOn
  | door d =>
      cases h
      dsimp only
      split
      · exact .await rfl
      · exact .goOn (.inl rfl)
  | chest c =>
      cases h
      dsimp only
      split
      · exact .reject
      -- whether the search comes off is all that matters here
      · generalize (if c.searchCheck then s.search ctx.settings else (true, s)) = search
        obtain ⟨found, s₁⟩ := search
        cases found
        · exact .reject
        · exact .await rfl
  | popupText text image byMoving byCursor =>
      injection h with h
      subst h
      cases cursor.trigger <;> cases byMoving <;> cases byCursor <;>
        first | exact .reject | exact .await rfl
  | spinner direction =>
      cases h
      cases cursor.trigger <;> first | exact goOn | exact .reject
  | trap t =>
      cases h
      cases cursor.trigger <;> first | exact .await rfl | exact .reject
  | removeBuffs buff => cases h; exact goOn
  | riddlemouth riddleText solutionText answers =>
      injection h with h
      subst h
      cases cursor.trigger <;> first | exact .await rfl | exact goOn
  | award a => cases h; exact goOn
  | changeTile r => cases h; exact goOn
  | startBattle monsterGroup => cases h; exact .await rfl
  | enterPlace p =>
      cases h
      dsimp only
      split
      · split
        · exact .stop
        · exact .reject
      · exact .reject
  | condition c =>
      cases h
      dsimp only
      split
      -- only a match turns the trigger into `always`
      case h_1 matched _ =>
          cases matched
          · exact .otherwise rfl
          · exact .goOn (.inr rfl)
      case h_2 hverdict => exact .await (decide_eq_true (c.asks_word hverdict).1)
      case h_3 hverdict => exact .await (decide_eq_true (c.asks_number hverdict).1)
      case h_4 => exact .reject
  | action a =>
      cases he : a.effect ctx.settings id with
      | error e => simp [perform, he] at h
      | ok effect =>
          simp only [perform, he] at h
          injection h with h
          subst h
          exact goOn
  | diceRoll chance alternate =>
      cases h
      dsimp only
      split
      · exact .goOn (.inl rfl)
      · exact .otherwise rfl
  | conversation kind =>
      injection h with h
      subst h
      dsimp only
      split
      · exact .await rfl
      · exact .reject
  | decision text no => cases h; exact .await rfl
  | changeMusic song volume => cases h; exact goOn
  | spawn target x y travelType => cases h; exact goOn
  | unknown bytes => cases h; exact goOn

/-- **A step that succeeds ran a consistent node and kept to what that node may tell a walk.** -/
theorem Node.step_allows {ctx : Context} {map : GameMap} {origin : Origin} {n : Node}
    {before after : Cursor} {d : Directive} {s s' : Scene}
    (h : n.step ctx map origin before s = (.ok (d, after), s')) :
    n.isConsistent = true ∧ n.Allows before d after := by
  unfold step check at h
  cases hc : n.isConsistent with
  | false => simp [hc] at h
  | true =>
      refine ⟨rfl, ?_⟩
      simp only [hc, if_true] at h
      cases hp : n.perform ctx map origin before with
      | error e => simp [hp] at h
      | ok f =>
          simp only [hp, Prod.mk.injEq, Except.ok.injEq] at h
          have hallows := perform_allows hp
            (s.remark n.id s!"{n.declared.inspect} ({before.trigger.name})")
          rw [h.1.1, h.1.2] at hallows
          exact hallows

/-! ## §3. Steps that fail. -/

/-- Why a node cannot be used. -/
inductive Node.Breaks (n : Node) : ChainError → Prop where
  /-- Its declared type does not go with its payload. -/
  | mismatch (h : n.isConsistent = false) :
      n.Breaks (.corruptData n.id (.mismatch n.declared n.payload.type?))
  /-- It is an action that sets a facing above 3. -/
  | direction (a : Action) (ha : n.payload = .action a) (hkind : a.kind = .setDirection)
      (hobject : 3 < a.object.toNat) : n.Breaks (.corruptData n.id (.noDirection a.object))
  /-- It is an action that changes an ailment above 10. -/
  | ailment (a : Action) (ha : n.payload = .action a) (hkind : a.kind = .addAilment)
      (hobject : 10 < a.object.toNat) : n.Breaks (.corruptData n.id (.noAilment a.object))

/-- The two actions that can fail. -/
theorem Action.effect_error {a : Action} {settings : Settings} {id : NodeId} {e : ChainError}
    (h : a.effect settings id = .error e) :
    (a.kind = .setDirection ∧ 3 < a.object.toNat ∧ e = .corruptData id (.noDirection a.object))
      ∨ (a.kind = .addAilment ∧ 10 < a.object.toNat ∧ e = .corruptData id (.noAilment a.object)) := by
  unfold effect at h
  -- the facings and the ailments are the two tables that an action looks into
  split at h
  case h_8 hkind =>
    split at h
    case h_1 hnone =>
      injection h with h
      have hlen : Direction.all.length ≤ a.object.toNat := List.getElem?_eq_none_iff.1 hnone
      exact .inl ⟨hkind, hlen, h.symm⟩
    case h_2 => cases h
  case h_9 hkind =>
    split at h
    case h_1 hnone =>
      injection h with h
      have hlen : Ailment.all.length ≤ a.object.toNat := List.getElem?_eq_none_iff.1 hnone
      exact .inr ⟨hkind, hlen, h.symm⟩
    case h_2 => cases h
  all_goals cases h

/-- Only actions fail once a node has been found consistent. -/
theorem Node.perform_error {ctx : Context} {map : GameMap} {origin : Origin} {n : Node}
    {cursor : Cursor} {e : ChainError} (h : n.perform ctx map origin cursor = .error e) :
    n.Breaks e := by
  obtain ⟨id, declared, next, payload⟩ := n
  cases payload with
  | action a =>
      cases he : a.effect ctx.settings id with
      | ok effect => simp [perform, he] at h
      | error e' =>
          simp only [perform, he] at h
          injection h with h
          subst h
          rcases Action.effect_error he with ⟨hkind, hobject, rfl⟩ | ⟨hkind, hobject, rfl⟩
          · exact .direction a rfl hkind hobject
          · exact .ailment a rfl hkind hobject
  | _ => cases h

/-- A node that is not consistent is refused for that. -/
theorem Node.check_error {n : Node} {e : ChainError} (h : n.check = .error e) : n.Breaks e := by
  unfold check at h
  split at h
  case isTrue => cases h
  case isFalse hc =>
    injection h with h
    subst h
    exact .mismatch (Bool.eq_false_iff.2 hc)

/-- **A step that fails ran a node that cannot be used.** -/
theorem Node.step_breaks {ctx : Context} {map : GameMap} {origin : Origin} {n : Node}
    {cursor : Cursor} {e : ChainError} {s s' : Scene}
    (h : n.step ctx map origin cursor s = (.error e, s')) : n.Breaks e := by
  unfold step at h
  cases hc : n.check with
  | error e' =>
      simp only [hc, Prod.mk.injEq, Except.error.injEq] at h
      rw [← h.1]
      exact check_error hc
  | ok u =>
      simp only [hc] at h
      cases hp : n.perform ctx map origin cursor with
      | error e' =>
          simp only [hp, Prod.mk.injEq, Except.error.injEq] at h
          rw [← h.1]
          exact perform_error hp
      | ok f => simp [hp] at h

end TileEvents
