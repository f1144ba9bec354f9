/-
  TileEvents.Proofs.Walk.Absorbing
  ────────────────────────────────
  **A MATCH HIDES HOW THE PLAYER CAME.**

  Three prompts are for a player who came in one way only: a word and a
  conversation need the mouth, a number needs the hand.  A walk keeps the
  trigger it was begun with until a condition matches, and from then on every
  node sees `always`.  So a walk that stops at one of these prompts was begun
  with its trigger and has met no match, and a walk that goes on after an
  answer, which begins with `always`, never stops at one of them again.

    • `Node.step_reserved`  — a node gives such a prompt to its trigger only;
    • `walkFrom_reserved`   — and so does a walk, whatever runs before;
    • `walkFrom_matched`    — after a match no walk stops at such a prompt;
    • `resume_unreserved`   — nor does one that goes on after an answer;
    • `trigger_rewrite_absorbs` — all of it for whole walks and answers.
-/
import TileEvents.Proofs.Walk.Answers
import TileEvents.Proofs.Walk.Deciding
import TileEvents.Proofs.Walk.Limit

namespace TileEvents

/-! ## §1. Prompts that are reserved for a trigger. -/

/-- **The trigger that a prompt is reserved for**, if it is. -/
def Prompt.trigger? : Prompt → Option Trigger
  | .sayWord | .conversation => some .mouth
  | .enterNumber => some .hand
  | _ => none

/-- No prompt is reserved for scripts and matches. -/
theorem Prompt.trigger?_ne_always {p : Prompt} {t : Trigger} (h : p.trigger? = some t) :
    t ≠ .always := by
  cases p <;> cases h <;> simp

/-- Such a prompt is the demand of a condition, or a conversation. -/
theorem Payload.asks_reserved {payload : Payload} {p : Prompt} {t : Trigger}
    (h : payload.asks p = true) (ht : p.trigger? = some t) :
    (∃ c, payload = .condition c ∧ c.demand? = some (p, t))
      ∨ (∃ kind, payload = .conversation kind) ∧ t = .mouth := by
  cases payload with
  | condition c =>
      refine .inl ⟨c, rfl, ?_⟩
      obtain ⟨kind, object, value, count, alternate⟩ := c
      cases p with
      | sayWord =>
          cases ht
          cases of_decide_eq_true h
          rfl
      | enterNumber =>
          cases ht
          cases of_decide_eq_true h
          rfl
      | _ => cases h
  | conversation kind =>
      cases p with
      | conversation =>
          cases ht
          exact .inr ⟨⟨kind, rfl⟩, rfl⟩
      | _ => cases h
  | _ => cases p <;> first | (cases ht; done) | cases h

section Nodes

variable {n : Node}

/-- A conversation begins if the player came to talk and the node is for talking. -/
theorem Node.step_talks (hc : n.isConsistent = true) {kind : ConversationKind}
    (hp : n.payload = .conversation kind) (ctx : Context) (m : GameMap) (origin : Origin)
    (c : Cursor) (s : Scene) :
    (n.step ctx m origin c s).1
      = .ok (if c.trigger = .mouth ∧ kind = .talk then .await .conversation else .reject, c) := by
  unfold step check perform
  simp only [hc, if_true, hp]
  split <;> rfl

/-- **A node gives a reserved prompt only to the trigger that it is reserved for.** -/
theorem Node.step_reserved {ctx : Context} {m : GameMap} {origin : Origin} {c c' : Cursor}
    {s s' : Scene} {p : Prompt} {t : Trigger}
    (h : n.step ctx m origin c s = (.ok (.await p, c'), s')) (ht : p.trigger? = some t) :
    c.trigger = t := by
  obtain ⟨hc, hallows⟩ := Node.step_allows h
  rcases Payload.asks_reserved (hallows.asks p rfl) ht with ⟨k, hk, hdemand⟩ | ⟨⟨kind, hkind⟩, rfl⟩
  · have hstep := Node.step_asks hc hk hdemand ctx (m := m) origin c s
    rw [h] at hstep
    by_cases hcame : c.trigger = t
    · exact hcame
    · simp [hcame] at hstep
  · have hstep := Node.step_talks hc hkind ctx m origin c s
    rw [h] at hstep
    by_cases hcame : c.trigger = .mouth
    · exact hcame
    · simp [hcame] at hstep

end Nodes

/-! ## §2. The trigger along a walk. -/

section Walks

variable {ctx : Context} {m : GameMap} {origin : Origin} {start : NodeId} {limit : Nat}

/-- A walk keeps its trigger until it is rewritten, so a prompt that is reserved for a trigger can
only be given to the one the walk was begun with. -/
theorem reserved_invariant (trigger : Trigger) :
    WalkInvariant ctx m origin start limit
      (fun _ c _ => c.trigger = trigger ∨ c.trigger = .always)
      (fun result _ => ∀ w t, result = .ok (.suspended w) → w.prompt.trigger? = some t →
        trigger = t) where
  runsOut _ := by simp
  missing _ _ := by simp
  fails _ _ _ := by simp
  rejects _ _ _ := by simp
  ends _ _ _ := by simp
  awaits hkept _ hstep := by
    rintro w t ⟨⟩ ht
    have hcame := Node.step_reserved hstep ht
    rcases hkept with hkept | halways
    · rw [← hkept, hcame]
    -- after a rewriting no trigger is left that a prompt could be reserved for
    · exact absurd (hcame.symm.trans halways) (Prompt.trigger?_ne_always ht)
  goesOn hkept _ hstep := by
    rcases (Node.step_allows hstep).2.trigger with hsame | halways
    · rw [hsame]
      exact hkept
    · exact .inr halways

/-- **A walk stops at a reserved prompt only if it was begun with the trigger.** -/
theorem walkFrom_reserved {left : Nat} {id : NodeId} {c : Cursor} {s : Scene} {w : Suspension}
    {t : Trigger} (h : (walkFrom ctx m origin start limit left id c s).1 = .ok (.suspended w))
    (ht : w.prompt.trigger? = some t) : c.trigger = t :=
  (reserved_invariant c.trigger).walkFrom left id c s (.inl rfl) w t h ht

/-- So a walk that was begun with `always` never stops at one. -/
theorem walkFrom_always {left : Nat} {id : NodeId} {status : Bool} {s : Scene} {w : Suspension}
    (h : (walkFrom ctx m origin start limit left id ⟨.always, status⟩ s).1 = .ok (.suspended w)) :
    w.prompt.trigger? = none := by
  cases ht : w.prompt.trigger? with
  | none => rfl
  | some t => exact absurd (walkFrom_reserved h ht).symm (Prompt.trigger?_ne_always ht)

/-- A walk that stops for the player stops alike from every place it comes through. -/
theorem HandsOver.suspends {ids : List NodeId} {p q : Standing}
    (h : HandsOver ctx m origin ids p q) (start : NodeId) (limit : Nat) {w : Suspension} :
    ∀ {left : Nat},
      (walkFrom ctx m origin start limit left p.node p.cursor p.scene).1 = .ok (.suspended w) →
      ∃ left', (walkFrom ctx m origin start limit left' q.node q.cursor q.scene).1
        = .ok (.suspended w) := by
  induction h with
  | none p => exact fun {left} hw => ⟨left, hw⟩
  | @node id j c c' s s' ids q n hn hstep rest ih =>
      intro left hw
      cases left with
      | zero => cases hw
      | succ left =>
          rw [walkFrom] at hw
          simp only [hn, hstep] at hw
          exact ih hw

/-! ## §3. Matches. -/

/-- **A walk that stands here takes the match branch of a condition.** -/
def Standing.Matches (m : GameMap) (p : Standing) : Prop :=
  ∃ n c, m.node p.node = .ok n ∧ n.payload = .condition c
    ∧ c.verdict p.scene.save p.cursor.trigger p.cursor.status = .decided true

/-- After a match the walk goes on along the link, and the next node sees `always`. -/
theorem Standing.Matches.step {p : Standing} (hp : p.Matches m) (ctx : Context) (origin : Origin) :
    ∃ n, m.node p.node = .ok n ∧ ∀ d c s,
      n.step ctx m origin p.cursor p.scene = (.ok (d, c), s) →
        d = .goto n.next ∧ c = ⟨.always, true⟩ := by
  obtain ⟨n, k, hn, hk, hv⟩ := hp
  refine ⟨n, hn, ?_⟩
  intro d c s hstep
  have hfollow := Node.step_decided (Node.step_allows hstep).1 hk ctx (m := m) origin p.cursor
    p.scene hv
  rw [hstep] at hfollow
  simp only [unloggedResult, Condition.follow, if_true, Prod.mk.injEq, Except.ok.injEq] at hfollow
  exact hfollow.1

/-- **After a match no walk stops at a reserved prompt.** -/
theorem walkFrom_matched {p : Standing} (hp : p.Matches m) {left : Nat} {w : Suspension}
    (h : (walkFrom ctx m origin start limit left p.node p.cursor p.scene).1 = .ok (.suspended w)) :
    w.prompt.trigger? = none := by
  obtain ⟨n, hn, hmatch⟩ := hp.step ctx origin
  cases left with
  | zero => cases h
  | succ left =>
      rw [walkFrom] at h
      simp only [hn] at h
      cases hstep : n.step ctx m origin p.cursor p.scene with
      | mk result s' =>
          rw [hstep] at h
          cases result with
          | error e => cases h
          | ok r =>
              obtain ⟨d, c⟩ := r
              obtain ⟨rfl, rfl⟩ := hmatch d c s' hstep
              cases hnext : n.next with
              | none =>
                  rw [hnext] at h
                  cases h
              | some j =>
                  simp only [hnext] at h
                  exact walkFrom_always h

end Walks

/-! ## §4. Answers. -/

section Answers

variable {ctx : Context} {m : GameMap}

/-- A lock leads on, open or closed. -/
theorem lockBranch_ne_again (isOpen : Bool) (next failed : Option NodeId) :
    lockBranch isOpen next failed ≠ .again := by
  unfold lockBranch
  split <;> simp

/-- A condition that has been answered is decided. -/
theorem Condition.branch_ne_again (c : Condition) (matched : Bool) (next : Option NodeId) :
    c.branch matched next ≠ .again := by
  unfold branch
  split
  · simp
  · split <;> simp

/-- Only a riddle asks again. -/
theorem Node.riddle_of_again {n : Node} {dictionary : Dictionary} {save : Savegame} {status : Bool}
    {a : Answer} (h : n.answer dictionary save status a = .ok .again) {p : Prompt}
    (hp : n.payload.asks p = true) :
    ∃ riddleText solutionText, p = .riddle riddleText solutionText := by
  obtain ⟨id, declared, next, payload⟩ := n
  cases payload with
  | riddlemouth riddleText solutionText answers =>
      cases p with
      | riddle riddleText solutionText => exact ⟨riddleText, solutionText, rfl⟩
      | _ => cases hp
  | door | chest =>
      cases a with
      | unlocked | closed =>
          injection h with h
          exact absurd h (lockBranch_ne_again _ _ _)
      | _ => cases h
  | condition c =>
      obtain ⟨kind, object, value, count, alternate⟩ := c
      cases kind <;> cases a <;> first
        | (injection h; done)
        | (injection h with h
           exact absurd h (Condition.branch_ne_again _ _ _))
  | _ => cases a <;> cases h

/-- **An answer to a suspension that was issued is never followed by a reserved prompt.** -/
theorem resume_unreserved {w w' : Suspension} (hw : m.Issued w) {a : Answer} {s : Scene}
    (h : (resume ctx m w a s).1 = .ok (.suspended w')) : w'.prompt.trigger? = none := by
  have hend := resume_ends ctx m w a s
  generalize resume ctx m w a s = r at h hend
  cases hend with
  | again n s' hn hb hs =>
      -- the suspension is handed back, and it was a riddle
      injection h with h
      injection h with h
      subst h
      obtain ⟨n', hn', -, hasks⟩ := GameMap.issued_awaits hw
      rw [hn] at hn'
      injection hn' with hn'
      subst hn'
      obtain ⟨riddleText, solutionText, hriddle⟩ := Node.riddle_of_again hb hasks
      rw [hriddle]
      rfl
  | walked n next status s' hn hb => exact walkFrom_always h
  | _ => cases h

end Answers

/-! ## §5. Whole walks. -/

/-- **The rewriting of the trigger absorbs.**  A walk stops for a word or a conversation only if it
was begun with the mouth, and for a number only if it was begun with the hand, and no condition it
came through has matched.  A suspension that was issued is, whatever the answer, never followed by
one that waits for a word, a number or a conversation. -/
theorem trigger_rewrite_absorbs (m : GameMap) :
    (∀ ctx origin start trigger status s w t,
        (walk ctx m origin start trigger status s).1 = .ok (.suspended w) →
        w.prompt.trigger? = some t →
        trigger = t ∧ ∀ ids p,
          HandsOver ctx m origin ids (m.standingAt start trigger status s) p → ¬ p.Matches m)
      ∧ ∀ ctx w a s w', m.Issued w → (resume ctx m w a s).1 = .ok (.suspended w') →
          w'.prompt.trigger? = none := by
  refine ⟨?_, ?_⟩
  · intro ctx origin start trigger status s w t h ht
    refine ⟨walkFrom_reserved h ht, ?_⟩
    intro ids p hids hmatch
    obtain ⟨left, hw⟩ := hids.suspends start ctx.settings.maxChainSteps h
    have hnone := walkFrom_matched hmatch hw
    rw [ht] at hnone
    cases hnone
  · intro ctx w a s w' hw h
    exact resume_unreserved hw h

/-- The player comes to talk; a condition that does not match lets the walk on to one that asks for a
word.  The right word leads to a text, and the walk that shows it is not waiting for a word. -/
theorem trigger_rewrite_absorbs_echo :
    let failing : Condition := ⟨.lastEventResult, 0, 1, 0, some ⟨1⟩⟩
    let echo : Condition := ⟨.sayWord, 0, 1, 0, none⟩
    let m := GameMap.ofNodes
      [⟨⟨0⟩, .condition, none, .condition failing⟩, ⟨⟨1⟩, .condition, some ⟨2⟩, .condition echo⟩,
        ⟨⟨2⟩, .popupText, none, .popupText 4 none true true⟩] [⟨0⟩]
    let ctx := Context.plain ["echo"]
    let origin : Origin := ⟨1, 0, 0, some 1⟩
    let w : Suspension := ⟨.sayWord, origin, ⟨1⟩, false⟩
    let w' : Suspension := ⟨.popup 4 none, origin, ⟨2⟩, true⟩
    (walk ctx m origin ⟨0⟩ .mouth false .blank).1 = .ok (.suspended w)
      ∧ (∃ s, HandsOver ctx m origin [⟨0⟩] (m.standingAt ⟨0⟩ .mouth false .blank)
          ⟨⟨1⟩, ⟨.mouth, false⟩, s⟩)
      ∧ ¬ (m.standingAt ⟨0⟩ .mouth false .blank).Matches m
      ∧ m.Issued w
      ∧ (resume ctx m w (.word "echo") .blank).1 = .ok (.suspended w')
      ∧ w'.prompt.trigger? = none := by
  intro failing echo m ctx origin w w'
  have hwalk : walk ctx m origin ⟨0⟩ .mouth false .blank = (.ok (.suspended w), _) := rfl
  have hissued : m.Issued w := .walk hwalk
  have hright : echo.answered? ctx.dictionary (.word "echo") = some true := by decide
  have hresume : (resume ctx m w (.word "echo") .blank).1 = .ok (.suspended w') :=
    congrArg Prod.fst (resume_answered (m := m) (w := w) rfl rfl rfl hright .blank)
  obtain ⟨hwalks, hanswers⟩ := trigger_rewrite_absorbs m
  obtain ⟨-, hunmatched⟩ :=
    hwalks ctx origin ⟨0⟩ .mouth false .blank w .mouth (congrArg Prod.fst hwalk) rfl
  refine ⟨congrArg Prod.fst hwalk, ⟨_, .node rfl rfl (.none _)⟩, ?_, hissued, hresume, ?_⟩
  · exact hunmatched [] _ (.none _)
  · exact hanswers ctx w (.word "echo") .blank w' hissued hresume

end TileEvents
