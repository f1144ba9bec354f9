/-
  TileEvents.Proofs.Walk.Answers
  ──────────────────────────────
  **WHAT IS ASKED IS WHAT IS TAKEN.**

  A step chooses the prompt; an answer is judged much later, by the payload of
  the node and the savegame of the moment, and the prompt is not looked at
  again.  The two sides agree all the same: `Prompt.accepts` is the table of
  the answers that fit a prompt, and a suspension that a walk has issued takes
  exactly these, whatever became of the savegame, the dice and the host since.

    • `answer_of_asks`  — the agreement for one node, kind by kind;
    • `resume_ends`     — all ends of a walk that is picked up again;
    • `issued_awaits`   — a suspension that was issued names a node that gives
                          its prompt;
    • `unexpected_iff_not_accepted` — the agreement for issued suspensions.
-/
import TileEvents.Proofs.Sample
import TileEvents.Proofs.Session.Ending
import TileEvents.Proofs.Walk.Unlogged

namespace TileEvents

/-! ## §1. The answers that fit a prompt. -/

/-- **Whether an answer fits a prompt.** -/
def Prompt.accepts : Prompt → Answer → Bool
  | .popup .., .closed | .conversation, .closed | .trap _, .closed => true
  | .decision _, .yes | .decision _, .no => true
  | .riddle .., .word _ | .riddle .., .closed => true
  | .sayWord, .word _ | .sayWord, .closed => true
  | .enterNumber, .number _ | .enterNumber, .closed => true
  | .door .., .unlocked | .door .., .closed => true
  | .chest .., .unlocked | .chest .., .closed => true
  | .battle .., .won | .battle .., .fled => true
  | _, _ => false

namespace Node

/-- A node takes the answers that fit the prompts it gives, and no others. -/
theorem answer_of_asks {n : Node} {p : Prompt} (h : n.payload.asks p = true)
    (dictionary : Dictionary) (save : Savegame) (status : Bool) (a : Answer) :
    (p.accepts a = true ∧ ∃ b, n.answer dictionary save status a = .ok b)
      ∨ (p.accepts a = false ∧ n.answer dictionary save status a = .error .unexpected) := by
  obtain ⟨id, declared, next, payload⟩ := n
  cases payload with
  | condition c =>
      -- of the conditions only these two ask for anything
      obtain ⟨kind, object, value, count, alternate⟩ := c
      cases p with
      | sayWord =>
          have hkind : kind = .sayWord := of_decide_eq_true h
          subst hkind
          cases a <;> first | exact .inl ⟨rfl, _, rfl⟩ | exact .inr ⟨rfl, rfl⟩
      | enterNumber =>
          have hkind : kind = .enterNumber := of_decide_eq_true h
          subst hkind
          cases a <;> first | exact .inl ⟨rfl, _, rfl⟩ | exact .inr ⟨rfl, rfl⟩
      | _ => cases h
  | popupText | conversation | trap | decision | riddlemouth | door | chest | startBattle =>
      cases p <;> first
        | exact absurd h Bool.false_ne_true
        | (cases a <;> first | exact .inl ⟨rfl, _, rfl⟩ | exact .inr ⟨rfl, rfl⟩)
  | _ => cases p <;> cases h

/-- A lock leads to one of its two links. -/
theorem lockBranch_follows {isOpen after : Bool} {next failed : Option NodeId} {j : NodeId}
    (h : lockBranch isOpen next failed = .proceed (some j) after) :
    next = some j ∨ failed = some j := by
  unfold lockBranch at h
  split at h
  · injection h with hnext
    exact .inl hnext
  · injection h with hfailed
    exact .inr hfailed

/-- A condition leads to one of its two links. -/
theorem branch_follows {c : Condition} {matched after : Bool} {next : Option NodeId} {j : NodeId}
    (h : c.branch matched next = .proceed (some j) after) :
    next = some j ∨ c.alternate = some j := by
  unfold Condition.branch at h
  split at h
  · injection h with hnext
    exact .inl hnext
  · cases ha : c.alternate with
    | none => simp [ha] at h
    | some alternate =>
        simp only [ha] at h
        injection h with halternate
        exact .inr halternate

/-- Two branches that go on go on at the same place. -/
theorem proceed_inj {next next' : Option NodeId} {status status' : Bool}
    (h : (.ok (.proceed next status) : Except Refusal Branch) = .ok (.proceed next' status')) :
    next = next' := by
  injection h with h
  injection h

/-- An answer sends the walk along a link of its node. -/
theorem answer_follows {n : Node} {dictionary : Dictionary} {save : Savegame} {status after : Bool}
    {a : Answer} {next : NodeId}
    (h : n.answer dictionary save status a = .ok (.proceed (some next) after)) :
    next ∈ n.links := by
  obtain ⟨id, declared, link, payload⟩ := n
  -- whatever the kind of node, these are the two links there are
  have onNext : link = some next → next ∈ Node.links ⟨id, declared, link, payload⟩ := by
    intro hlink
    exact List.mem_append_left _ (by simp [hlink])
  have onBranch : payload.branch? = some next → next ∈ Node.links ⟨id, declared, link, payload⟩ := by
    intro hbranch
    exact List.mem_append_right _ (by simp [hbranch])
  cases payload with
  | popupText | conversation | trap =>
      cases a with
      | closed => exact onNext (proceed_inj h)
      | _ => cases h
  | startBattle monsterGroup =>
      cases a with
      | won => exact onNext (proceed_inj h)
      | _ => cases h
  | decision text no =>
      cases a with
      | yes => exact onNext (proceed_inj h)
      | no => exact onBranch (proceed_inj h)
      | _ => cases h
  | riddlemouth riddleText solutionText answers =>
      cases a with
      | word text =>
          unfold answer at h
          dsimp only at h
          split at h
          · exact onNext (proceed_inj h)
          · cases h
      | _ => cases h
  | door d =>
      cases a with
      | unlocked | closed =>
          injection h with h
          exact (lockBranch_follows h).elim onNext onBranch
      | _ => cases h
  | chest c =>
      cases a with
      | unlocked | closed =>
          injection h with h
          exact (lockBranch_follows h).elim onNext onBranch
      | _ => cases h
  | condition c =>
      obtain ⟨kind, object, value, count, alternate⟩ := c
      cases kind <;> cases a <;> first
        | (injection h; done)
        | (injection h with h
           exact (branch_follows h).elim onNext onBranch)
  | _ => cases a <;> cases h

/-- Only a riddle asks again, and it leaves the savegame as it was. -/
theorem afterAnswer_of_again {n : Node} {dictionary : Dictionary} {save : Savegame} {status : Bool}
    {a : Answer} (h : n.answer dictionary save status a = .ok .again) :
    n.afterAnswer save a = save := by
  obtain ⟨id, declared, link, payload⟩ := n
  cases payload with
  | door d => cases a <;> first | rfl | cases h
  | chest c => cases a <;> first | rfl | cases h
  | _ => rfl

end Node

/-! ## §2. The ends of a walk that is picked up. -/

/-- **What answering a suspension can end with**, the scene included as far as it is the one
before. -/
inductive ResumeEnd (ctx : Context) (m : GameMap) (w : Suspension) (a : Answer) (s : Scene) :
    Except ChainError Outcome × Scene → Prop where
  | missing (hw : m.nodes.size ≤ w.node.index.toNat) :
      ResumeEnd ctx m w a s (.error (.corruptData w.node (.outsideTable m.nodes.size)), s)
  | breaks (n : Node) (e : ChainError) (hn : m.node w.node = .ok n) (he : n.Breaks e) :
      ResumeEnd ctx m w a s (.error e, s)
  | refused (n : Node) (r : Refusal) (s' : Scene) (hn : m.node w.node = .ok n)
      (hr : n.answer ctx.dictionary s.save w.status a = .error r) (hs : s'.unlogged = s.unlogged) :
      ResumeEnd ctx m w a s (.error (r.error w.node a), s')
  | again (n : Node) (s' : Scene) (hn : m.node w.node = .ok n)
      (hb : n.answer ctx.dictionary s.save w.status a = .ok .again)
      (hs : s'.unlogged = s.unlogged) : ResumeEnd ctx m w a s (.ok (.suspended w), s')
  | aborted (n : Node) (s' : Scene) (hn : m.node w.node = .ok n)
      (hb : n.answer ctx.dictionary s.save w.status a = .ok .abort) :
      ResumeEnd ctx m w a s (.ok .aborted, s')
  | completed (n : Node) (status : Bool) (s' : Scene) (hn : m.node w.node = .ok n)
      (hb : n.answer ctx.dictionary s.save w.status a = .ok (.proceed none status)) :
      ResumeEnd ctx m w a s (.ok (.completed status), s')
  | walked (n : Node) (next : NodeId) (status : Bool) (s' : Scene) (hn : m.node w.node = .ok n)
      (hb : n.answer ctx.dictionary s.save w.status a = .ok (.proceed (some next) status)) :
      ResumeEnd ctx m w a s (walk ctx m w.origin next .always status s')

/-- **Every answer to a suspension ends in one of these ways.** -/
theorem resume_ends (ctx : Context) (m : GameMap) (w : Suspension) (a : Answer) (s : Scene) :
    ResumeEnd ctx m w a s (resume ctx m w a s) := by
  unfold resume
  cases hn : m.node w.node with
  | error e =>
      obtain ⟨hsize, rfl⟩ := GameMap.node_eq_error hn
      exact .missing hsize
  | ok n =>
      simp only
      cases hc : n.check with
      | error e => exact .breaks n e hn (Node.check_error hc)
      | ok u =>
          -- the note about the answer is no part of the savegame it is judged by
          have hsave : (s.note .info s!"resuming node {w.node.text} with {a.inspect}").save
              = s.save := rfl
          simp only [hsave]
          cases hb : n.answer ctx.dictionary s.save w.status a with
          | error r => exact .refused n r _ hn hb rfl
          | ok branch =>
              match branch, hb with
              | .proceed (some next) status, hb => exact .walked n next status _ hn hb
              | .proceed none status, hb => exact .completed n status _ hn hb
              | .abort, hb => exact .aborted n _ hn hb
              | .again, hb =>
                  refine .again n _ hn hb ?_
                  rw [Node.afterAnswer_of_again hb]
                  rfl

/-- A node that cannot be used is no refusal of an answer. -/
theorem Node.Breaks.not_refusal {n : Node} {e : ChainError} (h : n.Breaks e) (r : Refusal)
    (id : NodeId) (a : Answer) : e ≠ r.error id a := by
  cases h <;> cases r <;> simp [Refusal.error]

/-- A walk complains neither about an answer nor about a node that asks nothing. -/
theorem WalkEnd.not_refusal {m : GameMap} {origin : Origin} {start : NodeId} {e : ChainError}
    (h : WalkEnd m origin start (.error e)) (r : Refusal) (id : NodeId) (a : Answer) :
    e ≠ r.error id a := by
  cases h with
  | breaks i n _ _ _ he => exact he.not_refusal r id a
  | _ => cases r <;> simp [Refusal.error]

section AtNode

variable {ctx : Context} {m : GameMap} {w : Suspension} {a : Answer} {s : Scene} {n : Node}

/-- An answer the node takes is not refused later on. -/
theorem resume_not_refused (hn : m.node w.node = .ok n) {b : Branch}
    (hb : n.answer ctx.dictionary s.save w.status a = .ok b) (r : Refusal) (id : NodeId)
    (a' : Answer) : (resume ctx m w a s).1 ≠ .error (r.error id a') := by
  intro h
  have hend := resume_ends ctx m w a s
  generalize resume ctx m w a s = result at h hend
  cases hend with
  | missing hw =>
      injection h with h
      cases r <;> cases h
  | breaks n' e hn' he =>
      injection h with h
      exact he.not_refusal r id a' h
  | refused n' r' s' hn' hr hs =>
      -- the node is the same one, and it took the answer
      rw [hn] at hn'
      injection hn' with hn'
      rw [← hn', hb] at hr
      cases hr
  | walked n' next status s' hn' hb' =>
      -- the walk that follows may fail, but never because of an answer
      have hwalk := walk_ends ctx m w.origin next .always status s'
      rw [h] at hwalk
      exact hwalk.not_refusal r id a' rfl
  | _ => cases h

/-- An answer that is refused changes nothing. -/
theorem resume_refused (hn : m.node w.node = .ok n) (hc : n.isConsistent = true) {r : Refusal}
    (hr : n.answer ctx.dictionary s.save w.status a = .error r) :
    unloggedResult (resume ctx m w a s) = (.error (r.error w.node a), s.unlogged) := by
  have hsave : (s.note .info s!"resuming node {w.node.text} with {a.inspect}").save = s.save := rfl
  simp [resume, hn, Node.check, hc, hsave, hr, unloggedResult]

/-- A prompt that is given again changes nothing either. -/
theorem resume_again (hn : m.node w.node = .ok n) (hc : n.isConsistent = true)
    (hb : n.answer ctx.dictionary s.save w.status a = .ok .again) :
    unloggedResult (resume ctx m w a s) = (.ok (.suspended w), s.unlogged) := by
  have hsave : (s.note .info s!"resuming node {w.node.text} with {a.inspect}").save = s.save := rfl
  simp [resume, hn, Node.check, hc, hsave, hb, unloggedResult, Node.afterAnswer_of_again hb]
  rfl

end AtNode

/-! ## §3. Suspensions that were issued. -/

/-- **The suspensions that were returned by interactions, walks and answers on a map.**  A wrong
word makes a riddle hand its suspension back, so one that comes back unchanged has to have been
issued before. -/
inductive GameMap.Issued (m : GameMap) : Suspension → Prop where
  | tile {session session' : Session} {ctx : Context} {x y : UInt8} {trigger : Trigger}
      {s s' : Scene} {w : Suspension}
      (h : session.onTile ctx m x y trigger s = (.ok (.suspended w), session', s')) : m.Issued w
  | character {session session' : Session} {ctx : Context} {event : UInt16} {x y : UInt8}
      {trigger : Trigger} {s s' : Scene} {w : Suspension}
      (h : session.onCharacter ctx m event x y trigger s = (.ok (.suspended w), session', s')) :
      m.Issued w
  | walk {ctx : Context} {origin : Origin} {start : NodeId} {trigger : Trigger} {status : Bool}
      {s s' : Scene} {w : Suspension}
      (h : walk ctx m origin start trigger status s = (.ok (.suspended w), s')) : m.Issued w
  | resume {ctx : Context} {w w' : Suspension} {a : Answer} {s s' : Scene}
      (h : resume ctx m w a s = (.ok (.suspended w'), s')) (again : w' = w → m.Issued w) :
      m.Issued w'

/-- A walk suspends only where its prompt belongs. -/
theorem walk_awaits {ctx : Context} {m : GameMap} {origin : Origin} {start : NodeId}
    {trigger : Trigger} {status : Bool} {s : Scene} {w : Suspension}
    (h : (walk ctx m origin start trigger status s).1 = .ok (.suspended w)) : m.Awaits w := by
  have hend := walk_ends ctx m origin start trigger status s
  rw [h] at hend
  cases hend with
  | suspended _ _ hw _ => exact hw

/-- An answer suspends again only as it was or where its prompt belongs. -/
theorem resume_awaits {ctx : Context} {m : GameMap} {w w' : Suspension} {a : Answer} {s : Scene}
    (h : (resume ctx m w a s).1 = .ok (.suspended w')) : w' = w ∨ m.Awaits w' := by
  have hend := resume_ends ctx m w a s
  generalize resume ctx m w a s = r at h hend
  cases hend with
  | again n s' hn hb hs =>
      injection h with h
      injection h with h
      exact .inl h.symm
  | walked n next status s' hn hb => exact .inr (walk_awaits h)
  | _ => cases h

/-- An interaction with a tile suspends only where its prompt belongs. -/
theorem Session.onTile_awaits {session : Session} {ctx : Context} {m : GameMap} {x y : UInt8}
    {trigger : Trigger} {s : Scene} {w : Suspension}
    (h : (session.onTile ctx m x y trigger s).1 = .ok (.suspended w)) : m.Awaits w := by
  have hend := session.onTile_ends ctx m x y trigger s
  generalize (session.onTile ctx m x y trigger s).1 = result at h hend
  generalize (session.onTile ctx m x y trigger s).2.1 = session' at hend
  cases hend with
  | fired event head s' hevent hhead hpassed => exact walk_awaits h
  | _ => cases h

/-- An interaction with a character suspends only where its prompt belongs. -/
theorem Session.onCharacter_awaits {session : Session} {ctx : Context} {m : GameMap}
    {event : UInt16} {x y : UInt8} {trigger : Trigger} {s : Scene} {w : Suspension}
    (h : (session.onCharacter ctx m event x y trigger s).1 = .ok (.suspended w)) :
    m.Awaits w := by
  have hend := session.onCharacter_ends ctx m event x y trigger s
  generalize (session.onCharacter ctx m event x y trigger s).1 = result at h hend
  generalize (session.onCharacter ctx m event x y trigger s).2.1 = session' at hend
  cases hend with
  | started head s' hhead hfree => exact walk_awaits h
  | _ => cases h

/-- **A suspension that was issued names a node that gives its prompt.** -/
theorem GameMap.issued_awaits {m : GameMap} {w : Suspension} (h : m.Issued w) : m.Awaits w := by
  induction h with
  | tile h => exact Session.onTile_awaits (congrArg Prod.fst h)
  | character h => exact Session.onCharacter_awaits (congrArg Prod.fst h)
  | walk h => exact walk_awaits (congrArg Prod.fst h)
  | resume h _ ih =>
      -- handed back it had been issued before, and otherwise it is new
      rcases resume_awaits (congrArg Prod.fst h) with hsame | hawaits
      · rw [hsame]
        exact ih hsame
      · exact hawaits

/-! ## §4. The agreement. -/

/-- **What a suspension asks for is what is taken as an answer**, whatever happened since it was
issued: an answer that does not fit is refused as unexpected and changes nothing, one that fits is
not refused, no suspension names a node that asks nothing, and a wrong word to a riddle gives the
same suspension back and changes nothing. -/
theorem unexpected_iff_not_accepted {m : GameMap} {w : Suspension} (h : m.Issued w) (ctx : Context)
    (a : Answer) (s : Scene) :
    ((∃ id b, (resume ctx m w a s).1 = .error (.unexpectedResponse id b))
        ↔ w.prompt.accepts a = false)
      ∧ (∀ id, (resume ctx m w a s).1 ≠ .error (.notSuspendable id))
      ∧ (w.prompt.accepts a = false →
          unloggedResult (resume ctx m w a s)
            = (.error (.unexpectedResponse w.node a), s.unlogged))
      ∧ ∀ n riddleText solutionText answers text, m.node w.node = .ok n →
          n.payload = .riddlemouth riddleText solutionText answers → a = .word text →
          answers.any (ctx.dictionary.isSaid · text) = false →
          unloggedResult (resume ctx m w a s) = (.ok (.suspended w), s.unlogged) := by
  obtain ⟨n, hn, hc, hasks⟩ := GameMap.issued_awaits h
  have hriddle : ∀ n' riddleText solutionText answers text, m.node w.node = .ok n' →
      n'.payload = .riddlemouth riddleText solutionText answers → a = .word text →
      answers.any (ctx.dictionary.isSaid · text) = false →
      unloggedResult (resume ctx m w a s) = (.ok (.suspended w), s.unlogged) := by
    intro n' riddleText solutionText answers text hn' hp ha hwrong
    rw [hn] at hn'
    injection hn' with hn'
    subst hn' ha
    refine resume_again hn hc ?_
    unfold Node.answer
    simp only [hp, hwrong]
    rfl
  rcases Node.answer_of_asks hasks ctx.dictionary s.save w.status a with
    ⟨hfits, b, hb⟩ | ⟨hunfit, hr⟩
  · refine ⟨⟨?_, ?_⟩, ?_, ?_, hriddle⟩
    · rintro ⟨id, a', hrefused⟩
      exact absurd hrefused (resume_not_refused hn hb .unexpected id a')
    · intro hunfit
      rw [hfits] at hunfit
      cases hunfit
    · intro id
      exact resume_not_refused hn hb .notSuspendable id a
    · intro hunfit
      rw [hfits] at hunfit
      cases hunfit
  · have hrefused := resume_refused hn hc hr
    have hresult : (resume ctx m w a s).1 = .error (.unexpectedResponse w.node a) :=
      congrArg Prod.fst hrefused
    refine ⟨⟨fun _ => hunfit, fun _ => ⟨_, _, hresult⟩⟩, ?_, fun _ => hrefused, hriddle⟩
    intro id
    rw [hresult]
    simp

/-- A riddle that a walk stopped at refuses a plain yes and asks again after a wrong word. -/
theorem unexpected_iff_not_accepted_riddle :
    let m := GameMap.ofNodes [⟨⟨0⟩, .riddlemouth, none, .riddlemouth 4 5 [0]⟩] [⟨0⟩]
    let w : Suspension := ⟨.riddle 4 5, ⟨1, 0, 0, some 1⟩, ⟨0⟩, false⟩
    let ctx := Context.plain ["echo"]
    m.Issued w
      ∧ unloggedResult (resume ctx m w .yes .blank)
          = (.error (.unexpectedResponse ⟨0⟩ .yes), Scene.blank.unlogged)
      ∧ unloggedResult (resume ctx m w (.word "stone") .blank)
          = (.ok (.suspended w), Scene.blank.unlogged) := by
  intro m w ctx
  have hissued : m.Issued w :=
    .walk (show walk ctx m ⟨1, 0, 0, some 1⟩ ⟨0⟩ .eye false .blank = (.ok (.suspended w), _) from rfl)
  refine ⟨hissued, ?_, ?_⟩
  · exact (unexpected_iff_not_accepted hissued ctx .yes .blank).2.2.1 rfl
  · exact (unexpected_iff_not_accepted hissued ctx (.word "stone") .blank).2.2.2 _ 4 5 [0] "stone"
      rfl rfl rfl (by decide)

end TileEvents
