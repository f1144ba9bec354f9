/-
  TileEvents.Proofs.Walk.Deciding
  ───────────────────────────────
  **TWO PLACES DECIDE CONDITIONS.**

  Eighteen kinds of condition are decided by the walk that reaches them, two by
  the answer of the player.  Both places lead on in the same way, `leads`; they
  differ in what counts as a match.  The walk compares the predicate with the
  expected value.  The answer is taken for the match itself, so that a
  condition which expects zero goes the other way.  A predicate about means or
  items is about what the party has as far as a word can count it; beyond that
  a build that checks its additions breaks down.

    • `walkFrom_decided`  — a condition that is decided at once;
    • `walkFromIn_checking` — one that has too much to add up;
    • `walkFrom_asks`     — one that stops to ask, or sends the player away;
    • `resume_answered`   — the answer that decides it;
    • `Node.answer_compares_iff` — where the answer is compared after all;
    • `condition_leads_by_predicate_or_answer` — the four for one node.
-/
import TileEvents.Proofs.Party.Sums
import TileEvents.Proofs.Sample
import TileEvents.Proofs.Walk.Overflow
import TileEvents.Proofs.Walk.Unlogged

namespace TileEvents

/-! ## §1. Asking, answering and leading on. -/

namespace Condition

/-- What a condition has to be told, and how the player must have come for it to ask. -/
def demand? (c : Condition) : Option (Prompt × Trigger) :=
  match c.kind with
  | .sayWord => some (.sayWord, .mouth)
  | .enterNumber => some (.enterNumber, .hand)
  | _ => none

/-- **The predicate of a condition that asks**: whether this answer is the right one.  Nothing is
said about an answer that does not fit, or of a condition that asks nothing. -/
def answered? (c : Condition) (dictionary : Dictionary) (a : Answer) : Option Bool :=
  match c.kind, a with
  | .sayWord, .word text => some (dictionary.isSaid c.object text)
  | .enterNumber, .number number => some (number == c.object.toUInt32)
  | .sayWord, .closed | .enterNumber, .closed => some false
  | _, _ => none

/-- **Where a decided condition leads**: on a match along its link with the status true, otherwise
along its alternate with the status false, or nowhere.  `onward` walks on from a node. -/
def leads (c : Condition) (matched : Bool) (next : Option NodeId) (s : Scene)
    (onward : NodeId → Bool → Except ChainError Outcome × Scene) :
    Except ChainError Outcome × Scene :=
  match matched, next, c.alternate with
  | true, some next, _ => onward next true
  | true, none, _ => (.ok (.completed true), s)
  | false, _, some alternate => onward alternate false
  | false, _, none => (.ok .aborted, s)

/-- A condition that asks for nothing is decided at once, by comparison with the expected value. -/
theorem verdict_of_demand_none {c : Condition} (h : c.demand? = none) (save : Savegame)
    (trigger : Trigger) (status : Bool) :
    c.verdict save trigger status = .decided (c.holds save trigger status == c.expected) := by
  obtain ⟨kind, object, value, count, alternate⟩ := c
  cases kind with
  | sayWord | enterNumber => cases h
  | _ => rfl

/-- Scenes that differ in the log alone are led on to the same, if the walks that follow do not
depend on the log. -/
theorem leads_of_unlogged_eq (c : Condition) (matched : Bool) (next : Option NodeId)
    (onward : NodeId → Bool → Scene → Except ChainError Outcome × Scene)
    (h : ∀ j status s, unloggedResult (onward j status s.unlogged) = unloggedResult (onward j status s))
    {s t : Scene} (same : s.unlogged = t.unlogged) :
    unloggedResult (c.leads matched next s fun j status => onward j status s)
      = unloggedResult (c.leads matched next t fun j status => onward j status t) := by
  have hon : ∀ j status, unloggedResult (onward j status s) = unloggedResult (onward j status t) := by
    intro j status
    exact Scene.eq_of_unlogged_eq (fun s => unloggedResult (onward j status s)) (h j status) same
  unfold leads
  cases matched with
  | true =>
      cases next with
      | none => exact congrArg (Prod.mk _) same
      | some next => exact hon next true
  | false =>
      cases c.alternate with
      | none => exact congrArg (Prod.mk _) same
      | some alternate => exact hon alternate false

/-- Two branches of one condition tell a match from a mismatch. -/
theorem branch_inj (c : Condition) (next : Option NodeId) {matched matched' : Bool}
    (h : c.branch matched next = c.branch matched' next) : matched = matched' := by
  have hne : c.branch true next ≠ c.branch false next := by
    unfold branch
    cases c.alternate <;> simp
  cases matched <;> cases matched'
  · rfl
  · exact absurd h.symm hne
  · exact absurd h hne
  · rfl

end Condition

/-! ## §2. The walk. -/

section Nodes

variable {m : GameMap} {id : NodeId} {n : Node} {c : Condition}

/-- A condition that is decided at once follows its match and changes nothing but the log. -/
theorem Node.step_decided (hc : n.isConsistent = true) (hp : n.payload = .condition c)
    (ctx : Context) (origin : Origin) (cursor : Cursor) (s : Scene) {matched : Bool}
    (hv : c.verdict s.save cursor.trigger cursor.status = .decided matched) :
    unloggedResult (n.step ctx m origin cursor s)
      = (.ok (c.follow matched n.next cursor), s.unlogged) := by
  unfold step check perform
  -- the remark that the step begins with leaves the savegame as it is
  have hv' : c.verdict (s.remark n.id s!"{n.declared.inspect} ({cursor.trigger.name})").save
      cursor.trigger cursor.status = .decided matched := hv
  simp only [hc, if_true, hp, hv']
  obtain ⟨directive, after⟩ := c.follow matched n.next cursor
  by_cases hreject : directive = .reject <;> simp [unloggedResult, hreject]

/-- A condition that asks does so if the player came the right way. -/
theorem Node.step_asks (hc : n.isConsistent = true) (hp : n.payload = .condition c)
    {prompt : Prompt} {trigger : Trigger} (hask : c.demand? = some (prompt, trigger))
    (ctx : Context) (origin : Origin) (cursor : Cursor) (s : Scene) :
    (n.step ctx m origin cursor s).1
      = .ok (if cursor.trigger = trigger then .await prompt else .reject, cursor) := by
  obtain ⟨kind, object, value, count, alternate⟩ := c
  unfold step check perform
  simp only [hc, if_true, hp]
  cases kind with
  | sayWord =>
      cases hask
      by_cases hcame : cursor.trigger = .mouth <;> simp [Condition.verdict, hcame]
  | enterNumber =>
      cases hask
      by_cases hcame : cursor.trigger = .hand <;> simp [Condition.verdict, hcame]
  | _ => cases hask

/-- **A condition that asks for nothing leads on by its predicate compared with the expected
value.**  The trigger becomes `always` on a match and stays what it was otherwise. -/
theorem walkFrom_decided (hn : m.node id = .ok n) (hc : n.isConsistent = true)
    (hp : n.payload = .condition c) (hask : c.demand? = none) (ctx : Context) (origin : Origin)
    (start : NodeId) (limit left : Nat) (cursor : Cursor) (s : Scene) :
    unloggedResult (walkFrom ctx m origin start limit (left + 1) id cursor s)
      = unloggedResult (c.leads (c.holds s.save cursor.trigger cursor.status == c.expected) n.next s
          fun j status => walkFrom ctx m origin start limit left j
            ⟨if status then .always else cursor.trigger, status⟩ s) := by
  have hdecided := n.step_decided hc hp ctx (m := m) origin cursor s
    (Condition.verdict_of_demand_none hask s.save cursor.trigger cursor.status)
  generalize (c.holds s.save cursor.trigger cursor.status == c.expected) = matched at hdecided ⊢
  rcases hstep : n.step ctx m origin cursor s with ⟨result, s₁⟩
  simp only [hstep, unloggedResult, Prod.mk.injEq] at hdecided
  obtain ⟨rfl, hs⟩ := hdecided
  have hleads : walkFrom ctx m origin start limit (left + 1) id cursor s
      = c.leads matched n.next s₁ fun j status => walkFrom ctx m origin start limit left j
          ⟨if status then .always else cursor.trigger, status⟩ s₁ := by
    rw [walkFrom]
    simp only [hn, hstep]
    unfold Condition.follow Condition.leads
    cases matched <;> cases n.next <;> cases c.alternate <;> rfl
  rw [hleads]
  -- what the step wrote to the log is not seen by the walk that follows
  exact c.leads_of_unlogged_eq matched n.next
    (fun j status => walkFrom ctx m origin start limit left j
      ⟨if status then .always else cursor.trigger, status⟩)
    (fun j status => walkFrom_unlogged ctx m origin start limit left j _) hs

/-- **Where additions are checked, the program breaks down at a condition about more than a word can
count.** -/
theorem walkFromIn_checking (hn : m.node id = .ok n) (hc : n.isConsistent = true)
    (hp : n.payload = .condition c) {s : Scene} (hmany : UInt32.size ≤ c.amount s.save.party)
    (ctx : Context) (origin : Origin) (start : NodeId) (limit left : Nat) (cursor : Cursor) :
    walkFromIn ctx m .checking origin start limit (left + 1) id cursor s = none := by
  have hover : n.overflows s.save = true := by
    unfold Node.overflows
    rw [hp, hc]
    exact (c.overflows_iff s.save).2 hmany
  rw [walkFromIn_succ, hn]
  exact if_pos ⟨rfl, hover⟩

/-- **A condition that asks stops the walk if the player came the right way**, and otherwise rejects
the interaction. -/
theorem walkFrom_asks (hn : m.node id = .ok n) (hc : n.isConsistent = true)
    (hp : n.payload = .condition c) {prompt : Prompt} {trigger : Trigger}
    (hask : c.demand? = some (prompt, trigger)) (ctx : Context) (origin : Origin) (start : NodeId)
    (limit left : Nat) (cursor : Cursor) (s : Scene) :
    (walkFrom ctx m origin start limit (left + 1) id cursor s).1
      = .ok (if cursor.trigger = trigger then .suspended ⟨prompt, origin, id, cursor.status⟩
          else .aborted) := by
  have hstep := n.step_asks hc hp (m := m) hask ctx origin cursor s
  rw [walkFrom]
  simp only [hn]
  generalize n.step ctx m origin cursor s = r at hstep
  obtain ⟨result, s₁⟩ := r
  simp only at hstep
  subst hstep
  by_cases hcame : cursor.trigger = trigger
  · simp only [hcame, if_true]
  · simp only [hcame, if_false]

/-! ## §3. The answer. -/

/-- The right answer is the match, whatever the condition expects. -/
theorem Node.answer_of_answered (hp : n.payload = .condition c) {dictionary : Dictionary}
    {a : Answer} {right : Bool} (h : c.answered? dictionary a = some right) (save : Savegame)
    (status : Bool) : n.answer dictionary save status a = .ok (c.branch right n.next) := by
  obtain ⟨id, declared, next, payload⟩ := n
  obtain ⟨kind, object, value, count, alternate⟩ := c
  cases hp
  cases kind with
  | sayWord | enterNumber =>
      cases a <;> cases h <;> rfl
  | _ => cases h

/-- **The answer counts as compared with the expected value only where the condition expects
true**, for there the comparison changes nothing. -/
theorem Node.answer_compares_iff (hp : n.payload = .condition c) {dictionary : Dictionary}
    {a : Answer} {right : Bool} (h : c.answered? dictionary a = some right) (save : Savegame)
    (status : Bool) :
    n.answer dictionary save status a = .ok (c.branch (right == c.expected) n.next)
      ↔ c.value ≠ 0 := by
  rw [Node.answer_of_answered hp h save status]
  have hexpected : c.expected = true ↔ c.value ≠ 0 := bne_iff_ne
  rw [← hexpected]
  constructor
  · intro hbranch
    injection hbranch with hbranch
    have hmatch := c.branch_inj n.next hbranch
    revert hmatch
    cases right <;> cases c.expected <;> decide
  · intro hvalue
    rw [hvalue, beq_true]

/-- **An answer leads on by itself**: to the link if it is the right one, and to the alternate if it
is not. -/
theorem resume_answered {ctx : Context} {w : Suspension} (hn : m.node w.node = .ok n)
    (hc : n.isConsistent = true) (hp : n.payload = .condition c) {a : Answer} {right : Bool}
    (h : c.answered? ctx.dictionary a = some right) (s : Scene) :
    unloggedResult (resume ctx m w a s)
      = unloggedResult (c.leads right n.next s
          fun j status => walk ctx m w.origin j .always status s) := by
  have hafter : ∀ save, n.afterAnswer save a = save := by
    intro save
    simp [Node.afterAnswer, hp]
  -- the line that `resume` begins with is not seen by the walk that follows
  let s₁ := s.note .info s!"resuming node {w.node.text} with {a.inspect}"
  have hleads : resume ctx m w a s
      = c.leads right n.next s₁ fun j status => walk ctx m w.origin j .always status s₁ := by
    unfold resume Node.check
    simp only [hn, hc, if_true, Node.answer_of_answered hp h, hafter]
    unfold Condition.branch Condition.leads
    cases right <;> cases n.next <;> cases c.alternate <;> rfl
  rw [hleads]
  exact c.leads_of_unlogged_eq right n.next
    (fun j status => walk ctx m w.origin j .always status)
    (fun j status => walk_unlogged ctx m w.origin j .always status)
    (rfl : s₁.unlogged = s.unlogged)

end Nodes

/-! ## §4. Both places. -/

/-- **How conditions are decided.**  A condition that asks for nothing leads on by its predicate
compared with the expected value, whatever the savegame, the trigger and the status; the predicate is
about what the party really has where a word can count it, and where none can, a build that checks its
additions breaks down.  A condition that asks stops the walk, or sends a player away who came another
way.  The answer then leads on by being right or not, and this is the comparison with the expected
value if and only if that is not zero. -/
theorem condition_leads_by_predicate_or_answer {m : GameMap} {id : NodeId} {n : Node}
    {c : Condition} (hn : m.node id = .ok n) (hc : n.isConsistent = true)
    (hp : n.payload = .condition c) (ctx : Context) :
    (c.demand? = none → ∀ origin start limit left (cursor : Cursor) (s : Scene),
        unloggedResult (walkFrom ctx m origin start limit (left + 1) id cursor s)
            = unloggedResult
                (c.leads (c.holds s.save cursor.trigger cursor.status == c.expected) n.next s
                  fun j status => walkFrom ctx m origin start limit left j
                    ⟨if status then .always else cursor.trigger, status⟩ s)
          ∧ (c.amount s.save.party < UInt32.size →
              c.holds s.save cursor.trigger cursor.status
                = c.holdsOf (c.amount s.save.party) s.save cursor.trigger cursor.status)
          ∧ (UInt32.size ≤ c.amount s.save.party →
              walkFromIn ctx m .checking origin start limit (left + 1) id cursor s = none))
      ∧ (∀ prompt trigger, c.demand? = some (prompt, trigger) →
          ∀ origin start limit left (cursor : Cursor) s,
            (walkFrom ctx m origin start limit (left + 1) id cursor s).1
              = .ok (if cursor.trigger = trigger
                  then .suspended ⟨prompt, origin, id, cursor.status⟩ else .aborted))
      ∧ (∀ w a right, w.node = id → c.answered? ctx.dictionary a = some right → ∀ s,
          unloggedResult (resume ctx m w a s)
            = unloggedResult (c.leads right n.next s
                fun j status => walk ctx m w.origin j .always status s))
      ∧ ∀ a right, c.answered? ctx.dictionary a = some right → ∀ save status,
          (n.answer ctx.dictionary save status a = .ok (c.branch (right == c.expected) n.next)
            ↔ c.value ≠ 0) := by
  refine ⟨?_, ?_, ?_, ?_⟩
  · intro hask origin start limit left cursor s
    refine ⟨walkFrom_decided hn hc hp hask ctx origin start limit left cursor s, ?_, ?_⟩
    · intro hfits
      exact Condition.holds_of_fits (Condition.overflows_eq_false hfits) cursor.trigger cursor.status
    · intro hmany
      exact walkFromIn_checking hn hc hp hmany ctx origin start limit left cursor
  · intro prompt trigger hask origin start limit left cursor s
    exact walkFrom_asks hn hc hp hask ctx origin start limit left cursor s
  · rintro w a right rfl ha s
    exact resume_answered hn hc hp ha s
  · intro a right ha save status
    exact Node.answer_compares_iff hp ha save status

/-- After a branching that failed, a condition that expects so leads on; a riddle of one word is
solved by that word.  A toll of two is paid by a party with five gold, and not by one whose gold comes
to one more than a word can count: the sum starts again at zero, or the program breaks down. -/
theorem condition_leads_by_predicate_or_answer_echo :
    let failed : Condition := ⟨.lastEventResult, 0, 0, 0, none⟩
    let echo : Condition := ⟨.sayWord, 0, 1, 0, none⟩
    let toll : Condition := ⟨.hasGold, 0, 1, 2, none⟩
    let m := GameMap.ofNodes
      [⟨⟨0⟩, .condition, none, .condition failed⟩, ⟨⟨1⟩, .condition, none, .condition echo⟩,
        ⟨⟨2⟩, .condition, none, .condition toll⟩] [⟨0⟩]
    let ctx := Context.plain ["echo"]
    let origin : Origin := ⟨1, 0, 0, some 1⟩
    let w : Suspension := ⟨.sayWord, origin, ⟨1⟩, false⟩
    let owning (golds : List UInt32) := Scene.blank.setSave { Savegame.blank with
      party := golds.map fun gold => { Member.blank with gold := gold } }
    let cursor : Cursor := ⟨.move, false⟩
    unloggedResult (walkFrom ctx m origin ⟨0⟩ 1 1 ⟨0⟩ cursor .blank)
        = (.ok (.completed true), Scene.blank)
      ∧ (walkFrom ctx m origin ⟨1⟩ 1 1 ⟨1⟩ ⟨.mouth, false⟩ .blank).1 = .ok (.suspended w)
      ∧ unloggedResult (resume ctx m w (.word "echo") .blank)
          = (.ok (.completed true), Scene.blank)
      ∧ toll.holds (owning [2, 3]).save .move false = true
      ∧ unloggedResult (walkFrom ctx m origin ⟨2⟩ 1 1 ⟨2⟩ cursor (owning [4294967295, 2]))
          = (.ok .aborted, owning [4294967295, 2])
      ∧ walkFromIn ctx m .checking origin ⟨2⟩ 1 1 ⟨2⟩ cursor (owning [4294967295, 2]) = none := by
  intro failed echo toll m ctx origin w owning cursor
  have hfailed := condition_leads_by_predicate_or_answer (c := failed)
    (show m.node ⟨0⟩ = .ok _ from rfl) rfl rfl ctx
  have hecho := condition_leads_by_predicate_or_answer (c := echo)
    (show m.node ⟨1⟩ = .ok _ from rfl) rfl rfl ctx
  have htoll := (condition_leads_by_predicate_or_answer (c := toll)
    (show m.node ⟨2⟩ = .ok _ from rfl) rfl rfl ctx).1 rfl origin ⟨2⟩ 1 0 cursor
  refine ⟨?_, ?_, ?_, ?_, ?_, ?_⟩
  · exact (hfailed.1 rfl origin ⟨0⟩ 1 0 cursor .blank).1
  · exact hecho.2.1 .sayWord .mouth rfl origin ⟨1⟩ 1 0 ⟨.mouth, false⟩ .blank
  · exact hecho.2.2.1 w (.word "echo") true rfl (by decide) .blank
  · exact ((htoll (owning [2, 3])).2.1 (by decide)).trans rfl
  · exact (htoll (owning [4294967295, 2])).1
  · exact (htoll (owning [4294967295, 2])).2.2 (by decide)

/-- A condition that expects the word not to be said, and has no alternate, does not reject the
player who says it: the chain ends with the status true. -/
theorem right_word_not_compared :
    let c : Condition := ⟨.sayWord, 0, 0, 0, none⟩
    let m := GameMap.ofNodes [⟨⟨0⟩, .condition, none, .condition c⟩] [⟨0⟩]
    let ctx := Context.plain ["echo"]
    let w : Suspension := ⟨.sayWord, ⟨1, 0, 0, some 1⟩, ⟨0⟩, false⟩
    (walk ctx m w.origin ⟨0⟩ .mouth false .blank).1 = .ok (.suspended w)
      ∧ c.answered? ctx.dictionary (.word "echo") = some true
      ∧ (resume ctx m w (.word "echo") .blank).1 = .ok (.completed true)
      ∧ (c.leads (true == c.expected) none Scene.blank
          fun j status => walk ctx m w.origin j .always status .blank).1 = .ok .aborted := by
  intro c m ctx w
  have hright : c.answered? ctx.dictionary (.word "echo") = some true := by decide
  refine ⟨rfl, hright, ?_, rfl⟩
  exact congrArg Prod.fst (resume_answered (m := m) (w := w) rfl rfl rfl hright .blank)

end TileEvents
