/-
  TileEvents.Proofs.Session.LookAhead
  ───────────────────────────────────
  **THE LOOK-AHEAD IS NEVER CUT OFF.**

  The guard looks ahead along the chain of an event for the first node that
  does more than decide, and counts its hops so that a circle does not hold it
  forever.  Here the look-ahead is described without a count, by the place `k`
  links on, and the count turns out to cut off nothing: a path that comes to a
  stop never visits a place twice, so it has no more links than there are
  nodes (`ahead?_le_size`).
-/
import Mathlib.Data.Fintype.Card
import TileEvents.Proofs.Walk.Ending
import TileEvents.Session.RepeatGuard

namespace TileEvents

namespace GameMap

/-! ## §1. The path of the look-ahead. -/

/-- The node after one that only decides. -/
def past? (m : GameMap) (id : NodeId) : Option NodeId :=
  match m.node id with
  | .ok n => if n.declared.isBranching then n.next else none
  | .error _ => none

/-- **The place `k` links on from `id`**, with nothing but nodes that only decide on the way. -/
def ahead? (m : GameMap) (id : NodeId) : Nat → Option NodeId
  | 0 => some id
  | k + 1 => (m.ahead? id k).bind m.past?

/-- From `id` on, the first node that does more than decide has this declared type. -/
def Finds (m : GameMap) (id : NodeId) (t : EventType) : Prop :=
  ∃ k j n, m.ahead? id k = some j ∧ m.node j = .ok n ∧ n.declared = t ∧ t.isBranching = false

/-- From `id` on, nodes that only decide lead to one of them that has no link. -/
def Ends (m : GameMap) (id : NodeId) : Prop :=
  ∃ k j n, m.ahead? id k = some j ∧ m.node j = .ok n ∧ n.declared.isBranching = true
    ∧ n.next = none

/-- From `id` on, there are nodes that only decide and no end of them. -/
def NeverEnds (m : GameMap) (id : NodeId) : Prop :=
  ∀ k, ∃ j n, m.ahead? id k = some j ∧ m.node j = .ok n ∧ n.declared.isBranching = true

/-- From `id` on, nodes that only decide lead to a place outside the table. -/
def Strays (m : GameMap) (id j : NodeId) : Prop :=
  ∃ k, m.ahead? id k = some j ∧ m.nodes.size ≤ j.index.toNat

section Path

variable {m : GameMap} {id i j : NodeId} {n : Node}

theorem past?_eq_some (h : m.past? i = some j) :
    ∃ n, m.node i = .ok n ∧ n.declared.isBranching = true ∧ n.next = some j := by
  unfold past? at h
  split at h
  case h_1 n hn =>
    split at h
    case isTrue hb => exact ⟨n, hn, hb, h⟩
    case isFalse => cases h
  case h_2 => cases h

theorem past?_of_missing (h : m.nodes.size ≤ id.index.toNat) : m.past? id = none := by
  simp [past?, node, h]

theorem past?_of_not_branching (hn : m.node id = .ok n) (hb : n.declared.isBranching = false) :
    m.past? id = none := by
  simp [past?, hn, hb]

theorem ahead?_add (k l : Nat) :
    m.ahead? id (k + l) = (m.ahead? id k).bind fun i => m.ahead? i l := by
  induction l with
  | zero => cases m.ahead? id k <;> rfl
  | succ l ih =>
      show (m.ahead? id (k + l)).bind m.past? = _
      rw [ih, Option.bind_assoc]
      rfl

theorem ahead?_succ (k : Nat) :
    m.ahead? id (k + 1) = (m.past? id).bind fun i => m.ahead? i k := by
  rw [Nat.add_comm, ahead?_add]
  rfl

/-- A path that has ended stays ended. -/
theorem ahead?_of_le {k l : Nat} (hkl : k ≤ l) (h : m.ahead? id k = none) :
    m.ahead? id l = none := by
  obtain ⟨d, rfl⟩ := Nat.exists_eq_add_of_le hkl
  rw [ahead?_add, h]
  rfl

/-- Every place on the way to another is a node of the table. -/
theorem ahead?_lt_size {k l : Nat} (hkl : k < l) (h : m.ahead? id l = some j) :
    ∃ i, m.ahead? id k = some i ∧ i.index.toNat < m.nodes.size := by
  cases hi : m.ahead? id k with
  | none =>
      rw [ahead?_of_le (Nat.le_of_lt hkl) hi] at h
      cases h
  | some i =>
      refine ⟨i, rfl, ?_⟩
      -- a place outside the table would be the last one
      by_contra hout
      have hnext : m.ahead? id (k + 1) = none := by
        show (m.ahead? id k).bind m.past? = none
        rw [hi]
        exact past?_of_missing (Nat.le_of_not_lt hout)
      rw [ahead?_of_le hkl hnext] at h
      cases h

/-- A path that comes to a stop visits no place twice. -/
theorem ahead?_ne {k a b : Nat} (h : m.ahead? id k = some j) (hstop : m.past? j = none)
    (hab : a < b) (hbk : b ≤ k) : m.ahead? id a ≠ m.ahead? id b := by
  intro hsame
  -- from the second visit the path ends `k - b` links on, so from the first it does too
  have hearly : m.ahead? id (a + (k - b)) = some j := by
    rw [ahead?_add, hsame, ← ahead?_add, Nat.add_sub_cancel' hbk, h]
  have hafter : m.ahead? id (a + (k - b) + 1) = none := by
    show (m.ahead? id (a + (k - b))).bind m.past? = none
    rw [hearly]
    exact hstop
  rw [ahead?_of_le (by omega : a + (k - b) + 1 ≤ k) hafter] at h
  cases h

/-- **A path that comes to a stop has no more links than there are nodes.** -/
theorem ahead?_le_size {k : Nat} (h : m.ahead? id k = some j) (hstop : m.past? j = none) :
    k ≤ m.nodes.size := by
  -- the places before the stop are as many different positions of the table
  choose place hplace hlt using fun l : Fin k => ahead?_lt_size l.isLt h
  let position : Fin k → Fin m.nodes.size := fun l => ⟨(place l).index.toNat, hlt l⟩
  have hinj : Function.Injective position := by
    intro a b hab
    have hsame : place a = place b := by
      have hindex : (place a).index = (place b).index :=
        UInt16.toNat_inj.1 (Fin.mk.inj hab)
      cases ha : place a
      cases hb : place b
      simp_all
    -- two positions that are the same would be a place visited twice
    by_contra hne
    rcases Nat.lt_or_gt_of_ne (Fin.val_ne_of_ne hne) with hlt' | hlt'
    · refine ahead?_ne h hstop hlt' (Nat.le_of_lt b.isLt) ?_
      rw [hplace, hplace, hsame]
    · refine ahead?_ne h hstop hlt' (Nat.le_of_lt a.isLt) ?_
      rw [hplace, hplace, hsame]
  simpa using Fintype.card_le_of_injective position hinj

end Path

/-! ## §2. What the look-ahead gives. -/

section FirstType

variable {m : GameMap} {id j : NodeId} {n : Node} {hops k : Nat}

/-- A place without a node makes the look-ahead fail. -/
theorem firstType_of_missing {e : ChainError} (hn : m.node id = .error e) :
    m.firstType hops id = .error e := by
  cases hops <;> simp [firstType, hn]

/-- A node that does more than decide is what the look-ahead finds. -/
theorem firstType_of_not_branching (hn : m.node id = .ok n) (hb : n.declared.isBranching = false) :
    m.firstType hops id = .ok (some n.declared) := by
  cases hops <;> simp [firstType, hn, hb]

/-- On a node that only decides the look-ahead gives up if there are no hops left. -/
theorem firstType_zero (hn : m.node id = .ok n) (hb : n.declared.isBranching = true) :
    m.firstType 0 id = .ok none := by
  simp [firstType, hn, hb]

/-- Without a link there is nothing to find behind a node that only decides. -/
theorem firstType_last (hn : m.node id = .ok n) (hb : n.declared.isBranching = true)
    (hnext : n.next = none) : m.firstType hops id = .ok none := by
  cases hops <;> simp [firstType, hn, hb, hnext]

/-- A node that only decides costs one hop. -/
theorem firstType_past (h : m.past? id = some j) :
    m.firstType (hops + 1) id = m.firstType hops j := by
  obtain ⟨n, hn, hb, hnext⟩ := past?_eq_some h
  rw [firstType]
  simp [hn, hb, hnext]

/-- At a stop no hops are needed. -/
theorem firstType_stop (h : m.past? id = none) : m.firstType hops id = m.firstType 0 id := by
  cases hn : m.node id with
  | error e => rw [firstType_of_missing hn, firstType_of_missing hn]
  | ok n =>
      cases hb : n.declared.isBranching with
      | false => rw [firstType_of_not_branching hn hb, firstType_of_not_branching hn hb]
      | true =>
          have hnext : n.next = none := by simpa [past?, hn, hb] using h
          rw [firstType_last hn hb hnext, firstType_last hn hb hnext]

/-- The look-ahead follows its path. -/
theorem firstType_ahead? : ∀ {k hops : Nat} {id : NodeId}, m.ahead? id k = some j → k ≤ hops →
    m.firstType hops id = m.firstType (hops - k) j := by
  intro k
  induction k with
  | zero =>
      intro hops id h _
      injection h with h
      rw [h]
      rfl
  | succ k ih =>
      intro hops id h hk
      obtain ⟨hops, rfl⟩ : ∃ l, hops = l + 1 := ⟨hops - 1, by omega⟩
      rw [ahead?_succ] at h
      obtain ⟨i, hi, hpath⟩ := Option.bind_eq_some_iff.1 h
      rw [firstType_past hi, ih hpath (by omega), Nat.add_sub_add_right]

/-- Where its path comes to a stop, so does the look-ahead. -/
theorem firstType_size (h : m.ahead? id k = some j) (hstop : m.past? j = none) :
    m.firstType m.nodes.size id = m.firstType 0 j := by
  rw [firstType_ahead? h (ahead?_le_size h hstop), firstType_stop hstop]

/-- Where the path finds a type, so does the look-ahead. -/
theorem firstType_of_finds {t : EventType} (h : m.Finds id t) :
    m.firstType m.nodes.size id = .ok (some t) := by
  obtain ⟨k, j, n, hj, hn, rfl, hb⟩ := h
  rw [firstType_size hj (past?_of_not_branching hn hb), firstType_of_not_branching hn hb]

/-- Where the path ends, the look-ahead finds nothing. -/
theorem firstType_of_ends (h : m.Ends id) : m.firstType m.nodes.size id = .ok none := by
  obtain ⟨k, j, n, hj, hn, hb, hnext⟩ := h
  have hstop : m.past? j = none := by simp [past?, hn, hb, hnext]
  rw [firstType_size hj hstop, firstType_zero hn hb]

/-- Where the path does not end, the look-ahead finds nothing either, however far it looks. -/
theorem firstType_of_neverEnds (h : m.NeverEnds id) : m.firstType hops id = .ok none := by
  -- where the hops run out the node still only decides
  obtain ⟨j, n, hj, hn, hb⟩ := h hops
  rw [firstType_ahead? hj (Nat.le_refl _), Nat.sub_self, firstType_zero hn hb]

/-- Where the path leaves the table, the look-ahead fails. -/
theorem firstType_of_strays (h : m.Strays id j) :
    m.firstType m.nodes.size id = .error (.corruptData j (.outsideTable m.nodes.size)) := by
  obtain ⟨k, hj, hsize⟩ := h
  have hmissing : m.node j = .error (.corruptData j (.outsideTable m.nodes.size)) := by
    simp [node, hsize]
  rw [firstType_size hj (past?_of_missing hsize), firstType_of_missing hmissing]

/-- The path of the look-ahead comes to a stop or goes on without end. -/
theorem stops_or_neverEnds (m : GameMap) (id : NodeId) :
    (∃ k j, m.ahead? id k = some j ∧ m.past? j = none) ∨ m.NeverEnds id := by
  by_cases hstops : ∃ k j, m.ahead? id k = some j ∧ m.past? j = none
  · exact .inl hstops
  · refine .inr fun k => ?_
    -- on the links; without a stop each place has one after it
    have honward : ∀ {k j}, m.ahead? id k = some j → ∃ i, m.past? j = some i := fun {k j} hj =>
      Option.ne_none_iff_exists'.1 fun hstop => hstops ⟨k, j, hj, hstop⟩
    have hpath : ∃ j, m.ahead? id k = some j := by
      induction k with
      | zero => exact ⟨id, rfl⟩
      | succ k ih =>
          obtain ⟨j, hj⟩ := ih
          obtain ⟨i, hi⟩ := honward hj
          refine ⟨i, ?_⟩
          show (m.ahead? id k).bind m.past? = some i
          rw [hj]
          exact hi
    obtain ⟨j, hj⟩ := hpath
    obtain ⟨i, hi⟩ := honward hj
    obtain ⟨n, hn, hb, -⟩ := past?_eq_some hi
    exact ⟨j, n, hj, hn, hb⟩

/-- **What can become of the path**: it finds a type, ends, goes on without end or leaves the
table. -/
theorem finds_or_ends_or_strays (m : GameMap) (id : NodeId) :
    (∃ t, m.Finds id t) ∨ (m.Ends id ∨ m.NeverEnds id) ∨ ∃ j, m.Strays id j := by
  rcases m.stops_or_neverEnds id with ⟨k, j, hj, hstop⟩ | hnever
  · cases hn : m.node j with
    | error e => exact .inr (.inr ⟨j, k, hj, (node_eq_error hn).1⟩)
    | ok n =>
        cases hb : n.declared.isBranching with
        | false => exact .inl ⟨n.declared, k, j, n, hj, hn, rfl, hb⟩
        | true =>
            have hnext : n.next = none := by simpa [past?, hn, hb] using hstop
            exact .inr (.inl (.inl ⟨k, j, n, hj, hn, hb, hnext⟩))
  · exact .inr (.inl (.inr hnever))

/-- The look-ahead finds nothing along a path that ends or does not end. -/
theorem firstType_of_nothing (h : m.Ends id ∨ m.NeverEnds id) :
    m.firstType m.nodes.size id = .ok none :=
  h.elim firstType_of_ends firstType_of_neverEnds

/-- **The look-ahead finds what there is to find.** -/
theorem firstType_eq_some {t : EventType} :
    m.firstType m.nodes.size id = .ok (some t) ↔ m.Finds id t := by
  refine ⟨?_, firstType_of_finds⟩
  intro h
  rcases m.finds_or_ends_or_strays id with ⟨t', ht'⟩ | hnothing | ⟨j, hj⟩
  · rw [firstType_of_finds ht'] at h
    cases h
    exact ht'
  · rw [firstType_of_nothing hnothing] at h
    cases h
  · rw [firstType_of_strays hj] at h
    cases h

/-- **The look-ahead finds nothing** where the chain ends before there is anything to find, or does
not end. -/
theorem firstType_eq_none :
    m.firstType m.nodes.size id = .ok none ↔ m.Ends id ∨ m.NeverEnds id := by
  refine ⟨?_, firstType_of_nothing⟩
  intro h
  rcases m.finds_or_ends_or_strays id with ⟨t, ht⟩ | hnothing | ⟨j, hj⟩
  · rw [firstType_of_finds ht] at h
    cases h
  · exact hnothing
  · rw [firstType_of_strays hj] at h
    cases h

/-- **The look-ahead fails where the chain leaves the table.** -/
theorem firstType_eq_error {e : ChainError} :
    m.firstType m.nodes.size id = .error e
      ↔ ∃ j, m.Strays id j ∧ e = .corruptData j (.outsideTable m.nodes.size) := by
  constructor
  · intro h
    rcases m.finds_or_ends_or_strays id with ⟨t, ht⟩ | hnothing | ⟨j, hj⟩
    · rw [firstType_of_finds ht] at h
      cases h
    · rw [firstType_of_nothing hnothing] at h
      cases h
    · rw [firstType_of_strays hj] at h
      cases h
      exact ⟨j, hj, rfl⟩
  · rintro ⟨j, hj, rfl⟩
    exact firstType_of_strays hj

/-- **A longer look-ahead gives no other answer.** -/
theorem firstType_of_le (h : m.nodes.size ≤ hops) :
    m.firstType hops id = m.firstType m.nodes.size id := by
  rcases m.stops_or_neverEnds id with ⟨k, j, hj, hstop⟩ | hnever
  · have hk : k ≤ hops := Nat.le_trans (ahead?_le_size hj hstop) h
    rw [firstType_size hj hstop, firstType_ahead? hj hk, firstType_stop hstop]
  · rw [firstType_of_neverEnds hnever, firstType_of_neverEnds hnever]

end FirstType

end GameMap

/-! ## §3. What the guard decides. -/

/-- **From `head` on, the look-ahead finds a kind of event that fires on every step.** -/
def GameMap.FiresAgain (m : GameMap) (head : NodeId) : Prop :=
  ∃ t, m.Finds head t
    ∧ (t ∈ [.teleport, .chest, .door, .enterPlace, .removeBuffs, .riddlemouth]
      ∨ t = .trap ∧ m.is3d = true)

theorem GameMap.refires_eq_true {m : GameMap} {t : EventType} :
    m.refires (some t) = true
      ↔ t ∈ [.teleport, .chest, .door, .enterPlace, .removeBuffs, .riddlemouth]
        ∨ t = .trap ∧ m.is3d = true := by
  cases t <;> simp [refires]

/-- The look-ahead tells whether an event fires again. -/
theorem GameMap.firesAgain_iff {m : GameMap} {head : NodeId} :
    m.FiresAgain head ↔ ∃ kind, m.firstType m.nodes.size head = .ok kind ∧ m.refires kind = true := by
  constructor
  · rintro ⟨t, ht, hfires⟩
    exact ⟨some t, firstType_eq_some.2 ht, refires_eq_true.2 hfires⟩
  · rintro ⟨kind, hkind, hfires⟩
    cases kind with
    | none => cases hfires
    | some t => exact ⟨t, firstType_eq_some.1 hkind, refires_eq_true.1 hfires⟩

namespace RepeatGuard

variable {g : RepeatGuard} {m : GameMap} {event : UInt16} {trigger : Trigger} {head : NodeId}

/-- Asked about the event that fired last, the guard looks ahead. -/
theorem holdsBack_again (hhead : m.chainHead event = .ok head) :
    (RepeatGuard.fired m.index event).holdsBack m event .move
      = (m.firstType m.nodes.size head).map fun kind => !m.refires kind := by
  simp only [holdsBack, GameMap.eventKind, hhead, and_self, if_true]
  cases m.firstType m.nodes.size head <;> rfl

/-- Any other event the guard lets through at once. -/
theorem holdsBack_other (h : ¬ (trigger = .move ∧ g = .fired m.index event)) :
    g.holdsBack m event trigger = .ok false := by
  simp [holdsBack, h]

/-- **The guard fails only where the look-ahead leaves the table.** -/
theorem holdsBack_eq_error (hhead : m.chainHead event = .ok head) {e : ChainError} :
    g.holdsBack m event trigger = .error e
      ↔ (trigger = .move ∧ g = .fired m.index event)
        ∧ ∃ j, m.Strays head j ∧ e = .corruptData j (.outsideTable m.nodes.size) := by
  rw [← GameMap.firstType_eq_error]
  by_cases hagain : trigger = .move ∧ g = .fired m.index event
  · obtain ⟨rfl, rfl⟩ := hagain
    rw [holdsBack_again hhead]
    cases m.firstType m.nodes.size head <;> simp [Except.map]
  · simp [holdsBack_other hagain, hagain]

/-- **The guard holds back an event that fired last and is stepped on again**, unless the look-ahead
finds a kind that fires on every step. -/
theorem holdsBack_eq_true (hhead : m.chainHead event = .ok head) :
    g.holdsBack m event trigger = .ok true
      ↔ trigger = .move ∧ g = .fired m.index event ∧ ¬ m.FiresAgain head
        ∧ ∀ j, ¬ m.Strays head j := by
  by_cases hagain : trigger = .move ∧ g = .fired m.index event
  · obtain ⟨rfl, rfl⟩ := hagain
    have hstrays : (∃ e, m.firstType m.nodes.size head = .error e) ↔ ∃ j, m.Strays head j := by
      simp [GameMap.firstType_eq_error]
    rw [holdsBack_again hhead, GameMap.firesAgain_iff, ← not_exists, ← hstrays]
    cases m.firstType m.nodes.size head <;> simp [Except.map]
  · rw [holdsBack_other hagain]
    constructor
    · exact nofun
    · exact fun h => absurd ⟨h.1, h.2.1⟩ hagain

/-- **The guard lets every other event through.** -/
theorem holdsBack_eq_false (hhead : m.chainHead event = .ok head) :
    g.holdsBack m event trigger = .ok false
      ↔ (trigger = .move → g = .fired m.index event → m.FiresAgain head) := by
  by_cases hagain : trigger = .move ∧ g = .fired m.index event
  · obtain ⟨rfl, rfl⟩ := hagain
    rw [holdsBack_again hhead, GameMap.firesAgain_iff]
    cases m.firstType m.nodes.size head <;> simp [Except.map]
  · rw [holdsBack_other hagain]
    exact ⟨fun _ htrigger hg => absurd ⟨htrigger, hg⟩ hagain, fun _ => rfl⟩

end RepeatGuard

end TileEvents
