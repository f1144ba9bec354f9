/-
  TileEvents.Proofs.Walk.Limit
  ────────────────────────────
  **THE STEP LIMIT ONLY CUTS A WALK OFF.**

  A walk counts the nodes it visits, but nothing a node does depends on the
  count.  What a walk would do without a limit is said by `HandsOver`: nodes
  that run one after the other, each handing over to a further link.

    • `walkFrom_handsOver` — a walk gets through such nodes at one step each;
    • `walkFrom_runsOut`   — a walk that met its limit got through that many;
    • `walkFrom_of_le`     — a walk that did not is the same under any larger
                             limit;
    • `step_limit_only_truncates` — the three for whole walks: a limit ends a
      walk or does nothing to it, and the link after the last node that ran
      is not looked up.
-/
import TileEvents.Proofs.Sample
import TileEvents.Proofs.Walk.Ending
import TileEvents.Proofs.Walk.Unlogged

namespace TileEvents

/-! ## §1. Limits and tables that do not matter to a step. -/

/-- The context with another step limit. -/
def Context.withLimit (ctx : Context) (limit : Nat) : Context :=
  { ctx with settings := { ctx.settings with maxChainSteps := limit } }

/-- The map with other nodes. -/
def GameMap.withNodes (m : GameMap) (nodes : Array Node) : GameMap := { m with nodes }

/-- No node looks at the limit. -/
theorem Node.step_withLimit (ctx : Context) (limit : Nat) (m : GameMap) (origin : Origin) (n : Node)
    (c : Cursor) (s : Scene) :
    n.step (ctx.withLimit limit) m origin c s = n.step ctx m origin c s := rfl

/-- No node looks at another one. -/
theorem Node.step_withNodes (ctx : Context) (m : GameMap) (nodes : Array Node) (origin : Origin)
    (n : Node) (c : Cursor) (s : Scene) :
    n.step ctx (m.withNodes nodes) origin c s = n.step ctx m origin c s := rfl

/-- So the steps of a walk are those under any limit; only their number is another. -/
theorem walkFrom_withLimit (ctx : Context) (limit' : Nat) (m : GameMap) (origin : Origin)
    (start : NodeId) (limit : Nat) : ∀ (left : Nat) (id : NodeId) (c : Cursor) (s : Scene),
      walkFrom (ctx.withLimit limit') m origin start limit left id c s
        = walkFrom ctx m origin start limit left id c s := by
  intro left
  induction left with
  | zero => intro id c s; rfl
  | succ left ih =>
      intro id c s
      simp only [walkFrom, Node.step_withLimit, ih]

/-! ## §2. Nodes that hand over. -/

/-- Where a walk stands: the node it comes to next, the cursor and the scene. -/
structure Standing where
  node : NodeId
  cursor : Cursor
  scene : Scene

/-- **These nodes run one after the other**, from the first standing to the second: none fails, and
each hands over to a further link.  Nothing is asked of the node that the last link leads to. -/
inductive HandsOver (ctx : Context) (m : GameMap) (origin : Origin) :
    List NodeId → Standing → Standing → Prop where
  | none (p : Standing) : HandsOver ctx m origin [] p p
  | node {id j : NodeId} {c c' : Cursor} {s s' : Scene} {ids : List NodeId} {q : Standing} {n : Node}
      (hn : m.node id = .ok n)
      (hstep : n.step ctx m origin c s = (.ok (.goto (some j), c'), s'))
      (rest : HandsOver ctx m origin ids ⟨j, c', s'⟩ q) :
      HandsOver ctx m origin (id :: ids) ⟨id, c, s⟩ q

section Walks

variable {ctx : Context} {m : GameMap} {origin : Origin}

/-- A walk gets through nodes that hand over at one step each. -/
theorem walkFrom_handsOver {ids : List NodeId} {p q : Standing}
    (h : HandsOver ctx m origin ids p q) (start : NodeId) (limit left : Nat) :
    walkFrom ctx m origin start limit (ids.length + left) p.node p.cursor p.scene
      = walkFrom ctx m origin start limit left q.node q.cursor q.scene := by
  induction h with
  | none p => rw [List.length_nil, Nat.zero_add]
  | @node id j c c' s s' ids q n hn hstep rest ih =>
      have hcount : (id :: ids).length + left = (ids.length + left) + 1 := by
        rw [List.length_cons]
        omega
      rw [hcount, ← ih]
      simp only [walkFrom, hn, hstep]

/-- A node that cannot be used is no limit that was met. -/
theorem Node.Breaks.not_runsOut {n : Node} {e : ChainError} (h : n.Breaks e) (first : NodeId)
    (limit : Nat) : e ≠ .chainLimitExceeded first limit := by
  cases h <;> simp

/-- **A walk that met its limit got through as many nodes as it was allowed**, all of which handed
over. -/
theorem walkFrom_runsOut {start first : NodeId} {limit limit' : Nat} :
    ∀ {left : Nat} {id : NodeId} {c : Cursor} {s : Scene},
      (walkFrom ctx m origin start limit left id c s).1 = .error (.chainLimitExceeded first limit') →
      first = start ∧ limit' = limit
        ∧ ∃ ids q, ids.length = left ∧ HandsOver ctx m origin ids ⟨id, c, s⟩ q := by
  -- on the steps that are left: every way to end but the limit is another result
  intro left
  induction left with
  | zero =>
      intro id c s h
      injection h with h
      injection h with hfirst hlimit
      exact ⟨hfirst.symm, hlimit.symm, [], ⟨id, c, s⟩, rfl, .none _⟩
  | succ left ih =>
      intro id c s h
      unfold walkFrom at h
      cases hn : m.node id with
      | error e =>
          obtain ⟨-, rfl⟩ := GameMap.node_eq_error hn
          simp [hn] at h
      | ok n =>
          simp only [hn] at h
          cases hstep : n.step ctx m origin c s with
          | mk result s' =>
              rw [hstep] at h
              match result, hstep with
              | .error e, hstep =>
                  injection h with h
                  exact absurd h ((Node.step_breaks hstep).not_runsOut first limit')
              | .ok (.reject, _), _ => cases h
              | .ok (.await p, _), _ => cases h
              | .ok (.goto none, _), _ => cases h
              | .ok (.goto (some j), c'), hstep =>
                  obtain ⟨hfirst, hlimit, ids, q, hlength, hids⟩ := ih h
                  refine ⟨hfirst, hlimit, id :: ids, q, ?_, .node hn hstep hids⟩
                  rw [List.length_cons, hlength]

/-- **A walk that did not meet its limit is the same under any larger one.** -/
theorem walkFrom_of_le {start : NodeId} {limit : Nat} (limit' : Nat) :
    ∀ {left left' : Nat} {id : NodeId} {c : Cursor} {s : Scene}, left ≤ left' →
      (walkFrom ctx m origin start limit left id c s).1 ≠ .error (.chainLimitExceeded start limit) →
      walkFrom ctx m origin start limit' left' id c s
        = walkFrom ctx m origin start limit left id c s := by
  intro left
  induction left with
  | zero =>
      -- without steps the smaller limit has been met
      intro left' id c s _ h
      exact absurd rfl h
  | succ left ih =>
      intro left' id c s hle h
      obtain ⟨left', rfl⟩ : ∃ k, left' = k + 1 := ⟨left' - 1, by omega⟩
      unfold walkFrom at h ⊢
      cases hn : m.node id with
      | error e => rfl
      | ok n =>
          simp only [hn] at h ⊢
          generalize n.step ctx m origin c s = r at h ⊢
          obtain ⟨result, s'⟩ := r
          match result with
          | .error e => rfl
          | .ok (.reject, _) => rfl
          | .ok (.await p, _) => rfl
          | .ok (.goto none, _) => rfl
          | .ok (.goto (some j), c') => exact ih (by omega) h

/-- Nodes that hand over do so in every table that has them at their positions. -/
theorem HandsOver.withNodes {ids : List NodeId} {p q : Standing}
    (h : HandsOver ctx m origin ids p q) {nodes : Array Node}
    (hnodes : ∀ id ∈ ids, nodes[id.index.toNat]? = m.nodes[id.index.toNat]?) :
    HandsOver ctx (m.withNodes nodes) origin ids p q := by
  induction h with
  | none p => exact .none p
  | @node id j c c' s s' ids q n hn hstep rest ih =>
      have hhere : (m.withNodes nodes).node id = .ok n := by
        rw [GameMap.node_eq_ok] at hn ⊢
        exact (hnodes id List.mem_cons_self).trans hn
      rw [← n.step_withNodes ctx m nodes origin c s] at hstep
      refine .node hhere hstep (ih ?_)
      intro id' hid
      exact hnodes id' (List.mem_cons_of_mem _ hid)

end Walks

/-! ## §3. Whole walks. -/

/-- Where a walk stands before its first node: at its start, with a line more in the log. -/
def GameMap.standingAt (m : GameMap) (start : NodeId) (trigger : Trigger) (status : Bool) (s : Scene) :
    Standing where
  node := start
  cursor := ⟨trigger, status⟩
  scene := s.note .info s!"walking chain from node {start.text} on map {m.index} ({trigger.name})"

section WholeWalks

variable (ctx : Context) (m : GameMap) (origin : Origin) (start : NodeId) (trigger : Trigger)
  (status : Bool) (s : Scene)

/-- A whole walk is one from its start with all the steps of its limit. -/
theorem walk_withLimit (limit : Nat) :
    walk (ctx.withLimit limit) m origin start trigger status s
      = walkFrom ctx m origin start limit limit start ⟨trigger, status⟩
          (m.standingAt start trigger status s).scene :=
  walkFrom_withLimit ctx limit m origin start limit limit _ _ _

variable {ctx m origin start trigger status s}

/-- A walk whose nodes hand over until the limit is met ends there, in the scene they left. -/
theorem walk_of_handsOver {ids : List NodeId} {q : Standing}
    (h : HandsOver ctx m origin ids (m.standingAt start trigger status s) q) :
    walk (ctx.withLimit ids.length) m origin start trigger status s
      = (.error (.chainLimitExceeded start ids.length), q.scene) := by
  rw [walk_withLimit]
  exact walkFrom_handsOver h start ids.length 0

end WholeWalks

/-- **The step limit only truncates.**  A walk that does not meet its limit is the same under any
larger one.  It meets the limit exactly if as many nodes as it allows run one after the other, each
handing over to a further link.  Then what those nodes did is all that was done, which is nothing
for a limit of zero, and the walk is the same whatever the table holds anywhere else: the link
after them is not looked up. -/
theorem step_limit_only_truncates (ctx : Context) (m : GameMap) (origin : Origin) (start : NodeId)
    (trigger : Trigger) (status : Bool) (s : Scene) (limit limit' : Nat) (hle : limit ≤ limit') :
    let limited := walk (ctx.withLimit limit) m origin start trigger status s
    let first := m.standingAt start trigger status s
    (limited.1 ≠ .error (.chainLimitExceeded start limit) →
        walk (ctx.withLimit limit') m origin start trigger status s = limited)
      ∧ (limited.1 = .error (.chainLimitExceeded start limit)
          ↔ ∃ ids q, ids.length = limit ∧ HandsOver ctx m origin ids first q)
      ∧ (∀ ids q, ids.length = limit → HandsOver ctx m origin ids first q →
          limited = (.error (.chainLimitExceeded start limit), q.scene)
            ∧ ∀ nodes : Array Node,
                (∀ id ∈ ids, nodes[id.index.toNat]? = m.nodes[id.index.toNat]?) →
                walk (ctx.withLimit limit) (m.withNodes nodes) origin start trigger status s = limited)
      ∧ (limit = 0 → limited.2.unlogged = s.unlogged) := by
  intro limited first
  have meets : ∀ ids q, ids.length = limit → HandsOver ctx m origin ids first q →
      limited = (.error (.chainLimitExceeded start limit), q.scene) := by
    intro ids q hlength hids
    subst hlength
    exact walk_of_handsOver hids
  refine ⟨?_, ⟨?_, ?_⟩, ?_, ?_⟩
  · intro hends
    simp only [limited, walk_withLimit] at hends ⊢
    exact walkFrom_of_le limit' hle hends
  · intro hlimit
    simp only [limited, walk_withLimit] at hlimit
    exact (walkFrom_runsOut hlimit).2.2
  · rintro ⟨ids, q, hlength, hids⟩
    rw [meets ids q hlength hids]
  · intro ids q hlength hids
    refine ⟨meets ids q hlength hids, ?_⟩
    intro nodes hnodes
    rw [meets ids q hlength hids]
    subst hlength
    -- the walk over the other table begins alike, for its map has the same index
    exact walk_of_handsOver (m := m.withNodes nodes) (hids.withNodes hnodes)
  · intro hzero
    rw [meets [] first hzero.symm (.none first)]
    rfl

/-- Music changes twice before the walk comes to a link that leads nowhere: a limit of two is met
before that link is looked up, and from three on the limit makes no difference. -/
theorem step_limit_only_truncates_astray :
    let m := GameMap.ofNodes
      [⟨⟨0⟩, .changeMusic, some ⟨1⟩, .changeMusic 3 50⟩,
        ⟨⟨1⟩, .changeMusic, some ⟨7⟩, .changeMusic 4 50⟩] [⟨0⟩]
    let limited (limit : Nat) :=
      walk ((Context.plain []).withLimit limit) m ⟨1, 0, 0, some 1⟩ ⟨0⟩ .move false .blank
    2 ≤ 9 ∧ 3 ≤ 9
      ∧ (limited 2).1 = .error (.chainLimitExceeded ⟨0⟩ 2)
      ∧ (limited 3).1 = .error (.corruptData ⟨7⟩ (.outsideTable 2))
      ∧ limited 9 = limited 3 := by
  intro m limited
  have hastray : (limited 3).1 = .error (.corruptData ⟨7⟩ (.outsideTable 2)) := rfl
  refine ⟨by decide, by decide, ?_, hastray, ?_⟩
  · obtain ⟨-, hmeets, -, -⟩ := step_limit_only_truncates (Context.plain []) m ⟨1, 0, 0, some 1⟩ ⟨0⟩
      .move false .blank 2 9 (by decide)
    exact hmeets.2 ⟨[⟨0⟩, ⟨1⟩], _, rfl, .node rfl rfl (.node rfl rfl (.none _))⟩
  · obtain ⟨hends, -, -, -⟩ := step_limit_only_truncates (Context.plain []) m ⟨1, 0, 0, some 1⟩ ⟨0⟩
      .move false .blank 3 9 (by decide)
    apply hends
    show (limited 3).1 ≠ _
    rw [hastray]
    simp

end TileEvents
