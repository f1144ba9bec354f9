/-
  TileEvents.Proofs.Walk.Cycle
  ────────────────────────────
  **ONLY A CYCLE MEETS THE STEP LIMIT.**

  Which way a walk takes is up to the savegame, the dice and the trigger, but
  every way follows links of the table.  Where no such way comes back to a
  node it has left, the nodes that a walk visits are all different, and the
  table has only so many: a limit of its size is never met.

    • `HandsOver.reaches`        — a walk stands only where its links lead;
    • `HandsOver.nodup`          — without a cycle it stands nowhere twice;
    • `HandsOver.length_lt_size` — so fewer nodes hand over than there are;
    • `limit_met_only_by_cycle`  — walks and answers within a limit of the
                                   size of the table.
-/
import Mathlib.Data.List.Nodup
import Mathlib.Data.List.Perm.Subperm
import TileEvents.Proofs.Walk.Answers
import TileEvents.Proofs.Walk.Limit

namespace TileEvents

/-! ## §1. Maps without cycles. -/

namespace GameMap

/-- **Every link of the table leads into it.** -/
def IsLinked (m : GameMap) : Prop := ∀ n ∈ m.nodes, ∀ j ∈ n.links, j.index.toNat < m.nodes.size

instance (m : GameMap) : Decidable m.IsLinked :=
  inferInstanceAs (Decidable (∀ n ∈ m.nodes, ∀ j ∈ n.links, j.index.toNat < m.nodes.size))

/-- **No way from `start` comes back to a node that it has left.**  The ways are those a walk can
take by itself. -/
def AcyclicFrom (m : GameMap) (start : NodeId) : Prop :=
  ∀ {i j : NodeId} {n : Node}, m.Reaches start i → m.node i = .ok n → j ∈ n.onward → ¬ m.Reaches j i

variable {m : GameMap} {start i j : NodeId} {n : Node}

/-- A node that is there stands within the table. -/
theorem lt_size_of_node (hn : m.node i = .ok n) : i.index.toNat < m.nodes.size := by
  rw [node_eq_ok] at hn
  exact (Array.getElem?_eq_some_iff.1 hn).1

theorem IsLinked.lt_size (hm : m.IsLinked) (hn : m.node i = .ok n) (hj : j ∈ n.links) :
    j.index.toNat < m.nodes.size :=
  hm n (Array.mem_of_getElem? (node_eq_ok.1 hn)) j hj

theorem Reaches.trans (hi : m.Reaches start i) (hj : m.Reaches i j) : m.Reaches start j := by
  induction hj with
  | here => exact hi
  | onward _ hn hj ih => exact .onward ih hn hj

/-- What can be reached from a node without cycles behind it has none behind it either. -/
theorem AcyclicFrom.of_reaches (hm : m.AcyclicFrom start) (hi : m.Reaches start i) :
    m.AcyclicFrom i :=
  fun hreach hn hj => hm (hi.trans hreach) hn hj

/-- A table whose links only lead forward has no cycle. -/
theorem acyclicFrom_of_ascending
    (hm : ∀ {i n}, m.node i = .ok n → ∀ j ∈ n.onward, i.index.toNat < j.index.toNat)
    (start : NodeId) : m.AcyclicFrom start := by
  have hle : ∀ {i j}, m.Reaches i j → i.index.toNat ≤ j.index.toNat := by
    intro i j h
    induction h with
    | here => exact Nat.le_refl _
    | onward _ hn hj ih => exact Nat.le_trans ih (Nat.le_of_lt (hm hn _ hj))
  intro i j n _ hn hj hback
  exact Nat.not_le_of_lt (hm hn j hj) (hle hback)

end GameMap

/-! ## §2. The nodes that a walk visits. -/

namespace HandsOver

variable {ctx : Context} {m : GameMap} {origin : Origin} {ids : List NodeId} {p q : Standing}

/-- The node that a step hands over to is one that its node links to. -/
theorem onward_of_step {n : Node} {j : NodeId} {c c' : Cursor} {s s' : Scene}
    (hstep : n.step ctx m origin c s = (.ok (.goto (some j), c'), s')) : j ∈ n.onward :=
  (Node.step_allows hstep).2.follows j rfl

/-- A walk stands only where its links lead. -/
theorem reaches (h : HandsOver ctx m origin ids p q) :
    ∀ i ∈ ids ++ [q.node], m.Reaches p.node i := by
  induction h with
  | none p =>
      intro i hi
      rw [List.mem_singleton.1 hi]
      exact .here
  | @node id j c c' s s' ids q n hn hstep rest ih =>
      intro i hi
      rcases List.mem_cons.1 hi with rfl | hi
      · exact .here
      · exact .trans (.onward .here hn (onward_of_step hstep)) (ih i hi)

/-- **Without a cycle a walk stands nowhere twice.** -/
theorem nodup (h : HandsOver ctx m origin ids p q) (hm : m.AcyclicFrom p.node) :
    (ids ++ [q.node]).Nodup := by
  induction h with
  | none p => exact List.nodup_singleton _
  | @node id j c c' s s' ids q n hn hstep rest ih =>
      have hj : j ∈ n.onward := onward_of_step hstep
      refine List.nodup_cons.2 ⟨?_, ih (hm.of_reaches (.onward .here hn hj))⟩
      -- to come back to this node is a way from the next one to it
      intro hback
      exact hm .here hn hj (rest.reaches id hback)

/-- Where every link leads into the table, a walk that starts there stays there. -/
theorem lt_size (h : HandsOver ctx m origin ids p q) (hm : m.IsLinked)
    (hp : p.node.index.toNat < m.nodes.size) :
    ∀ i ∈ ids ++ [q.node], i.index.toNat < m.nodes.size := by
  induction h with
  | none p =>
      intro i hi
      rw [List.mem_singleton.1 hi]
      exact hp
  | @node id j c c' s s' ids q n hn hstep rest ih =>
      intro i hi
      rcases List.mem_cons.1 hi with rfl | hi
      · exact hp
      · exact ih (hm.lt_size hn (n.onward_subset_links (onward_of_step hstep))) i hi

/-- **Without a cycle fewer nodes hand over than the table has**: the last one they hand over to is
another one still. -/
theorem length_lt_size (h : HandsOver ctx m origin ids p q) (hlinked : m.IsLinked)
    (hacyclic : m.AcyclicFrom p.node) (hp : p.node.index.toNat < m.nodes.size) :
    ids.length < m.nodes.size := by
  have hinjective : Function.Injective fun i : NodeId => i.index.toNat := by
    intro i j hij
    rw [NodeId.mk.injEq]
    exact UInt16.toNat_inj.1 hij
  -- the positions are different numbers below the size
  have hnodup : ((ids ++ [q.node]).map fun i => i.index.toNat).Nodup :=
    (h.nodup hacyclic).map hinjective
  have hrange : ((ids ++ [q.node]).map fun i => i.index.toNat) ⊆ List.range m.nodes.size := by
    intro k hk
    obtain ⟨i, hi, rfl⟩ := List.mem_map.1 hk
    exact List.mem_range.2 (h.lt_size hlinked hp i hi)
  have hlength := (hnodup.subperm hrange).length_le
  rw [List.length_map, List.length_append, List.length_singleton, List.length_range] at hlength
  exact hlength

end HandsOver

/-! ## §3. Walks and answers within the limit. -/

section WithinLimit

variable {ctx : Context} {m : GameMap}

/-- A walk without a cycle before it does not meet a limit of the size of the table. -/
theorem walk_within_limit (hlinked : m.IsLinked)
    (hlimit : m.nodes.size ≤ ctx.settings.maxChainSteps) {start : NodeId}
    (hacyclic : m.AcyclicFrom start)
    (hstart : (∃ n, m.node start = .ok n) ∨ 0 < ctx.settings.maxChainSteps) (origin : Origin)
    (trigger : Trigger) (status : Bool) (s : Scene) (first : NodeId) (limit : Nat) :
    (walk ctx m origin start trigger status s).1 ≠ .error (.chainLimitExceeded first limit) := by
  intro h
  obtain ⟨-, -, ids, q, hlength, hids⟩ := walkFrom_runsOut h
  -- a node that is not in the table hands over to none
  have hstart : start.index.toNat < m.nodes.size := by
    rcases hstart with ⟨n, hn⟩ | hpos
    · exact GameMap.lt_size_of_node hn
    · cases hids with
      | none => exact absurd hlength (by simpa using Nat.ne_of_lt hpos)
      | node hn _ _ => exact GameMap.lt_size_of_node hn
  have hlt := hids.length_lt_size hlinked hacyclic hstart
  omega

/-- Nor does an answer, if there is no cycle behind the links it can choose from. -/
theorem resume_within_limit (hlinked : m.IsLinked)
    (hlimit : m.nodes.size ≤ ctx.settings.maxChainSteps) {w : Suspension}
    (hacyclic : ∀ {n}, m.node w.node = .ok n → ∀ j ∈ n.links, m.AcyclicFrom j) (a : Answer)
    (s : Scene) (first : NodeId) (limit : Nat) :
    (resume ctx m w a s).1 ≠ .error (.chainLimitExceeded first limit) := by
  intro h
  have hend := resume_ends ctx m w a s
  generalize resume ctx m w a s = result at h hend
  cases hend with
  | missing hw => cases h
  | breaks n e hn he =>
      injection h with h
      exact he.not_runsOut first limit h
  | refused n r s' hn hr hs =>
      injection h with h
      cases r <;> cases h
  | walked n next status s' hn hb =>
      -- the walk that follows starts at a link of the node
      have hnext : next ∈ n.links := Node.answer_follows hb
      have hpos : 0 < ctx.settings.maxChainSteps :=
        Nat.lt_of_lt_of_le (Nat.zero_lt_of_lt (GameMap.lt_size_of_node hn)) hlimit
      exact walk_within_limit hlinked hlimit (hacyclic hn next hnext) (.inr hpos) w.origin .always
        status s' first limit h
  | _ => cases h

end WithinLimit

/-- **Only a cycle meets a step limit of the size of the table.**  On a map whose links all lead
into its table no walk meets such a limit that starts at a node with no cycle before it, and no
answer to a suspension whose node has no cycle behind any of its links.  A start outside the table
is no exception as long as the limit lets a walk look at it. -/
theorem limit_met_only_by_cycle (m : GameMap) (hlinked : m.IsLinked) (ctx : Context)
    (hlimit : m.nodes.size ≤ ctx.settings.maxChainSteps) :
    (∀ start, m.AcyclicFrom start →
        ((∃ n, m.node start = .ok n) ∨ 0 < ctx.settings.maxChainSteps) →
        ∀ origin trigger status s first limit,
          (walk ctx m origin start trigger status s).1 ≠ .error (.chainLimitExceeded first limit))
      ∧ ∀ w, (∀ n, m.node w.node = .ok n → ∀ j ∈ n.links, m.AcyclicFrom j) →
        ∀ a s first limit,
          (resume ctx m w a s).1 ≠ .error (.chainLimitExceeded first limit) := by
  refine ⟨?_, ?_⟩
  · intro start hacyclic hstart
    exact walk_within_limit hlinked hlimit hacyclic hstart
  · intro w hacyclic
    exact resume_within_limit hlinked hlimit (hacyclic _)

/-- Four nodes that lead forward along six links, a limit of four, and a locked door on the way. -/
theorem limit_met_only_by_cycle_forward :
    let m := GameMap.ofNodes
      [⟨⟨0⟩, .condition, some ⟨2⟩, .condition ⟨.globalVariable, 1, 1, 0, some ⟨1⟩⟩⟩,
        ⟨⟨1⟩, .diceRoll, some ⟨2⟩, .diceRoll 50 (some ⟨3⟩)⟩,
        ⟨⟨2⟩, .door, some ⟨3⟩, .door ⟨9, none, 0, none, some ⟨3⟩⟩⟩,
        ⟨⟨3⟩, .changeMusic, none, .changeMusic 3 50⟩] [⟨0⟩]
    let ctx := (Context.plain []).withLimit 4
    let origin : Origin := ⟨1, 0, 0, some 1⟩
    let w : Suspension := ⟨.door 9 none 0 none, origin, ⟨2⟩, true⟩
    m.IsLinked ∧ m.nodes.size ≤ ctx.settings.maxChainSteps
      ∧ (∀ start, m.AcyclicFrom start)
      ∧ (∀ first limit,
          (walk ctx m origin ⟨0⟩ .move false .blank).1 ≠ .error (.chainLimitExceeded first limit))
      ∧ ∀ first limit,
          (resume ctx m w .closed .blank).1 ≠ .error (.chainLimitExceeded first limit) := by
  intro m ctx origin w
  have hlinked : m.IsLinked := by decide
  have hlimit : m.nodes.size ≤ ctx.settings.maxChainSteps := by decide
  have hforward : ∀ k : Fin m.nodes.size, ∀ j ∈ m.nodes[k].onward, k.val < j.index.toNat := by decide
  have hacyclic : ∀ start, m.AcyclicFrom start := by
    apply GameMap.acyclicFrom_of_ascending
    intro i n hn
    obtain ⟨hi, rfl⟩ := Array.getElem?_eq_some_iff.1 (GameMap.node_eq_ok.1 hn)
    exact hforward ⟨_, hi⟩
  obtain ⟨hwalk, hresume⟩ := limit_met_only_by_cycle m hlinked ctx hlimit
  refine ⟨hlinked, hlimit, hacyclic, ?_, ?_⟩
  · exact hwalk ⟨0⟩ (hacyclic _) (.inr (by decide)) origin .move false .blank
  · exact hresume w (fun _ _ j _ => hacyclic j) .closed .blank

end TileEvents
