/-
  TileEvents.Proofs.Walk.Ending
  ─────────────────────────────
  **WHAT A WALK CAN END WITH.**

  The induction over a walk is done once, in `WalkInvariant.walkFrom`: what
  holds of every place the walk stands at decides what holds of its end.  The
  first use is the list of all ends of a walk, `walk_ends`, in which every node
  that is named is one the walk can reach from its start.  A suspension names a
  node that is there, consistent, and of the kind its prompt belongs to.
-/
import TileEvents.Proofs.Walk.Control

namespace TileEvents

/-! ## §1. The induction over a walk. -/

/-- `I` holds wherever a walk stands, and `Q` of its result and scene if it ends there. -/
structure WalkInvariant (ctx : Context) (m : GameMap) (origin : Origin) (start : NodeId)
    (limit : Nat) (I : NodeId → Cursor → Scene → Prop)
    (Q : Except ChainError Outcome → Scene → Prop) : Prop where
  runsOut : ∀ {id c s}, I id c s → Q (.error (.chainLimitExceeded start limit)) s
  missing : ∀ {id c s e}, I id c s → m.node id = .error e → Q (.error e) s
  fails : ∀ {id c s n e s'}, I id c s → m.node id = .ok n →
    n.step ctx m origin c s = (.error e, s') → Q (.error e) s'
  rejects : ∀ {id c s n c' s'}, I id c s → m.node id = .ok n →
    n.step ctx m origin c s = (.ok (.reject, c'), s') → Q (.ok .aborted) s'
  awaits : ∀ {id c s n p c' s'}, I id c s → m.node id = .ok n →
    n.step ctx m origin c s = (.ok (.await p, c'), s') →
    Q (.ok (.suspended ⟨p, origin, id, c'.status⟩))
      (s'.note .debug s!"chain suspended at node {id.text}: {p.inspect}")
  ends : ∀ {id c s n c' s'}, I id c s → m.node id = .ok n →
    n.step ctx m origin c s = (.ok (.goto none, c'), s') → Q (.ok (.completed c'.status)) s'
  goesOn : ∀ {id c s n j c' s'}, I id c s → m.node id = .ok n →
    n.step ctx m origin c s = (.ok (.goto (some j), c'), s') → I j c' s'

/-- **The induction over a walk.** -/
theorem WalkInvariant.walkFrom {ctx : Context} {m : GameMap} {origin : Origin} {start : NodeId}
    {limit : Nat} {I : NodeId → Cursor → Scene → Prop}
    {Q : Except ChainError Outcome → Scene → Prop}
    (inv : WalkInvariant ctx m origin start limit I Q) :
    ∀ (left : Nat) (id : NodeId) (c : Cursor) (s : Scene), I id c s →
      Q (walkFrom ctx m origin start limit left id c s).1
        (walkFrom ctx m origin start limit left id c s).2 := by
  -- on the steps that are left; the cases are the ways one step can turn out
  intro left
  induction left with
  | zero => intro id c s h; exact inv.runsOut h
  | succ left ih =>
      intro id c s h
      unfold TileEvents.walkFrom
      cases hn : m.node id with
      | error e => exact inv.missing h hn
      | ok n =>
          simp only
          cases hstep : n.step ctx m origin c s with
          | mk result s' =>
              match result, hstep with
              | .error e, hstep => exact inv.fails h hn hstep
              | .ok (.reject, _), hstep => exact inv.rejects h hn hstep
              | .ok (.await p, _), hstep => exact inv.awaits h hn hstep
              | .ok (.goto none, _), hstep => exact inv.ends h hn hstep
              | .ok (.goto (some j), c'), hstep => exact ih j c' s' (inv.goesOn h hn hstep)

/-! ## §2. Places a walk can come to. -/

namespace GameMap

/-- A walk that stands at the first node can come to the second. -/
inductive Reaches (m : GameMap) (start : NodeId) : NodeId → Prop where
  | here : m.Reaches start start
  | onward {i j : NodeId} {n : Node} (h : m.Reaches start i) (hn : m.node i = .ok n)
      (hj : j ∈ n.onward) : m.Reaches start j

/-- The node of a suspension is there and of the kind that gives its prompt. -/
def Awaits (m : GameMap) (w : Suspension) : Prop :=
  ∃ n, m.node w.node = .ok n ∧ n.isConsistent = true ∧ n.payload.asks w.prompt = true

theorem node_eq_error {m : GameMap} {id : NodeId} {e : ChainError} (h : m.node id = .error e) :
    m.nodes.size ≤ id.index.toNat ∧ e = .corruptData id (.outsideTable m.nodes.size) := by
  unfold node at h
  split at h
  case h_1 => cases h
  case h_2 hnone =>
    injection h with h
    exact ⟨Array.getElem?_eq_none_iff.1 hnone, h.symm⟩

theorem node_eq_ok {m : GameMap} {id : NodeId} {n : Node} :
    m.node id = .ok n ↔ m.nodes[id.index.toNat]? = some n := by
  unfold node
  split <;> simp_all

end GameMap

/-! ## §3. The ends of a walk. -/

/-- **What a walk from `start` can end with.** -/
inductive WalkEnd (m : GameMap) (origin : Origin) (start : NodeId) :
    Except ChainError Outcome → Prop where
  | runsOut (first : NodeId) (limit : Nat) :
      WalkEnd m origin start (.error (.chainLimitExceeded first limit))
  | missing (id : NodeId) (h : m.Reaches start id) (hid : m.nodes.size ≤ id.index.toNat) :
      WalkEnd m origin start (.error (.corruptData id (.outsideTable m.nodes.size)))
  | breaks (id : NodeId) (n : Node) (e : ChainError) (h : m.Reaches start id)
      (hn : m.node id = .ok n) (he : n.Breaks e) : WalkEnd m origin start (.error e)
  | aborted : WalkEnd m origin start (.ok .aborted)
  | completed (status : Bool) : WalkEnd m origin start (.ok (.completed status))
  | suspended (w : Suspension) (h : m.Reaches start w.node) (hw : m.Awaits w)
      (horigin : w.origin = origin) : WalkEnd m origin start (.ok (.suspended w))

/-- A walk stands at places it can come to and ends in one of these ways. -/
theorem walkEnd_invariant (ctx : Context) (m : GameMap) (origin : Origin) (start first : NodeId)
    (limit : Nat) :
    WalkInvariant ctx m origin first limit (fun id _ _ => m.Reaches start id)
      (fun result _ => WalkEnd m origin start result) where
  runsOut _ := .runsOut first limit
  missing h hn := by
    obtain ⟨hsize, rfl⟩ := GameMap.node_eq_error hn
    exact .missing _ h hsize
  fails h hn hstep := .breaks _ _ _ h hn (Node.step_breaks hstep)
  rejects _ _ _ := .aborted
  awaits h hn hstep := by
    obtain ⟨hconsistent, hallows⟩ := Node.step_allows hstep
    exact .suspended _ h ⟨_, hn, hconsistent, hallows.asks _ rfl⟩ rfl
  ends _ _ _ := .completed _
  goesOn h hn hstep := .onward h hn ((Node.step_allows hstep).2.follows _ rfl)

/-- **Every walk ends in one of these ways.** -/
theorem walk_ends (ctx : Context) (m : GameMap) (origin : Origin) (start : NodeId)
    (trigger : Trigger) (status : Bool) (s : Scene) :
    WalkEnd m origin start (walk ctx m origin start trigger status s).1 :=
  (walkEnd_invariant ctx m origin start start _).walkFrom _ start _ _ .here

end TileEvents
