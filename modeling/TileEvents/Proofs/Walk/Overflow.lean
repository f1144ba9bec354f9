/-
  TileEvents.Proofs.Walk.Overflow
  ───────────────────────────────
  **WALKS THAT BREAK DOWN.**

  A condition may have more to add up than a word can hold.  One build lets the
  sum start again at zero and walks on; another checks its additions, and there
  the program breaks down before the condition is decided.  Up to that
  condition both builds make the same visits, so a walk breaks down if and only
  if one of its visits has too much to add up.

    • `Build`, `Build.outcome`  — what a build makes of visits;
    • `Node.step_of_overflows`  — a node that overflows is visited;
    • `walkFromIn_succ`         — a walk in a build, node by node.
-/
import TileEvents.Proofs.Walk.Visits

namespace TileEvents

/-! ## §1. Builds. -/

/-- What becomes of a sum that leaves its range. -/
inductive Build where
  /-- The sum starts again at zero. -/
  | wrapping
  /-- The program breaks down. -/
  | checking
  deriving DecidableEq

/-- Whether a node is a condition that has too much to add up. -/
def Node.overflows (n : Node) (save : Savegame) : Bool :=
  match n.payload with
  | .condition c => n.isConsistent && c.overflows save
  | _ => false

/-- **Whether the program breaks down on a visit.** -/
def Visit.breaks (build : Build) (v : Visit) : Bool :=
  build == .checking && v.node.overflows v.before.save

/-- **What comes of visits**: this result, unless the program breaks down on one of them. -/
def Build.outcome {α : Type} (build : Build) (visits : List Visit) (result : α) : Option α :=
  if visits.any (Visit.breaks build) then none else some result

/-- A build whose sums wrap never breaks down. -/
theorem Build.any_breaks_wrapping (visits : List Visit) :
    visits.any (Visit.breaks .wrapping) = false :=
  List.any_eq_false.2 fun _ _ => Bool.false_ne_true

/-! ## §2. Walks. -/

variable (ctx : Context) (m : GameMap)

/-- **A walk in a build**, if the program does not break down. -/
def walkFromIn (build : Build) (origin : Origin) (start : NodeId) (limit left : Nat) (id : NodeId)
    (c : Cursor) (s : Scene) : Option (Except ChainError Outcome × Scene) :=
  build.outcome (visitsFrom ctx m origin left id c s)
    (walkFrom ctx m origin start limit left id c s)

/-- A node that overflows is visited: nothing else is wrong with it. -/
theorem Node.step_of_overflows {n : Node} {s : Scene} (h : n.overflows s.save = true)
    (origin : Origin) (c : Cursor) : ∃ r s', n.step ctx m origin c s = (.ok r, s') := by
  unfold overflows at h
  split at h
  · next k hp =>
      have hc := (Bool.and_eq_true_iff.1 h).1
      unfold step check perform
      simp only [hc, if_true, hp]
      exact ⟨_, _, rfl⟩
  · cases h

/-- The visit of a node comes before those of the nodes it hands over to. -/
theorem visitsFrom_cons {origin : Origin} {id : NodeId} {n : Node} {c : Cursor} {s s' : Scene}
    {r : Directive × Cursor} (hn : m.node id = .ok n)
    (hstep : n.step ctx m origin c s = (.ok r, s')) (left : Nat) :
    visitsFrom ctx m origin (left + 1) id c s
      = ⟨origin, n, s, s'⟩ ::
        match r with
        | (.goto (some next), c') => visitsFrom ctx m origin left next c' s'
        | _ => [] := by
  rw [visitsFrom]
  simp only [hn, hstep]
  obtain ⟨directive, c'⟩ := r
  cases directive with
  | goto next => cases next <;> rfl
  | reject | await p => rfl

/-- **A walk in a build goes node by node.**  It breaks down at a node that overflows, if additions
are checked, and otherwise does what the node says. -/
theorem walkFromIn_succ (build : Build) (origin : Origin) (start : NodeId) (limit left : Nat)
    (id : NodeId) (c : Cursor) (s : Scene) :
    walkFromIn ctx m build origin start limit (left + 1) id c s
      = match m.node id with
        | .error e => some (.error e, s)
        | .ok n =>
          if build = .checking ∧ n.overflows s.save = true then none
          else
            match n.step ctx m origin c s with
            | (.ok (.goto (some next), c'), s') =>
              walkFromIn ctx m build origin start limit left next c' s'
            | _ => some (walkFrom ctx m origin start limit (left + 1) id c s) := by
  unfold walkFromIn
  cases hn : m.node id with
  | error e =>
      rw [walkFrom, visitsFrom, hn]
      rfl
  | ok n =>
      have hbreaks (s' : Scene) : Visit.breaks build ⟨origin, n, s, s'⟩
          = decide (build = .checking ∧ n.overflows s.save = true) := by
        rw [Visit.breaks, Bool.decide_and, Bool.decide_eq_true]
        rfl
      simp only
      by_cases hover : build = .checking ∧ n.overflows s.save = true
      · obtain ⟨r, s', hstep⟩ := Node.step_of_overflows ctx m hover.2 origin c
        rw [if_pos hover, Build.outcome, visitsFrom_cons ctx m hn hstep, List.any_cons, hbreaks,
          decide_eq_true hover]
        rfl
      · rw [if_neg hover]
        rcases hstep : n.step ctx m origin c s with ⟨e | r, s'⟩
        · rw [visitsFrom]
          simp only [hn, hstep]
          rfl
        · rw [Build.outcome, visitsFrom_cons ctx m hn hstep, List.any_cons, hbreaks,
            decide_eq_false hover, Bool.false_or]
          -- only a node that hands over has others after it
          match r, hstep with
          | (.goto (some next), c'), hstep =>
              rw [walkFrom]
              simp only [hn, hstep]
              rfl
          | (.goto none, c'), hstep | (.reject, c'), hstep | (.await p, c'), hstep => rfl

end TileEvents
