/-
  TileEvents.Proofs.Definition.Report
  ───────────────────────────────────
  **VALIDATION REPORTS EVERY PROBLEM ONCE.**

  What a sound definition is can be said without looking at the checks: which
  links lead somewhere, which values are allowed, where tiles may lie.  The
  report of a definition is empty exactly if it is sound.  It names what is at
  fault and nothing else, and it is as long as there are violations, so that
  no problem hides another.

    • `violations_eq_zero`      — a definition without violations is sound;
    • `surplus_add_card`        — the elements of a list that are there again;
    • `length_tilesProblems`    — every tile on a taken position is reported;
    • `length_problems`         — the report is as long as there are violations;
    • `problems_reported_once`  — all of it for every definition.
-/
import Mathlib
import TileEvents.Proofs.Definition.Faults

namespace TileEvents

/-! ## §1. Sound definitions. -/

/-- The values of a payload are allowed. -/
def PayloadDefinition.ValuesFit : PayloadDefinition → Prop
  | .diceRoll chance _ => chance ≤ 100
  | .enterPlace _ _ opening closing _ _ => opening ≤ 23 ∧ closing ≤ 24
  | _ => True

instance (p : PayloadDefinition) : Decidable p.ValuesFit :=
  match p with
  | .diceRoll chance _ => inferInstanceAs (Decidable (chance ≤ 100))
  | .enterPlace _ _ opening closing _ _ =>
      inferInstanceAs (Decidable (opening ≤ 23 ∧ closing ≤ 24))
  | .teleport .. | .door .. | .chest .. | .popupText .. | .spinner .. | .trap .. | .removeBuffs ..
  | .riddlemouth .. | .award .. | .changeTile .. | .startBattle .. | .condition .. | .action ..
  | .conversation .. | .decision .. | .changeMusic .. | .spawn .. | .raw .. => .isTrue trivial

/-- The declared type is the code of the payload, if that has one. -/
def NodeDefinition.Typed (n : NodeDefinition) : Prop := ∀ code ∈ n.payload.typeCode?, code = n.type

instance (n : NodeDefinition) : Decidable n.Typed :=
  decidable_of_iff (n.payload.typeCode?.all (· == n.type) = true) <| by
    unfold NodeDefinition.Typed
    cases n.payload.typeCode? <;> simp

/-- The second link of a node fits, if it has one. -/
def NodeDefinition.Branches (count : Nat) (n : NodeDefinition) : Prop :=
  ∀ target ∈ n.payload.branch?, LinkFits count target

instance (count : Nat) (n : NodeDefinition) : Decidable (n.Branches count) :=
  decidable_of_iff (n.payload.branch?.all (fun t => decide (LinkFits count t)) = true) <| by
    unfold NodeDefinition.Branches
    cases n.payload.branch? <;> simp

/-- **A node that nothing is wrong with**, in a table of `count` nodes. -/
structure NodeDefinition.Sound (count : Nat) (n : NodeDefinition) : Prop where
  typed : n.Typed
  linked : LinkFits count n.next
  branched : n.Branches count
  valued : n.payload.ValuesFit

namespace MapDefinition

/-- **A definition that nothing is wrong with.** -/
structure Sound (d : MapDefinition) : Prop where
  indexed : d.index ≠ 0
  nodes : ∀ n ∈ d.nodes, n.Sound d.nodes.length
  fewChains : d.chainHeads.length ≤ 64
  heads : ∀ head ∈ d.chainHeads, head.toNat < d.nodes.length
  /-- No two tiles lie on one position. -/
  apart : (d.tiles.map TileDefinition.position).Nodup
  inside : ∀ t ∈ d.tiles, d.Covers t
  carrying : ∀ t ∈ d.tiles, d.Chains t

end MapDefinition

/-! ## §2. Violations. -/

/-- One violation, unless `p` holds. -/
def violation (p : Prop) [Decidable p] : Nat := if p then 0 else 1

@[simp] theorem violation_eq_zero {p : Prop} [Decidable p] : violation p = 0 ↔ p := by
  by_cases hp : p <;> simp [violation, hp]

/-- A problem is reported for a violation. -/
theorem length_problemIf {bad : Bool} {e : DefinitionError} {p : Prop} [Decidable p]
    (h : bad = true ↔ ¬ p) : (problemIf bad e).length = violation p := by
  by_cases hp : p
  · rw [violation, if_pos hp, problemIf, if_neg (fun hbad => h.1 hbad hp)]
    rfl
  · rw [violation, if_neg hp, problemIf, if_pos (h.2 hp)]
    rfl

section Surplus

variable {α : Type} [DecidableEq α]

/-- How often an element of a list is there again: of `k` equal ones, `k - 1` are. -/
def surplus (l : List α) : Nat := ∑ a ∈ l.toFinset, (l.count a - 1)

/-- **The first of every kind and those that are there again make up a list.** -/
theorem surplus_add_card (l : List α) : surplus l + l.toFinset.card = l.length := by
  have hcount : ∀ a ∈ l.toFinset, 1 ≤ l.count a :=
    fun a ha => List.one_le_count_iff.2 (List.mem_toFinset.1 ha)
  have hle : l.toFinset.card ≤ l.length := l.toFinset_card_le
  rw [surplus, Finset.sum_tsub_distrib _ hcount, List.sum_toFinset_count_eq_length,
    ← Finset.card_eq_sum_ones, Nat.sub_add_cancel hle]

/-- Nothing is there again if no two elements are equal. -/
theorem surplus_eq_zero {l : List α} : surplus l = 0 ↔ l.Nodup := by
  rw [surplus, Finset.sum_eq_zero_iff, List.nodup_iff_count_le_one]
  constructor
  · intro h a
    by_cases ha : a ∈ l
    · have hzero := h a (List.mem_toFinset.2 ha)
      omega
    · rw [List.count_eq_zero_of_not_mem ha]
      exact Nat.zero_le 1
  · intro h a _
    exact Nat.sub_eq_zero_of_le (h a)

end Surplus

/-- The violations of a node in a table of `count` nodes. -/
def NodeDefinition.violations (count : Nat) (n : NodeDefinition) : Nat :=
  violation n.Typed + violation (LinkFits count n.next)
    + violation (n.Branches count) + violation n.payload.ValuesFit

/-- **The violations of a definition**, counted for each of its records. -/
def MapDefinition.violations (d : MapDefinition) : Nat :=
  violation (d.index ≠ 0)
    + (d.nodes.map (NodeDefinition.violations d.nodes.length)).sum
    + violation (d.chainHeads.length ≤ 64)
    + d.chainHeads.countP (fun head => ¬ head.toNat < d.nodes.length)
    + (surplus (d.tiles.map TileDefinition.position)
      + d.tiles.countP (fun t => ¬ d.Covers t)
      + d.tiles.countP (fun t => ¬ d.Chains t))

theorem NodeDefinition.violations_eq_zero {count : Nat} {n : NodeDefinition} :
    n.violations count = 0 ↔ n.Sound count := by
  simp only [violations, Nat.add_eq_zero_iff, violation_eq_zero]
  exact ⟨fun ⟨⟨⟨ht, hl⟩, hb⟩, hv⟩ => ⟨ht, hl, hb, hv⟩,
    fun h => ⟨⟨⟨h.typed, h.linked⟩, h.branched⟩, h.valued⟩⟩

/-- **A definition without violations is sound.** -/
theorem MapDefinition.violations_eq_zero {d : MapDefinition} : d.violations = 0 ↔ d.Sound := by
  simp only [violations, Nat.add_eq_zero_iff, violation_eq_zero, List.sum_eq_zero_iff,
    List.forall_mem_map, NodeDefinition.violations_eq_zero, List.countP_eq_zero, surplus_eq_zero,
    decide_eq_true_eq, not_not]
  exact ⟨fun ⟨⟨⟨⟨hi, hn⟩, hc⟩, hh⟩, ⟨ha, hin⟩, he⟩ => ⟨hi, hn, hc, hh, ha, hin, he⟩,
    fun h => ⟨⟨⟨⟨h.indexed, h.nodes⟩, h.fewChains⟩, h.heads⟩, ⟨h.apart, h.inside⟩, h.carrying⟩⟩

instance (d : MapDefinition) : Decidable d.Sound :=
  decidable_of_iff (d.violations = 0) MapDefinition.violations_eq_zero

/-! ## §3. The length of a report. -/

theorem length_linkProblems (count source : Nat) (role : LinkRole) (target : UInt16) :
    (linkProblems count source role target).length = violation (LinkFits count target) := by
  apply length_problemIf
  simp [LinkFits]

namespace NodeDefinition

theorem length_typeProblems (source : Nat) (n : NodeDefinition) :
    (n.typeProblems source).length = violation n.Typed := by
  unfold typeProblems
  cases hcode : n.payload.typeCode? with
  | none =>
      have htyped : n.Typed := by simp [Typed, hcode]
      simp [violation, htyped]
  | some code =>
      apply length_problemIf
      simp [Typed, hcode]

/-- A node has at most one more link, and the reserved number is none. -/
theorem length_branchProblems (count source : Nat) (n : NodeDefinition) :
    (n.payload.branchLinks.flatMap (linkProblems count source .branch)).length
      = violation (n.Branches count) := by
  unfold PayloadDefinition.branchLinks
  cases hbranch : n.payload.branch? with
  | none =>
      have hfits : n.Branches count := by simp [Branches, hbranch]
      simp [violation, hfits]
  | some target =>
      have hfits : n.Branches count ↔ LinkFits count target := by simp [Branches, hbranch]
      by_cases hlink : target = NodeId.noLink
      · simp [violation, hfits, LinkFits, hlink]
      · simp [hlink, length_linkProblems, violation, hfits]

theorem length_valueProblems (source : Nat) (p : PayloadDefinition) :
    (p.valueProblems source).length = violation p.ValuesFit := by
  cases p with
  | diceRoll chance alternate =>
      apply length_problemIf
      simp [PayloadDefinition.ValuesFit]
  | enterPlace kind place opening closing closedText usedMap =>
      apply length_problemIf
      simp only [PayloadDefinition.ValuesFit, Bool.or_eq_true, decide_eq_true_eq, not_and_or,
        UInt8.not_le]
  | _ => simp [PayloadDefinition.valueProblems, violation, PayloadDefinition.ValuesFit]

theorem length_problems (count source : Nat) (n : NodeDefinition) :
    (n.problems count source).length = n.violations count := by
  simp only [problems, violations, List.length_append, length_typeProblems, length_linkProblems,
    length_branchProblems, length_valueProblems]

end NodeDefinition

theorem length_nodeProblems (count : Nat) : ∀ (source : Nat) (ds : List NodeDefinition),
    (nodeProblems count source ds).length
      = (ds.map (NodeDefinition.violations count)).sum := by
  intro source ds
  induction ds generalizing source with
  | nil => rfl
  | cons d ds ih =>
      rw [nodeProblems, List.length_append, d.length_problems, ih, List.map_cons, List.sum_cons]

theorem length_headProblems (count : Nat) : ∀ (event : Nat) (heads : List UInt16),
    (headProblems count event heads).length = heads.countP (fun head => ¬ head.toNat < count) := by
  intro event heads
  induction heads generalizing event with
  | nil => rfl
  | cons head heads ih =>
      rw [headProblems, List.length_append, ih, List.countP_cons, Nat.add_comm]
      simp [problemIf, apply_ite List.length]

namespace MapDefinition

variable {d : MapDefinition} {before : List TileDefinition} {t : TileDefinition}

theorem length_tileProblems :
    (d.tileProblems before t).length
      = violation (t.position ∉ before.map TileDefinition.position) + violation (d.Covers t)
        + violation (d.Chains t) := by
  rw [tileProblems, List.length_append, List.length_append,
    length_problemIf (any_position_iff.trans not_not.symm), length_problemIf outside_iff,
    length_problemIf unknownEvent_iff]

/-- **Every tile on a taken position is reported**, and so is every one that lies outside the map or
carries no event. -/
theorem length_tilesProblems : ∀ {before ts : List TileDefinition},
    (d.tilesProblems before ts).length
        + ((before ++ ts).map TileDefinition.position).toFinset.card
      = ts.length + (before.map TileDefinition.position).toFinset.card
        + ts.countP (fun t => ¬ d.Covers t) + ts.countP (fun t => ¬ d.Chains t) := by
  intro before ts
  induction ts generalizing before with
  | nil => simp [tilesProblems]
  | cons t ts ih =>
      have hsplit : (d.tilesProblems before (t :: ts)).length
          = (d.tileProblems before t).length + (d.tilesProblems (t :: before) ts).length :=
        List.length_append
      have hcard : ((before ++ t :: ts).map TileDefinition.position).toFinset
          = (((t :: before) ++ ts).map TileDefinition.position).toFinset := by
        ext p
        simp only [List.mem_toFinset, List.mem_map, List.mem_append, List.mem_cons]
        grind
      -- a position that is not taken is one more
      have htaken : violation (t.position ∉ before.map TileDefinition.position)
            + ((t :: before).map TileDefinition.position).toFinset.card
          = 1 + (before.map TileDefinition.position).toFinset.card := by
        rw [List.map_cons, List.toFinset_cons, Finset.card_insert_eq_ite]
        simp only [List.mem_toFinset, violation]
        split_ifs <;> omega
      have hcovers : violation (d.Covers t) = if (¬ d.Covers t : Bool) then 1 else 0 := by
        by_cases h : d.Covers t <;> simp [violation, h]
      have hchains : violation (d.Chains t) = if (¬ d.Chains t : Bool) then 1 else 0 := by
        by_cases h : d.Chains t <;> simp [violation, h]
      have hrest := @ih (t :: before)
      rw [hsplit, hcard, length_tileProblems, hcovers, hchains, List.length_cons, List.countP_cons,
        List.countP_cons]
      omega

/-- **The report is as long as there are violations.** -/
theorem length_problems (d : MapDefinition) : d.problems.length = d.violations := by
  have htiles := @length_tilesProblems d [] d.tiles
  have hsurplus := surplus_add_card (d.tiles.map TileDefinition.position)
  have hindex : (problemIf (d.index == 0) (.invalidValue .reservedMapIndex)).length
      = violation (d.index ≠ 0) := length_problemIf (by simp)
  have hchains : (problemIf (eventBitsPerMap < d.chainHeads.length)
      (.invalidValue (.tooManyChains d.chainHeads.length))).length
      = violation (d.chainHeads.length ≤ 64) :=
    length_problemIf (decide_eq_true_iff.trans Nat.not_le.symm)
  rw [List.nil_append, List.map_nil, List.toFinset_nil, Finset.card_empty] at htiles
  rw [List.length_map] at hsurplus
  simp only [problems, violations, List.length_append, hindex, length_nodeProblems, hchains,
    length_headProblems]
  omega

end MapDefinition

/-- **Validation reports every problem once.**  It reports nothing exactly if the definition is
sound; it reports as many problems as there are violations, and nothing but what is at fault. -/
theorem problems_reported_once (d : MapDefinition) :
    (d.problems = [] ↔ d.Sound) ∧ d.problems.length = d.violations
      ∧ ∀ e, e ∈ d.problems ↔ d.Faulty e := by
  refine ⟨?_, d.length_problems, fun _ => d.mem_problems⟩
  rw [← List.length_eq_zero_iff, d.length_problems, d.violations_eq_zero]

/-- Three tiles on one position, two of them with an event that is not there: four problems. -/
example : MapDefinition.violations
    ⟨1, "", false, 8, 8, 0, [⟨5, 0xffff, .spinner none⟩], [0], [⟨2, 3, 1⟩, ⟨2, 3, 0⟩, ⟨2, 3, 7⟩],
      []⟩ = 4 := by decide +kernel

end TileEvents
