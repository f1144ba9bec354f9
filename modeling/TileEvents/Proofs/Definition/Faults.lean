/-
  TileEvents.Proofs.Definition.Faults
  ───────────────────────────────────
  **WHAT IS REPORTED IS WHAT IS AT FAULT.**

  What can be wrong with a definition is listed here without the checks that
  find it: a link that leads out of the table, a type that is not that of its
  payload, a tile on a position that is taken.  A report names exactly these
  faults.  All that other developments need to know of validation follows from
  this one equivalence.

    • `NodeDefinition.mem_problems` — the faults of a node;
    • `mem_nodeProblems`            — reports of a table name positions;
    • `mem_headProblems`            — so do those of chain heads;
    • `mem_tilesProblems`           — a tile is held against those before it;
    • `MapDefinition.mem_problems`  — the faults of a definition.
-/
import Mathlib.Logic.Basic
import TileEvents.Definition.Validation

namespace TileEvents

/-! ## §1. What can be wrong. -/

/-- A link leads nowhere or to one of `count` nodes. -/
def LinkFits (count : Nat) (target : UInt16) : Prop :=
  target = NodeId.noLink ∨ target.toNat < count

instance (count : Nat) (target : UInt16) : Decidable (LinkFits count target) :=
  inferInstanceAs (Decidable (_ ∨ _))

/-- Where a tile lies. -/
def TileDefinition.position (t : TileDefinition) : UInt8 × UInt8 := (t.x, t.y)

namespace MapDefinition

/-- A tile lies on the map. -/
def Covers (d : MapDefinition) (t : TileDefinition) : Prop := t.x < d.width ∧ t.y < d.height

instance (d : MapDefinition) (t : TileDefinition) : Decidable (d.Covers t) :=
  inferInstanceAs (Decidable (_ ∧ _))

/-- A tile carries one of the events, which count from 1. -/
def Chains (d : MapDefinition) (t : TileDefinition) : Prop :=
  1 ≤ t.event.toNat ∧ t.event.toNat ≤ d.chainHeads.length

instance (d : MapDefinition) (t : TileDefinition) : Decidable (d.Chains t) :=
  inferInstanceAs (Decidable (_ ∧ _))

end MapDefinition

/-- What is at fault in a node at a position of its table. -/
inductive NodeDefinition.Faulty (count position : Nat) (n : NodeDefinition) :
    DefinitionError → Prop
  | type {code : UInt8} : n.payload.typeCode? = some code → code ≠ n.type →
      n.Faulty count position (.typeMismatch position n.type code)
  | next : ¬ LinkFits count n.next → n.Faulty count position (.danglingLink position n.next .next)
  | branch {target : UInt16} : n.payload.branch? = some target → ¬ LinkFits count target →
      n.Faulty count position (.danglingLink position target .branch)
  | chance {chance : UInt8} {alternate : UInt16} : n.payload = .diceRoll chance alternate →
      ¬ chance ≤ 100 → n.Faulty count position (.invalidValue (.diceChance position chance))
  | hours {kind : UInt8} {place : UInt16} {opening closing : UInt8} {closedText : UInt16}
      {usedMap : Option UInt16} :
      n.payload = .enterPlace kind place opening closing closedText usedMap →
        ¬ (opening ≤ 23 ∧ closing ≤ 24) →
          n.Faulty count position (.invalidValue (.openingHours position opening closing))

/-- **What is at fault in a definition**, in the words of the report. -/
inductive MapDefinition.Faulty (d : MapDefinition) : DefinitionError → Prop
  | index : d.index = 0 → d.Faulty (.invalidValue .reservedMapIndex)
  | node {i : Nat} {n : NodeDefinition} {e : DefinitionError} : d.nodes[i]? = some n →
      n.Faulty d.nodes.length i e → d.Faulty e
  | chains : ¬ d.chainHeads.length ≤ 64 →
      d.Faulty (.invalidValue (.tooManyChains d.chainHeads.length))
  | head {i : Nat} {head : UInt16} : d.chainHeads[i]? = some head →
      ¬ head.toNat < d.nodes.length → d.Faulty (.invalidValue (.missingHead (1 + i) head))
  | taken {i j : Nat} {t u : TileDefinition} : d.tiles[i]? = some t → d.tiles[j]? = some u →
      i < j → t.position = u.position → d.Faulty (.duplicateTile u.x u.y)
  | outside {t : TileDefinition} : t ∈ d.tiles → ¬ d.Covers t →
      d.Faulty (.invalidValue (.tileOutside t.x t.y d.width d.height))
  | event {t : TileDefinition} : t ∈ d.tiles → ¬ d.Chains t →
      d.Faulty (.invalidValue (.unknownTileEvent t.x t.y t.event))

/-! ## §2. Reports of single checks. -/

section Reported

variable {e : DefinitionError}

theorem mem_problemIf {bad : Bool} {e' : DefinitionError} :
    e ∈ problemIf bad e' ↔ bad = true ∧ e = e' := by
  cases bad <;> simp [problemIf]

/-- A link is reported if it does not fit. -/
theorem mem_linkProblems {count source : Nat} {role : LinkRole} {target : UInt16} :
    e ∈ linkProblems count source role target
      ↔ ¬ LinkFits count target ∧ e = .danglingLink source target role := by
  rw [linkProblems, mem_problemIf]
  simp [LinkFits]

/-- **What is reported of a node is what is at fault in it.** -/
theorem NodeDefinition.mem_problems {count source : Nat} {n : NodeDefinition} :
    e ∈ n.problems count source ↔ n.Faulty count source e := by
  have htype : e ∈ n.typeProblems source
      ↔ ∃ code, n.payload.typeCode? = some code ∧ code ≠ n.type
          ∧ e = .typeMismatch source n.type code := by
    unfold typeProblems
    cases n.payload.typeCode? <;> simp [mem_problemIf]
  have hbranch : e ∈ n.payload.branchLinks.flatMap (linkProblems count source .branch)
      ↔ ∃ target, n.payload.branch? = some target ∧ ¬ LinkFits count target
          ∧ e = .danglingLink source target .branch := by
    simp only [List.mem_flatMap, mem_linkProblems, PayloadDefinition.branchLinks, List.mem_filter,
      Option.mem_toList, bne_iff_ne]
    constructor
    · rintro ⟨target, ⟨htarget, -⟩, hout, he⟩
      exact ⟨target, htarget, hout, he⟩
    · rintro ⟨target, htarget, hout, he⟩
      -- the reserved number fits, so this is a link
      exact ⟨target, ⟨htarget, fun hlink => hout (.inl hlink)⟩, hout, he⟩
  simp only [problems, List.mem_append, htype, mem_linkProblems, hbranch]
  constructor
  · rintro (((⟨code, hcode, hne, rfl⟩ | ⟨hout, rfl⟩) | ⟨target, htarget, hout, rfl⟩) | he)
    · exact .type hcode hne
    · exact .next hout
    · exact .branch htarget hout
    · unfold PayloadDefinition.valueProblems at he
      split at he
      next hpayload =>
        obtain ⟨hchance, rfl⟩ := mem_problemIf.1 he
        exact .chance hpayload (UInt8.not_le.2 (of_decide_eq_true hchance))
      next hpayload =>
        obtain ⟨hhours, rfl⟩ := mem_problemIf.1 he
        refine .hours hpayload ?_
        simpa only [not_and_or, UInt8.not_le, Bool.or_eq_true, decide_eq_true_eq] using hhours
      next => cases he
  · intro h
    cases h with
    | type hcode hne => exact .inl (.inl (.inl ⟨_, hcode, hne, rfl⟩))
    | next hout => exact .inl (.inl (.inr ⟨hout, rfl⟩))
    | branch htarget hout => exact .inl (.inr ⟨_, htarget, hout, rfl⟩)
    | chance hpayload hchance =>
        rw [hpayload]
        exact .inr (mem_problemIf.2 ⟨decide_eq_true (UInt8.not_le.1 hchance), rfl⟩)
    | hours hpayload hhours =>
        rw [hpayload]
        refine .inr (mem_problemIf.2 ⟨?_, rfl⟩)
        simpa only [not_and_or, UInt8.not_le, Bool.or_eq_true, decide_eq_true_eq] using hhours

namespace MapDefinition

variable {d : MapDefinition} {before : List TileDefinition} {t : TileDefinition}

/-- A position is taken if a tile before lies on it. -/
theorem any_position_iff :
    (before.any fun u => u.x == t.x && u.y == t.y) = true
      ↔ t.position ∈ before.map TileDefinition.position := by
  simp only [List.any_eq_true, Bool.and_eq_true, beq_iff_eq, List.mem_map,
    TileDefinition.position, Prod.mk.injEq]

theorem outside_iff : (d.width ≤ t.x || d.height ≤ t.y : Bool) = true ↔ ¬ d.Covers t := by
  simp only [Covers, Bool.or_eq_true, decide_eq_true_eq, not_and_or, UInt8.not_lt]

theorem unknownEvent_iff :
    (t.event == 0 || d.chainHeads.length < t.event.toNat : Bool) = true ↔ ¬ d.Chains t := by
  have hzero : t.event = 0 ↔ t.event.toNat = 0 := UInt16.toNat_inj.symm
  simp only [Chains, Bool.or_eq_true, beq_iff_eq, decide_eq_true_eq, hzero]
  omega

theorem mem_tileProblems :
    e ∈ d.tileProblems before t
      ↔ (t.position ∈ before.map TileDefinition.position ∧ e = .duplicateTile t.x t.y)
        ∨ (¬ d.Covers t ∧ e = .invalidValue (.tileOutside t.x t.y d.width d.height))
        ∨ (¬ d.Chains t ∧ e = .invalidValue (.unknownTileEvent t.x t.y t.event)) := by
  rw [tileProblems, List.mem_append, List.mem_append, mem_problemIf, mem_problemIf, mem_problemIf,
    any_position_iff, outside_iff, unknownEvent_iff, or_assoc]

end MapDefinition

/-! ## §3. Reports of lists. -/

/-- A report of a table names the position of its node. -/
theorem mem_nodeProblems {count : Nat} : ∀ {source : Nat} {ds : List NodeDefinition},
    e ∈ nodeProblems count source ds
      ↔ ∃ (i : Nat) (n : NodeDefinition), ds[i]? = some n ∧ e ∈ n.problems count (source + i) := by
  intro source ds
  induction ds generalizing source with
  | nil => simp [nodeProblems]
  | cons d ds ih =>
      have hshift (j : Nat) : source + 1 + j = source + (j + 1) := by omega
      simp only [nodeProblems, List.mem_append, ih, hshift]
      constructor
      · rintro (hd | ⟨i, n, hn, he⟩)
        · exact ⟨0, d, rfl, hd⟩
        · exact ⟨i + 1, n, hn, he⟩
      · rintro ⟨i, n, hn, he⟩
        cases i with
        | zero =>
            cases hn
            exact .inl he
        | succ i => exact .inr ⟨i, n, hn, he⟩

theorem mem_headProblems {count : Nat} : ∀ {event : Nat} {heads : List UInt16},
    e ∈ headProblems count event heads
      ↔ ∃ (i : Nat) (head : UInt16), heads[i]? = some head ∧ ¬ head.toNat < count
          ∧ e = .invalidValue (.missingHead (event + i) head) := by
  intro event heads
  induction heads generalizing event with
  | nil => simp [headProblems]
  | cons head heads ih =>
      have hshift (j : Nat) : event + 1 + j = event + (j + 1) := by omega
      simp only [headProblems, List.mem_append, mem_problemIf, ih, hshift, decide_eq_true_eq,
        ← Nat.not_lt]
      constructor
      · rintro (⟨hout, he⟩ | ⟨i, head', hhead', hout, he⟩)
        · exact ⟨0, head, rfl, hout, he⟩
        · exact ⟨i + 1, head', hhead', hout, he⟩
      · rintro ⟨i, head', hhead', hout, he⟩
        cases i with
        | zero =>
            cases hhead'
            exact .inl ⟨hout, he⟩
        | succ i => exact .inr ⟨i, head', hhead', hout, he⟩

/-- A tile is held against those before it. -/
theorem MapDefinition.mem_tilesProblems {d : MapDefinition} : ∀ {before ts : List TileDefinition},
    e ∈ d.tilesProblems before ts
      ↔ ∃ (j : Nat) (t : TileDefinition), ts[j]? = some t
          ∧ e ∈ d.tileProblems ((ts.take j).reverse ++ before) t := by
  intro before ts
  induction ts generalizing before with
  | nil => simp [tilesProblems]
  | cons t ts ih =>
      simp only [tilesProblems, List.mem_append, ih]
      constructor
      · rintro (ht | ⟨j, u, hu, he⟩)
        · exact ⟨0, t, rfl, ht⟩
        · exact ⟨j + 1, u, hu, by simpa using he⟩
      · rintro ⟨j, u, hu, he⟩
        cases j with
        | zero =>
            cases hu
            exact .inl he
        | succ j => exact .inr ⟨j, u, hu, by simpa using he⟩

namespace MapDefinition

variable {d : MapDefinition}

/-- A position is taken at the j-th tile if one of the tiles before it lies there. -/
theorem position_mem_take_iff {ts : List TileDefinition} {j : Nat} {t : TileDefinition} :
    t.position ∈ (ts.take j).map TileDefinition.position
      ↔ ∃ (i : Nat) (u : TileDefinition), i < j ∧ ts[i]? = some u ∧ u.position = t.position := by
  constructor
  · intro h
    obtain ⟨u, hu, hposition⟩ := List.mem_map.1 h
    obtain ⟨i, hi⟩ := List.getElem?_of_mem hu
    rw [List.getElem?_take] at hi
    split at hi
    case isTrue hlt => exact ⟨i, u, hlt, hi, hposition⟩
    case isFalse => cases hi
  · rintro ⟨i, u, hlt, hi, hposition⟩
    have hbefore : (ts.take j)[i]? = some u := by rw [List.getElem?_take, if_pos hlt, hi]
    exact List.mem_map.2 ⟨u, List.mem_of_getElem? hbefore, hposition⟩

/-- **What is reported of a definition is what is at fault in it.** -/
theorem mem_problems : e ∈ d.problems ↔ d.Faulty e := by
  simp only [problems, List.mem_append, mem_problemIf, mem_nodeProblems, mem_headProblems,
    mem_tilesProblems, NodeDefinition.mem_problems, mem_tileProblems, List.append_nil,
    List.map_reverse, List.mem_reverse, position_mem_take_iff, Nat.zero_add]
  constructor
  · rintro ((((⟨hindex, rfl⟩ | ⟨i, n, hn, he⟩) | ⟨hchains, rfl⟩) | ⟨i, head, hhead, hout, rfl⟩)
      | ⟨j, t, ht, ⟨⟨i, u, hlt, hu, hposition⟩, rfl⟩ | ⟨hout, rfl⟩ | ⟨hevent, rfl⟩⟩)
    · exact .index (beq_iff_eq.1 hindex)
    · exact .node hn he
    · exact .chains (Nat.not_le.2 (of_decide_eq_true hchains))
    · exact .head hhead hout
    · exact .taken hu ht hlt hposition
    · exact .outside (List.mem_of_getElem? ht) hout
    · exact .event (List.mem_of_getElem? ht) hevent
  · intro h
    cases h with
    | index hindex => exact .inl (.inl (.inl (.inl ⟨beq_iff_eq.2 hindex, rfl⟩)))
    | node hn he => exact .inl (.inl (.inl (.inr ⟨_, _, hn, he⟩)))
    | chains hchains =>
        exact .inl (.inl (.inr ⟨decide_eq_true (Nat.lt_of_not_le hchains), rfl⟩))
    | head hhead hout => exact .inl (.inr ⟨_, _, hhead, hout, rfl⟩)
    | taken hi hj hlt hposition =>
        exact .inr ⟨_, _, hj, .inl ⟨⟨_, _, hlt, hi, hposition⟩, rfl⟩⟩
    | outside ht hout =>
        obtain ⟨j, hj⟩ := List.getElem?_of_mem ht
        exact .inr ⟨j, _, hj, .inr (.inl ⟨hout, rfl⟩)⟩
    | event ht hevent =>
        obtain ⟨j, hj⟩ := List.getElem?_of_mem ht
        exact .inr ⟨j, _, hj, .inr (.inr ⟨hevent, rfl⟩)⟩

end MapDefinition

end Reported

end TileEvents
