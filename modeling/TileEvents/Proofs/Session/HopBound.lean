/-
  TileEvents.Proofs.Session.HopBound
  ──────────────────────────────────
  **AS MANY HOPS AS THERE ARE NODES.**

  The look-ahead is a loop that counts its hops and gives up on a node that
  only decides once there were as many as the map has nodes.  Every turn of it
  answers or makes one hop more, so it comes to an answer, and the answer is
  the one that the path has, whatever the path looks like.  Fewer hops would
  not do: in a row of nodes that only decide, the link out of the table is met
  by the last hop that is allowed.

    • `turn_cases`                  — what one turn does;
    • `Looks.sound`, `exists_looks` — what the loop comes to, and in how many turns;
    • `hops_needed`                 — no bound below the number of nodes would do;
    • `look_ahead_exact`            — the answer is what there is to find.
-/
import TileEvents.Proofs.Sample
import TileEvents.Proofs.Session.LookAhead

namespace TileEvents

namespace GameMap

/-! ## §1. The loop. -/

/-- What a turn of the loop comes to: an answer, or the place and the hops of the next turn. -/
inductive Turn where
  | answer (kind : Except ChainError (Option EventType))
  | onward (place : Option NodeId) (hops : Nat)

/-- **A turn of the loop**, at a place or past the end of the chain, after so many hops. -/
def turn (m : GameMap) (place : Option NodeId) (hops : Nat) : Turn :=
  match place with
  | none => .answer (.ok none)
  | some id =>
    match m.node id with
    | .error e => .answer (.error e)
    | .ok n =>
      if n.declared.isBranching then
        if hops < m.nodes.size then .onward n.next (hops + 1) else .answer (.ok none)
      else .answer (.ok (some n.declared))

/-- **The loop comes to an answer in so many turns.** -/
inductive Looks (m : GameMap) :
    Option NodeId → Nat → Nat → Except ChainError (Option EventType) → Prop where
  | answer {place hops kind} (h : m.turn place hops = .answer kind) : m.Looks place hops 1 kind
  | onward {place hops place' hops' turns kind} (h : m.turn place hops = .onward place' hops')
      (hrest : m.Looks place' hops' turns kind) : m.Looks place hops (turns + 1) kind

/-- What the look-ahead gives with the hops that are left. -/
def kindFrom (m : GameMap) (place : Option NodeId) (hops : Nat) :
    Except ChainError (Option EventType) :=
  match place with
  | none => .ok none
  | some id => m.firstType (m.nodes.size - hops) id

/-- **What a turn does**: it answers what the look-ahead gives, or it makes a hop, of which there was
one left, and leaves what the look-ahead gives. -/
theorem turn_cases (m : GameMap) (place : Option NodeId) (hops : Nat) :
    m.turn place hops = .answer (m.kindFrom place hops)
      ∨ ∃ place', m.turn place hops = .onward place' (hops + 1) ∧ hops < m.nodes.size
          ∧ m.kindFrom place' (hops + 1) = m.kindFrom place hops := by
  cases place with
  | none => exact .inl rfl
  | some id =>
      cases hn : m.node id with
      | error e =>
          refine .inl ?_
          simp [turn, kindFrom, hn, firstType_of_missing hn]
      | ok n =>
          cases hb : n.declared.isBranching with
          | false =>
              refine .inl ?_
              simp [turn, kindFrom, hn, hb, firstType_of_not_branching hn hb]
          | true =>
              by_cases hleft : hops < m.nodes.size
              · refine .inr ⟨n.next, by simp [turn, hn, hb, hleft], hleft, ?_⟩
                show _ = m.firstType (m.nodes.size - hops) id
                cases hnext : n.next with
                | none => rw [firstType_last hn hb hnext, kindFrom]
                | some j =>
                    have hpast : m.past? id = some j := by simp [past?, hn, hb, hnext]
                    have hcount : m.nodes.size - hops = m.nodes.size - (hops + 1) + 1 := by omega
                    rw [hcount, firstType_past hpast, kindFrom]
              · -- the loop gives up, and the look-ahead has no hops left either
                refine .inl ?_
                have hnone : m.nodes.size - hops = 0 := by omega
                simp [turn, kindFrom, hn, hb, hleft, hnone, firstType_zero hn hb]

/-- **The loop comes to what the look-ahead gives**, and takes at most a turn more than there are
hops left. -/
theorem Looks.sound {m : GameMap} {place : Option NodeId} {hops turns : Nat}
    {kind : Except ChainError (Option EventType)} (h : m.Looks place hops turns kind) :
    turns ≤ m.nodes.size - hops + 1 ∧ kind = m.kindFrom place hops := by
  induction h with
  | @answer place hops kind h =>
      rcases m.turn_cases place hops with hanswer | ⟨_, honward, -⟩
      · rw [hanswer] at h
        cases h
        exact ⟨Nat.le_add_left 1 _, rfl⟩
      · rw [honward] at h
        cases h
  | @onward place hops place' hops' turns kind h _ ih =>
      -- the next turn has a hop less, and what it comes to is what this one does
      rcases m.turn_cases place hops with hanswer | ⟨_, honward, hleft, hsame⟩
      · rw [hanswer] at h
        cases h
      · rw [honward] at h
        cases h
        obtain ⟨hturns, hkind⟩ := ih
        exact ⟨by omega, hkind.trans hsame⟩

/-- **The loop comes to an answer.** -/
theorem exists_looks (m : GameMap) (place : Option NodeId) (hops : Nat) :
    ∃ turns, m.Looks place hops turns (m.kindFrom place hops) := by
  -- on the hops that are left; every turn that does not answer takes one of them
  induction hleft : m.nodes.size - hops using Nat.strongRecOn generalizing place hops with
  | ind left ih =>
      rcases m.turn_cases place hops with hanswer | ⟨place', honward, hlt, hsame⟩
      · exact ⟨1, .answer hanswer⟩
      · obtain ⟨turns, hrest⟩ := ih (m.nodes.size - (hops + 1)) (by omega) place' (hops + 1) rfl
        rw [hsame] at hrest
        exact ⟨turns + 1, .onward honward hrest⟩

/-! ## §2. A row of nodes. -/

/-- So many nodes that only decide, each linked to the next and the last to a place outside. -/
def row (count : Nat) : GameMap :=
  .ofNodes ((List.range count).map fun i =>
    ⟨⟨.ofNat i⟩, .diceRoll, some ⟨.ofNat (i + 1)⟩, .diceRoll 0 none⟩) [⟨0⟩]

theorem row_size (count : Nat) : (row count).nodes.size = count := by
  simp [row, ofNodes]

theorem row_node {count i : Nat} (hcount : count < 65536) (hi : i ≤ count) :
    (row count).node ⟨.ofNat i⟩
      = if i < count then .ok ⟨⟨.ofNat i⟩, .diceRoll, some ⟨.ofNat (i + 1)⟩, .diceRoll 0 none⟩
        else .error (.corruptData ⟨.ofNat i⟩ (.outsideTable count)) := by
  have hnat : (UInt16.ofNat i).toNat = i := UInt16.toNat_ofNat_of_lt' (Nat.lt_of_le_of_lt hi hcount)
  unfold node
  rw [hnat, row_size]
  by_cases hlt : i < count <;> simp [row, ofNodes, hlt]

/-- **Along a row the look-ahead gives up before its end, unless there is a hop for every node that
is left.** -/
theorem row_firstType {count : Nat} (hcount : count < 65536) : ∀ {hops i : Nat}, i ≤ count →
    (row count).firstType hops ⟨.ofNat i⟩
      = if i + hops < count then .ok none
        else .error (.corruptData ⟨.ofNat count⟩ (.outsideTable count)) := by
  -- on the hops; a hop leads one node along the row and leaves as many as before
  intro hops
  induction hops with
  | zero =>
      intro i hi
      rw [firstType, row_node hcount hi, Nat.add_zero]
      by_cases hlt : i < count
      · simp [hlt, EventType.isBranching]
      · obtain rfl : i = count := by omega
        simp
  | succ hops ih =>
      intro i hi
      rw [firstType, row_node hcount hi]
      by_cases hlt : i < count
      · simp only [if_pos hlt, EventType.isBranching, if_true]
        rw [ih hlt, Nat.succ_add, Nat.add_succ]
      · obtain rfl : i = count := by omega
        simp

/-- **No bound below the number of nodes would do.**  For every number of nodes there is a map with a
chain on which any fewer hops give another answer. -/
theorem hops_needed {count : Nat} (hcount : count < 65536) :
    ∃ m : GameMap, m.nodes.size = count ∧ m.chainHead 1 = .ok ⟨0⟩
      ∧ ∀ hops < count, m.firstType hops ⟨0⟩ ≠ m.eventKind 1 := by
  refine ⟨row count, row_size count, rfl, ?_⟩
  intro hops hlt
  have hkind : (row count).eventKind 1 = (row count).firstType count ⟨.ofNat 0⟩ := by
    show (row count).firstType (row count).nodes.size ⟨0⟩ = _
    rw [row_size]
    rfl
  show (row count).firstType hops ⟨.ofNat 0⟩ ≠ _
  rw [hkind, row_firstType hcount (Nat.zero_le _), row_firstType hcount (Nat.zero_le _),
    if_pos (by omega), if_neg (by omega)]
  nofun

/-! ## §3. The answer of the guard. -/

/-- **The bound of the look-ahead is exact.**  For an event with a chain the loop comes to an answer
after at most one turn more than the map has nodes, and to the same answer that the guard is given.
It is a type if and only if the path from the head, over nodes that are conditions or dice rolls,
first finds a node of that other type; nothing if and only if the path ends before or has no end; and
an error, about the place and the size of the table, if and only if the path leaves the table.  With
more hops the answer would be the same. -/
theorem look_ahead_exact {m : GameMap} {event : UInt16} {head : NodeId}
    (hhead : m.chainHead event = .ok head) :
    (∃ turns, m.Looks (some head) 0 turns (m.eventKind event))
      ∧ (∀ turns kind, m.Looks (some head) 0 turns kind →
          turns ≤ m.nodes.size + 1 ∧ kind = m.eventKind event)
      ∧ (∀ t, m.eventKind event = .ok (some t) ↔ m.Finds head t)
      ∧ (m.eventKind event = .ok none ↔ m.Ends head ∨ m.NeverEnds head)
      ∧ (∀ e, m.eventKind event = .error e
          ↔ ∃ j, m.Strays head j ∧ e = .corruptData j (.outsideTable m.nodes.size))
      ∧ ∀ hops, m.nodes.size ≤ hops → m.firstType hops head = m.eventKind event := by
  have hkind : m.eventKind event = m.firstType m.nodes.size head := by
    rw [eventKind, hhead]
  rw [hkind]
  refine ⟨m.exists_looks (some head) 0, ?_, fun _ => firstType_eq_some, firstType_eq_none,
    fun _ => firstType_eq_error, fun _ => firstType_of_le⟩
  intro turns kind hlooks
  exact hlooks.sound

/-- In a row of two, the last hop that is allowed leads out of the table. -/
theorem look_ahead_exact_row :
    (row 2).chainHead 1 = .ok ⟨0⟩ ∧ (row 2).Strays ⟨0⟩ ⟨2⟩
      ∧ (row 2).eventKind 1 = .error (.corruptData ⟨2⟩ (.outsideTable 2))
      ∧ ∀ turns kind, (row 2).Looks (some ⟨0⟩) 0 turns kind →
          turns ≤ 3 ∧ kind = .error (.corruptData ⟨2⟩ (.outsideTable 2)) := by
  have hhead : (row 2).chainHead 1 = .ok ⟨0⟩ := by decide
  have hstrays : (row 2).Strays ⟨0⟩ ⟨2⟩ := ⟨2, by decide, by decide⟩
  obtain ⟨-, hlooks, -, -, herror, -⟩ := look_ahead_exact hhead
  have hkind := (herror _).2 ⟨⟨2⟩, hstrays, rfl⟩
  rw [hkind] at hlooks
  exact ⟨hhead, hstrays, hkind, hlooks⟩

end GameMap

end TileEvents
