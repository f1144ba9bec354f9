/-
  TileEvents.Proofs.Party.Positions
  ─────────────────────────────────
  **POSITIONS IN THE PARTY.**

  Members are told apart by their positions.  Two lists of positions are made
  up in passing, member by member: those of the living, whom awards and traps
  reach, and those of the members who are to be reported.  Both are the
  positions of the entries that pass a test, in ascending order, and this is
  all that any later proof needs of them.

    • `mem_positionsFrom`, `positionsFrom_ascending` — such positions;
    • `Audience.mem_members`      — whom an audience stands for;
    • `Audience.members_ascending` — each once and in party order.
-/
import TileEvents.Walk.Award

namespace TileEvents

/-! ## §1. Entries that pass a test. -/

/-- The positions of the entries that pass a test, the first entry standing at `position`. -/
def positionsFrom {α : Type} (test : α → Bool) : Nat → List α → List Nat
  | _, [] => []
  | position, a :: rest =>
    if test a then position :: positionsFrom test (position + 1) rest
    else positionsFrom test (position + 1) rest

section

variable {α : Type} {test : α → Bool}

/-- **A position is listed if the entry there passes the test.** -/
theorem mem_positionsFrom {position i : Nat} {entries : List α} :
    i ∈ positionsFrom test position entries
      ↔ position ≤ i ∧ ∃ a, entries[i - position]? = some a ∧ test a = true := by
  induction entries generalizing position with
  | nil => simp [positionsFrom]
  | cons a rest ih =>
      have hlisted : i ∈ positionsFrom test position (a :: rest)
          ↔ (i = position ∧ test a = true) ∨ i ∈ positionsFrom test (position + 1) rest := by
        rw [positionsFrom]
        cases test a <;> simp
      rw [hlisted, ih]
      by_cases hfirst : i = position
      · subst hfirst
        have hbehind : ¬ i + 1 ≤ i := Nat.not_succ_le_self i
        simp [hbehind]
      -- behind the first entry the others stand one further on
      · constructor
        · rintro (⟨heq, -⟩ | ⟨hle, b, hb, htest⟩)
          · exact absurd heq hfirst
          · refine ⟨by omega, b, ?_, htest⟩
            rw [show i - position = (i - (position + 1)) + 1 by omega]
            exact hb
        · rintro ⟨hle, b, hb, htest⟩
          refine .inr ⟨by omega, b, ?_, htest⟩
          rw [show i - position = (i - (position + 1)) + 1 by omega] at hb
          exact hb

/-- **The positions are listed in ascending order.** -/
theorem positionsFrom_ascending (position : Nat) (entries : List α) :
    (positionsFrom test position entries).Pairwise (· < ·) := by
  induction entries generalizing position with
  | nil => exact .nil
  | cons a rest ih =>
      unfold positionsFrom
      split
      · refine List.pairwise_cons.2 ⟨?_, ih (position + 1)⟩
        intro i hi
        exact (mem_positionsFrom.1 hi).1
      · exact ih (position + 1)

end

/-! ## §2. The living. -/

theorem livingFrom_eq (position : Nat) (party : List Member) :
    livingFrom position party = positionsFrom Member.isAlive position party := by
  induction party generalizing position with
  | nil => rfl
  | cons m rest ih => rw [livingFrom, positionsFrom, ih]

namespace Audience

/-- **An audience stands for living members**: all of them, or the acting one. -/
theorem mem_members {a : Audience} {party : List Member} {active i : Nat} :
    i ∈ a.members party active
      ↔ (∃ m, party[i]? = some m ∧ m.isAlive = true) ∧ (a = .activePlayer → i = active) := by
  cases a with
  | everyone =>
      show i ∈ livingFrom 0 party ↔ _
      rw [livingFrom_eq, mem_positionsFrom]
      simp
  | activePlayer =>
      show i ∈ (if party[active]?.any Member.isAlive then [active] else []) ↔ _
      split
      case isTrue hany =>
        rw [List.mem_singleton]
        constructor
        · rintro rfl
          exact ⟨(Option.any_eq_true _ _).1 hany, fun _ => rfl⟩
        · exact fun h => h.2 rfl
      case isFalse hany =>
        refine iff_of_false List.not_mem_nil ?_
        rintro ⟨hliving, hactive⟩
        rw [hactive rfl] at hliving
        exact hany ((Option.any_eq_true _ _).2 hliving)

/-- **Each is named once, in party order.** -/
theorem members_ascending (a : Audience) (party : List Member) (active : Nat) :
    (a.members party active).Pairwise (· < ·) := by
  cases a with
  | everyone =>
      show (livingFrom 0 party).Pairwise _
      rw [livingFrom_eq]
      exact positionsFrom_ascending 0 party
  | activePlayer =>
      show (if party[active]?.any Member.isAlive then [active] else []).Pairwise _
      split
      · exact List.pairwise_singleton _ _
      · exact .nil

end Audience

end TileEvents
