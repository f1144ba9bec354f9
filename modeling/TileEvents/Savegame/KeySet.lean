/-
  TileEvents.Savegame.KeySet
  ──────────────────────────
  **SETS OF KEYS IN ASCENDING ORDER.**

  A savegame remembers flags as sets of keys and writes them in ascending
  order.  A set is kept as the list of its keys, strictly ascending by rank,
  so equal sets are equal lists.  Main statements: membership after an
  insertion and after a removal, and that both keep the order.
-/

namespace TileEvents

/-! ## §1. Ranked keys. -/

/-- A type whose values are told apart and ordered by a number. -/
class Ranked (α : Type) where
  rank : α → Nat
  rank_inj : ∀ a b : α, rank a = rank b → a = b

export Ranked (rank)

instance : Ranked UInt8 := ⟨UInt8.toNat, fun _ _ h => UInt8.toNat_inj.1 h⟩

instance : Ranked UInt16 := ⟨UInt16.toNat, fun _ _ h => UInt16.toNat_inj.1 h⟩

/-! ## §2. The type. -/

/-- A finite set of keys, as the ascending list of its members. -/
@[ext] structure KeySet (α : Type) [Ranked α] where
  toList : List α
  ascending : toList.Pairwise (rank · < rank ·)

namespace KeySet

variable {α : Type} [Ranked α]

instance [DecidableEq α] : DecidableEq (KeySet α) := fun s t =>
  decidable_of_iff (s.toList = t.toList) ⟨KeySet.ext, congrArg _⟩

/-- The set without members. -/
def empty : KeySet α := ⟨[], List.Pairwise.nil⟩

instance : Inhabited (KeySet α) := ⟨empty⟩

/-- Whether `a` is a member. -/
def contains (s : KeySet α) (a : α) : Bool := s.toList.any (rank · == rank a)

/-- How many members there are. -/
def size (s : KeySet α) : Nat := s.toList.length

/-! ## §3. Insertion. -/

/-- `a` put at its place in an ascending list, unless it is there already. -/
def place (a : α) : List α → List α
  | [] => [a]
  | b :: rest =>
    if rank a < rank b then a :: b :: rest
    else if rank a = rank b then b :: rest
    else b :: place a rest

theorem mem_place (a x : α) (l : List α) : x ∈ place a l ↔ x = a ∨ x ∈ l := by
  induction l with
  | nil => simp [place]
  | cons b rest ih =>
    simp only [place]
    split
    · simp
    · split
      next h =>
        have := Ranked.rank_inj a b h
        subst this
        simp
      next => simp only [List.mem_cons, ih]; grind

theorem pairwise_place (a : α) (l : List α) (h : l.Pairwise (rank · < rank ·)) :
    (place a l).Pairwise (rank · < rank ·) := by
  induction l with
  | nil => simp [place]
  | cons b rest ih =>
    obtain ⟨hb, hr⟩ := List.pairwise_cons.1 h
    simp only [place]
    split
    next hlt =>
      refine List.pairwise_cons.2 ⟨fun x hx => ?_, h⟩
      rcases List.mem_cons.1 hx with rfl | hx
      · exact hlt
      · exact Nat.lt_trans hlt (hb x hx)
    next hge =>
      split
      · exact h
      next hne =>
        refine List.pairwise_cons.2 ⟨fun x hx => ?_, ih hr⟩
        rcases (mem_place a x rest).1 hx with rfl | hx
        · omega
        · exact hb x hx

/-- The set with `a` added. -/
def insert (a : α) (s : KeySet α) : KeySet α := ⟨place a s.toList, pairwise_place a _ s.ascending⟩

/-! ## §4. Removal. -/

/-- The set with `a` removed. -/
def erase (a : α) (s : KeySet α) : KeySet α :=
  ⟨s.toList.filter (rank · != rank a), s.ascending.filter _⟩

/-- The set with `a` added or removed, as `present` says. -/
def assign (a : α) (present : Bool) (s : KeySet α) : KeySet α :=
  if present then s.insert a else s.erase a

/-- The set of the members of a list. -/
def ofList (l : List α) : KeySet α := l.foldl (fun s a => s.insert a) empty

/-! ## §5. Membership. -/

theorem contains_iff {s : KeySet α} {a : α} : s.contains a = true ↔ a ∈ s.toList := by
  simp only [contains, List.any_eq_true, beq_iff_eq]
  constructor
  · rintro ⟨b, hb, h⟩
    exact Ranked.rank_inj b a h ▸ hb
  · intro h
    exact ⟨a, h, rfl⟩

@[simp] theorem mem_insert {s : KeySet α} {a x : α} :
    x ∈ (s.insert a).toList ↔ x = a ∨ x ∈ s.toList :=
  mem_place a x s.toList

@[simp] theorem mem_erase {s : KeySet α} {a x : α} :
    x ∈ (s.erase a).toList ↔ x ∈ s.toList ∧ x ≠ a := by
  simp only [erase, List.mem_filter, bne_iff_ne, ne_eq]
  constructor
  · rintro ⟨hx, h⟩
    exact ⟨hx, fun e => h (e ▸ rfl)⟩
  · rintro ⟨hx, h⟩
    exact ⟨hx, fun e => h (Ranked.rank_inj x a e)⟩

/-- Two sets with the same members are the same. -/
theorem eq_of_mem_iff {s t : KeySet α} (h : ∀ a, a ∈ s.toList ↔ a ∈ t.toList) : s = t := by
  apply KeySet.ext
  obtain ⟨l, hl⟩ := s
  obtain ⟨m, hm⟩ := t
  simp only at h ⊢
  induction l generalizing m with
  | nil =>
    cases m with
    | nil => rfl
    | cons b m => exact absurd ((h b).2 (by simp)) (by simp)
  | cons a l ih =>
    cases m with
    | nil => exact absurd ((h a).1 (by simp)) (by simp)
    | cons b m =>
      obtain ⟨ha, hl'⟩ := List.pairwise_cons.1 hl
      obtain ⟨hb, hm'⟩ := List.pairwise_cons.1 hm
      have hab : a = b := by
        rcases List.mem_cons.1 ((h a).1 (by simp)) with e | hmem
        · exact e
        · rcases List.mem_cons.1 ((h b).2 (by simp)) with e | hmem'
          · exact e.symm
          · have h1 := hb a hmem
            have h2 := ha b hmem'
            omega
      subst hab
      congr 1
      refine ih hl' m hm' fun x => ?_
      constructor
      · intro hx
        rcases List.mem_cons.1 ((h x).1 (List.mem_cons_of_mem a hx)) with e | hx'
        · exact absurd (ha x hx) (by simp [e])
        · exact hx'
      · intro hx
        rcases List.mem_cons.1 ((h x).2 (List.mem_cons_of_mem a hx)) with e | hx'
        · exact absurd (hb x hx) (by simp [e])
        · exact hx'

end KeySet

end TileEvents
